import Tritonn.Data.Station
import Tritonn.Lib.Run

/-!
Conservation between a station and its streams.

A station adds the sum of the increments of its streams to its own totals, and rounds it to five
digits; each stream rounds its own increment.  The raw totals agree modulo the limit exactly as
long as rounding the sum is the sum of the rounded increments (`RoundsAsSum`):

* `scan_conserved_iff` is the step: from a station that agrees with its streams, the totals agree
  after the scan if and only if the increments of the scan round as their sum;
* `conserved_iff` is the statement about runs;
* `conserved_fails` is a scan of two streams with one pulse each, where they do not.
-/

namespace Tritonn.Station

open Wrap (carry carry_nonneg carry_mem carry_round_modEq roundHalf roundHalf_nonneg
  roundHalf_mem modEq_sum)
open Run (Along)
open AddCommGroup (ModEq)

variable {n : ℕ} (env : Env) (units : UnitsTable)

/-- The raw totals of the station are those of its streams together, modulo the limit. -/
def Conserved (s : Station n) : Prop :=
  ∀ ch, ModEq maxTotalLimit (s.total.raw.qty ch) (∑ i, (s.stream i).total.raw.qty ch)

/-- All raw totals are zero. -/
def Fresh (s : Station n) : Prop :=
  (∀ ch, s.total.raw.qty ch = 0) ∧ ∀ i ch, (s.stream i).total.raw.qty ch = 0

/-- A scan with every stream in accounting, no reset and increments that are not negative. -/
def Accounts (s : Station n) (inp : StationInput n) : Prop :=
  InAccounting inp ∧ ∀ i ch, 0 ≤ (s.increment inp i).qty ch

/-- Modulo the limit, the sum of the increments of a scan rounds to the sum of the rounded
increments. -/
def RoundsAsSum (s : Station n) (inp : StationInput n) : Prop :=
  ∀ ch, ModEq maxTotalLimit (round env (∑ i, (s.increment inp i).qty ch) 5)
    (∑ i, round env ((s.increment inp i).qty ch) 5)

/-- A raw total that is a multiple of `0.00001` and not negative. -/
def Kept (raw : LREAL) : Prop :=
  0 ≤ raw ∧ raw ∈ AddSubgroup.zmultiples (1 / 100000 : LREAL)

/-- The invariant of a run: the raw totals stay on the grid. -/
structure AllKept (s : Station n) : Prop where
  station : ∀ ch, Kept (s.total.raw.qty ch)
  stream : ∀ i ch, Kept ((s.stream i).total.raw.qty ch)

variable {raw d : LREAL}

lemma Kept.zero : Kept 0 := ⟨le_rfl, zero_mem _⟩

/-- A raw total that takes an increment stays on the grid. -/
lemma Kept.step (h : Kept raw) (hd : 0 ≤ d) :
    Kept (carry maxTotalLimit (round env (raw + d) 5)).1 := by
  rw [round_five env (add_nonneg h.1 hd)]
  exact ⟨carry_nonneg (roundHalf_nonneg (by norm_num) (add_nonneg h.1 hd)),
    carry_mem maxTotalLimit_mem (roundHalf_mem _ _)⟩

/-- A raw total gains the rounded increment, modulo the limit. -/
lemma Kept.modEq (h : Kept raw) (hd : 0 ≤ d) :
    ModEq maxTotalLimit (carry maxTotalLimit (round env (raw + d) 5)).1
      (raw + round env d 5) := by
  rw [round_five env (add_nonneg h.1 hd), round_five env hd]
  exact carry_round_modEq (by norm_num) h.2

variable {env units} {s : Station n} {inp : StationInput n}

lemma Fresh.allKept (h : s.Fresh) : s.AllKept :=
  ⟨fun ch => h.1 ch ▸ Kept.zero, fun i ch => h.2 i ch ▸ Kept.zero⟩

lemma Fresh.conserved (h : s.Fresh) : s.Conserved := fun ch => by
  simp [h.1 ch, h.2]

lemma Accounts.sum_nonneg (h : s.Accounts inp) (ch : Channel) :
    0 ≤ ∑ i, (s.increment inp i).qty ch :=
  Finset.sum_nonneg fun i _ => h.2 i ch

/-- A scan keeps all raw totals on the grid. -/
lemma AllKept.scan (hs : s.AllKept) (h : s.Accounts inp) :
    (s.scan env units inp).AllKept := by
  refine ⟨fun ch => ?_, fun i ch => ?_⟩
  · rw [scan_raw_qty env units s h.1]
    exact (hs.station ch).step env (h.sum_nonneg ch)
  · rw [scan_stream_raw_qty env units s h.1]
    exact (hs.stream i ch).step env (h.2 i ch)

/-- The step: a station that agrees with its streams agrees with them after a scan if and only if
the increments of the scan round as their sum. -/
lemma scan_conserved_iff (hs : s.AllKept) (hc : s.Conserved) (h : s.Accounts inp) :
    (s.scan env units inp).Conserved ↔ RoundsAsSum env s inp := by
  refine forall_congr' fun ch => ?_
  have hstation := (hs.station ch).modEq env (h.sum_nonneg ch)
  have hstream := modEq_sum Finset.univ fun i _ => (hs.stream i ch).modEq env (h.2 i ch)
  rw [Finset.sum_add_distrib] at hstream
  rw [scan_raw_qty env units s h.1]
  simp only [scan_stream_raw_qty env units s h.1]
  constructor
  · intro h'
    exact (hc ch).add_left_cancel ((hstation.symm.trans h').trans hstream)
  · intro h'
    exact (hstation.trans ((hc ch).add h')).trans hstream.symm

/-- In a run from zero totals with every stream in accounting, the raw totals of the station are
those of its streams modulo the limit after every scan if and only if in every scan the increments
round as their sum. -/
theorem conserved_iff (h0 : s.Fresh) {scans : List (StationInput n)}
    (hrun : Along (scan env units) Accounts s scans) :
    (∀ pre, pre <+: scans → (pre.foldl (scan env units) s).Conserved) ↔
      Along (scan env units) (RoundsAsSum env) s scans := by
  rw [Run.forall_prefix_iff, and_iff_right h0.conserved]
  exact Run.along_congr (fun s => s.AllKept ∧ s.Conserved)
    (fun s inp hs h => scan_conserved_iff hs.1 hs.2 h)
    (fun s inp hs h hP => ⟨hs.1.scan h, hP⟩) ⟨h0.allKept, h0.conserved⟩ hrun

/-! ### Increments that do not round as their sum -/

/-- A Coriolis stream without totals. -/
def emptyStream : Stream where
  isCalc := false
  link := ⟨0, 0, 0, 0, 0, 0, 0⟩
  paramUnit := fun _ => 0
  flow := fun _ => 0
  flowmeter := .coriolis
  maintenance := false
  linearization := false
  resetTotals := false
  acceptKF := false
  curFactor := ⟨0, 0, fun _ => ⟨0, 0⟩⟩
  setFactor := ⟨0, 0, fun _ => ⟨0, 0⟩⟩
  curKF := 0
  total := ⟨.clear, .clear, .clear, .clear, fun _ => 0⟩

/-- Two streams. -/
def twoStreams : Station 2 where
  isCalc := false
  isValid := fun _ => false
  value := fun _ => 0
  paramUnit := fun _ => 0
  flow := fun _ => 0
  stream := fun _ => emptyStream
  total := ⟨.clear, .clear, .clear, .clear, fun _ => 0⟩
  unit := ⟨0, 0⟩
  resetTotals := false

/-- A scan in which each stream counts one pulse of `count` to the ton, at the density of water. -/
def onePulse (kf : LREAL) : StationInput 2 where
  value := fun _ => 0
  resetTotals := false
  stream := fun _ =>
    { link := ⟨1, 1, 0, 0, 1000, 1000, 1000⟩, maintenance := false, linearization := false,
      resetTotals := false, acceptKF := true, setFactor := ⟨kf, 1, fun _ => ⟨0, 0⟩⟩ }

lemma twoStreams_fresh : twoStreams.Fresh := ⟨fun _ => rfl, fun _ _ => rfl⟩

lemma onePulse_increment {kf : LREAL} (hkf : isValidDelim kf) (i : Fin 2) (ch : Channel) :
    (twoStreams.increment (onePulse kf) i).qty ch = 1 / kf := by
  have hd : isValidDelim 1000 := by norm_num [isValidDelim, compareLrealPrec]
  have h0 : ¬ (1 : LREAL) ≤ 0 := by norm_num
  have h1 : (toUDINT 1).toNat = 1 := by simp [toUDINT]
  cases ch <;>
    simp [increment, Stream.increment, Stream.load, onePulse, twoStreams, emptyStream,
      Stream.prepare, Stream.commands, Stream.calcualateKF, Stream.calcInc, Stream.delimsValid,
      Stream.massInc, Total.setInc, hkf, hd, h0, h1]

lemma onePulse_accounts {kf : LREAL} (hkf : isValidDelim kf) (h0 : 0 ≤ kf) :
    twoStreams.Accounts (onePulse kf) :=
  ⟨⟨rfl, fun _ => ⟨rfl, rfl⟩⟩, fun i ch => by
    rw [onePulse_increment hkf]; positivity⟩

lemma fourGrams : roundHalf (100000 : LREAL) (1 / 250000) = 0 := by
  have h : ⌊(1 / 250000 * 100000 + 1 / 2 : LREAL)⌋ = 0 := by
    rw [Int.floor_eq_zero_iff]; constructor <;> norm_num
  rw [roundHalf, h]
  norm_num

lemma tenGrams : roundHalf (100000 : LREAL) (1 / 250000 + 1 / 250000) = 1 / 100000 := by
  have h : ⌊((1 / 250000 + 1 / 250000) * 100000 + 1 / 2 : LREAL)⌋ = 1 := by
    rw [Int.floor_eq_iff]; constructor <;> norm_num
  rw [roundHalf, h]
  norm_num

/-- Two streams with one pulse of four grams each: the streams round it away, the station counts
ten grams. -/
theorem conserved_fails :
    twoStreams.Fresh ∧ twoStreams.Accounts (onePulse 250000) ∧
      ¬ (twoStreams.scan ⟨⟨fun _ => 5, 5⟩, 0⟩ (fun _ => ⟨none, none⟩)
        (onePulse 250000)).Conserved := by
  have hkf : isValidDelim 250000 := by norm_num [isValidDelim, compareLrealPrec]
  have hacc := onePulse_accounts hkf (by norm_num)
  refine ⟨twoStreams_fresh, hacc, fun hc => ?_⟩
  have h := (scan_conserved_iff twoStreams_fresh.allKept twoStreams_fresh.conserved hacc).mp hc
    .mass
  simp only [onePulse_increment hkf, Fin.sum_univ_two] at h
  rw [round_five _ (by norm_num), round_five _ (by norm_num), tenGrams, fourGrams, add_zero] at h
  obtain ⟨a, b, hab⟩ := h
  have hnat : a * 999999999999999 + 1 = b * 999999999999999 := by
    have : (a * 999999999999999 + 1 : ℚ) = b * 999999999999999 := by
      simp only [nsmul_eq_mul, maxTotalLimit] at hab
      linarith
    exact_mod_cast this
  omega

/-- A run of one scan with one pulse of a ton each, whose increments round as their sum. -/
theorem conserved_iff_onePulse :
    ((∀ pre, pre <+: [onePulse 1] →
        (pre.foldl (scan ⟨⟨fun _ => 5, 5⟩, 0⟩ fun _ => ⟨none, none⟩) twoStreams).Conserved) ↔
      Along (scan ⟨⟨fun _ => 5, 5⟩, 0⟩ fun _ => ⟨none, none⟩)
        (RoundsAsSum ⟨⟨fun _ => 5, 5⟩, 0⟩) twoStreams [onePulse 1]) := by
  have h1 : isValidDelim 1 := by norm_num [isValidDelim, compareLrealPrec]
  exact conserved_iff twoStreams_fresh ⟨onePulse_accounts h1 (by norm_num), trivial⟩

end Tritonn.Station
