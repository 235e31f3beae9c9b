import Tritonn.Data.Stream
import Tritonn.Lib.Interpolation
import Tritonn.Lib.Logged

/-!
The K-factor of a metering line over its frequency, with its division.

The points in use are the first one and those behind it up to the first without a positive
frequency.

* `calcualateKFDiv` is `Stream.calcualateKF` with the divisor that it divides by, if there is one;
* `findKF_eq` and `findKFDiv_log`: the loop looks up the frequency in the points in use;
* `calcualateKF_spec`: the divisor is never zero, the result is the K-factor of a point or lies
  between those of two neighbours, whatever the order of the points, and for increasing frequencies
  it is the interpolation through the points, which is continuous.
-/

namespace Tritonn

open Interpolation (bracket bracket_eq_some_iff bracket_bounds lookup segment)

/-- A point as argument and value. -/
def FactorPoint.coord (p : FactorPoint) : LREAL × LREAL := (p.hz, p.kf)

namespace FlowFactor

variable {f : FlowFactor} {freq : LREAL}

/-- The points behind the first one, up to the terminator. -/
def used (f : FlowFactor) : List FactorPoint :=
  (List.ofFn f.point).tail.takeWhile fun p => 0 < p.hz

/-- No point up to `i`, but for the first one, is a terminator. -/
def InUse (f : FlowFactor) (i : Fin 12) : Prop :=
  ∀ j : Fin 12, 0 < j.val → j ≤ i → 0 < (f.point j).hz

/-- The frequencies of the points in use increase. -/
def Increasing (f : FlowFactor) : Prop :=
  ∀ i j, i < j → f.InUse j → (f.point i).hz < (f.point j).hz

/-- The frequency lies between the points `i` and `i + 1`, and not below an earlier one. -/
structure Brackets (f : FlowFactor) (freq : LREAL) (i : Fin 11) : Prop where
  inUse : f.InUse i.succ
  below : ∀ j ≤ i.castSucc, (f.point j).hz ≤ freq
  above : freq < (f.point i.succ).hz

/-! ### The points in use -/

lemma getElem?_takeWhile {α : Type} {P : α → Bool} {l : List α} {k : ℕ} {a : α} :
    (l.takeWhile P)[k]? = some a ↔ l[k]? = some a ∧ ∀ j ≤ k, ∀ b, l[j]? = some b → P b = true := by
  induction l generalizing k with
  | nil => simp
  | cons c l ih =>
      rw [List.takeWhile_cons]
      cases hc : P c with
      | false =>
          rw [if_neg (by decide), List.getElem?_nil]
          refine iff_of_false (by simp) fun h => ?_
          rw [h.2 0 (Nat.zero_le k) c rfl] at hc
          exact absurd hc (by decide)
      | true =>
          rw [if_pos rfl]
          cases k with
          | zero =>
              refine ⟨fun h => ⟨h, fun j hj b hb => ?_⟩, fun h => h.1⟩
              obtain rfl := Nat.le_zero.mp hj
              obtain rfl := Option.some.inj hb
              exact hc
          | succ k =>
              rw [List.getElem?_cons_succ, List.getElem?_cons_succ, ih]
              refine and_congr_right fun _ => ⟨fun h j hj b hb => ?_, fun h j hj b hb => ?_⟩
              · cases j with
                | zero =>
                    obtain rfl := Option.some.inj hb
                    exact hc
                | succ j => exact h j (by omega) b hb
              · exact h (j + 1) (by omega) b hb

lemma getElem?_tail_ofFn {k : ℕ} {p : FactorPoint} :
    (List.ofFn f.point).tail[k]? = some p ↔ ∃ h : k + 1 < 12, p = f.point ⟨k + 1, h⟩ := by
  rw [List.getElem?_tail, List.getElem?_ofFn]
  split_ifs with h
  · rw [Option.some_inj]
    exact ⟨fun heq => ⟨h, heq.symm⟩, fun ⟨_, heq⟩ => heq.symm⟩
  · exact iff_of_false (by simp) fun ⟨h', _⟩ => h h'

/-- The points of the table that `calcualateKF` reads, by their indices. -/
lemma getElem?_used {k : ℕ} {p : FactorPoint} :
    (f.point 0 :: f.used)[k]? = some p ↔ ∃ h : k < 12, f.InUse ⟨k, h⟩ ∧ p = f.point ⟨k, h⟩ := by
  cases k with
  | zero =>
      rw [List.getElem?_cons_zero, Option.some_inj]
      refine ⟨fun heq => ⟨by omega, fun j hj hj' => ?_, heq.symm⟩, fun ⟨_, _, heq⟩ => heq.symm⟩
      exact absurd (hj.trans_le (Fin.le_def.mp hj')) (lt_irrefl _)
  | succ k =>
      rw [List.getElem?_cons_succ, used, getElem?_takeWhile, getElem?_tail_ofFn]
      constructor
      · rintro ⟨⟨h, heq⟩, hpos⟩
        refine ⟨h, fun j hj hj' => ?_, heq⟩
        obtain ⟨i, rfl⟩ := Fin.exists_succ_eq.mpr (Fin.pos_iff_ne_zero.mp hj)
        have hle : i.val ≤ k := Nat.le_of_succ_le_succ (Fin.le_def.mp hj')
        have hi : (List.ofFn f.point).tail[i.val]? = some (f.point i.succ) :=
          getElem?_tail_ofFn.mpr ⟨i.succ.isLt, rfl⟩
        exact of_decide_eq_true (hpos i hle _ hi)
      · rintro ⟨h, hpos, heq⟩
        refine ⟨⟨h, heq⟩, fun j hj b hb => ?_⟩
        obtain ⟨h', rfl⟩ := getElem?_tail_ofFn.mp hb
        exact decide_eq_true (hpos ⟨j + 1, h'⟩ (Nat.succ_pos j) (Nat.succ_le_succ hj))

/-- The bracket of a frequency, by the index of its left point. -/
lemma bracket_used_iff (h0 : (f.point 0).hz ≤ freq) {a b : LREAL × LREAL} :
    bracket freq (f.point 0).coord (f.used.map FactorPoint.coord) = some (a, b) ↔
      ∃ i : Fin 11, f.Brackets freq i ∧ a = (f.point i.castSucc).coord ∧
        b = (f.point i.succ).coord := by
  have hget : ∀ k (q : LREAL × LREAL),
      ((f.point 0).coord :: f.used.map FactorPoint.coord)[k]? = some q ↔
        ∃ h : k < 12, f.InUse ⟨k, h⟩ ∧ q = (f.point ⟨k, h⟩).coord := by
    intro k q
    rw [← List.map_cons, List.getElem?_map, Option.map_eq_some_iff]
    constructor
    · rintro ⟨p, hp, rfl⟩
      obtain ⟨h, huse, rfl⟩ := getElem?_used.mp hp
      exact ⟨h, huse, rfl⟩
    · rintro ⟨h, huse, rfl⟩
      exact ⟨_, getElem?_used.mpr ⟨h, huse, rfl⟩, rfl⟩
  rw [bracket_eq_some_iff h0]
  constructor
  · rintro ⟨k, ha, hb, hle, hlt⟩
    obtain ⟨-, -, rfl⟩ := (hget k a).mp ha
    obtain ⟨hk, huse, rfl⟩ := (hget (k + 1) b).mp hb
    refine ⟨⟨k, by omega⟩, ⟨huse, fun j hj => ?_, hlt⟩, rfl, rfl⟩
    have hj' : j.val ≤ k := hj
    exact hle j hj' _ ((hget j _).mpr
      ⟨j.isLt, fun i hi hij => huse i hi (hij.trans (Nat.le_succ_of_le hj')), rfl⟩)
  · rintro ⟨i, hi, rfl, rfl⟩
    have huse : f.InUse i.castSucc := fun j hj hj' =>
      hi.inUse j hj (hj'.trans (Fin.castSucc_lt_succ).le)
    refine ⟨i, (hget _ _).mpr ⟨i.castSucc.isLt, huse, rfl⟩,
      (hget _ _).mpr ⟨i.succ.isLt, hi.inUse, rfl⟩, fun j hj q hq => ?_, hi.above⟩
    obtain ⟨h, -, rfl⟩ := (hget j q).mp hq
    exact hi.below ⟨j, h⟩ hj

/-- The points in use as a list increase like their indices. -/
lemma Increasing.coord (h : f.Increasing) :
    Interpolation.Increasing ((f.point 0).coord :: f.used.map FactorPoint.coord) := by
  rw [← List.map_cons, Interpolation.Increasing, List.pairwise_map, List.pairwise_iff_getElem]
  intro i j hi hj hij
  obtain ⟨hi', -, heqi⟩ := getElem?_used.mp (List.getElem?_eq_getElem hi)
  obtain ⟨hj', huse, heqj⟩ := getElem?_used.mp (List.getElem?_eq_getElem hj)
  rw [heqi, heqj]
  exact h ⟨i, hi'⟩ ⟨j, hj'⟩ hij huse

lemma coord_mem (i : Fin 12) (h : f.InUse i) :
    (f.point i).coord ∈ (f.point 0).coord :: f.used.map FactorPoint.coord := by
  rw [← List.map_cons]
  exact List.mem_map_of_mem (List.mem_of_getElem? (getElem?_used.mpr ⟨i.isLt, h, rfl⟩))

end FlowFactor

namespace Stream

/-! ### The functions of the source with their divisors -/

/-- The loop of `calcualateKF`. -/
def findKFDiv (freq : LREAL) (prev : FactorPoint) : List FactorPoint → Logged LREAL LREAL
  | [] => pure prev.kf
  | p :: ps =>
      if p.hz ≤ 0 then pure prev.kf
      else if freq < p.hz then do
        let slope ← Logged.div (p.kf - prev.kf) (p.hz - prev.hz)
        pure (prev.kf + slope * (freq - prev.hz))
      else findKFDiv freq p ps

/-- `rStream::calcualateKF`. -/
def calcualateKFDiv (s : Stream) : Logged LREAL LREAL :=
  if s.link.freq ≤ 0 then pure 0
  else if !s.linearization then pure s.curFactor.keypadKF
  else if s.link.freq < s.curFactor.first.hz then pure s.curFactor.first.kf
  else findKFDiv s.link.freq s.curFactor.first (List.ofFn s.curFactor.point).tail

lemma findKFDiv_val (freq : LREAL) (prev : FactorPoint) (ps : List FactorPoint) :
    (findKFDiv freq prev ps).val = findKF freq prev ps := by
  induction ps generalizing prev with
  | nil => rfl
  | cons p ps ih =>
      rw [findKFDiv, findKF]
      split_ifs
      · rfl
      · rfl
      · exact ih p

@[simp] lemma calcualateKFDiv_val (s : Stream) : s.calcualateKFDiv.val = s.calcualateKF := by
  rw [calcualateKFDiv, calcualateKF, FlowFactor.first]
  split_ifs
  · rfl
  · rfl
  · rfl
  · exact findKFDiv_val _ _ _

/-! ### The loop as a look-up -/

/-- The loop looks the frequency up in the points before the terminator. -/
lemma findKF_eq (freq : LREAL) (prev : FactorPoint) (ps : List FactorPoint) :
    findKF freq prev ps
      = lookup freq prev.coord ((ps.takeWhile fun p => 0 < p.hz).map FactorPoint.coord) := by
  induction ps generalizing prev with
  | nil => rfl
  | cons p ps ih =>
      rw [findKF]
      rcases le_or_gt p.hz 0 with h | h
      · rw [if_pos h, List.takeWhile_cons_of_neg (by simpa using h)]
        rfl
      · rw [if_neg (not_le.mpr h), List.takeWhile_cons_of_pos (by simpa using h), List.map_cons,
          lookup, ih]
        rfl

/-- It divides once when the frequency has a bracket. -/
lemma findKFDiv_log (freq : LREAL) (prev : FactorPoint) (ps : List FactorPoint) :
    (findKFDiv freq prev ps).log
      = ((bracket freq prev.coord
          ((ps.takeWhile fun p => 0 < p.hz).map FactorPoint.coord)).map
            fun c => c.2.1 - c.1.1).toList := by
  induction ps generalizing prev with
  | nil => rfl
  | cons p ps ih =>
      rw [findKFDiv]
      rcases le_or_gt p.hz 0 with h | h
      · rw [if_pos h, List.takeWhile_cons_of_neg (by simpa using h)]
        rfl
      · rw [if_neg (not_le.mpr h), List.takeWhile_cons_of_pos (by simpa using h), List.map_cons,
          bracket]
        by_cases hlt : freq < p.hz
        · rw [if_pos hlt, if_pos (show freq < p.coord.1 from hlt)]
          rfl
        · rw [if_neg hlt, if_neg (show ¬ freq < p.coord.1 from hlt)]
          exact ih p

section Frequency

variable {s : Stream}

/-- The table as the interpolation through its points. -/
lemma calcualateKF_eq (hfreq : 0 < s.link.freq) (hlin : s.linearization = true) :
    s.calcualateKF
      = Interpolation.eval (s.curFactor.point 0).coord (s.curFactor.used.map FactorPoint.coord)
          s.link.freq := by
  rw [calcualateKF, if_neg (not_le.mpr hfreq), if_neg (by simp [hlin]), findKF_eq]
  rfl

/-- The divisor of `calcualateKF` is the distance of the two points around the frequency. -/
lemma mem_calcualateKFDiv_log (d : LREAL) :
    d ∈ s.calcualateKFDiv.log ↔
      0 < s.link.freq ∧ s.linearization = true ∧
        ∃ i : Fin 11, s.curFactor.Brackets s.link.freq i ∧
          d = (s.curFactor.point i.succ).hz - (s.curFactor.point i.castSucc).hz := by
  rw [calcualateKFDiv, FlowFactor.first]
  split_ifs with hfreq hlin h0
  · exact iff_of_false (by simp) fun h => absurd hfreq (not_le.mpr h.1)
  · exact iff_of_false (by simp) fun h => by simp [h.2.1] at hlin
  · refine iff_of_false (by simp) fun ⟨_, _, i, hi, _⟩ => ?_
    exact absurd h0 (not_lt.mpr (hi.below 0 (Fin.zero_le _)))
  · have hlin' : s.linearization = true := by simpa using hlin
    have hget : ∀ c : (LREAL × LREAL) × (LREAL × LREAL),
        bracket s.link.freq (s.curFactor.point 0).coord
            (s.curFactor.used.map FactorPoint.coord) = some c ↔ _ := fun c =>
      FlowFactor.bracket_used_iff (not_lt.mp h0)
    rw [findKFDiv_log, Option.mem_toList, Option.map_eq_some_iff]
    constructor
    · rintro ⟨c, hc, rfl⟩
      obtain ⟨i, hi, ha, hb⟩ := (hget c).mp hc
      refine ⟨not_le.mp hfreq, hlin', i, hi, ?_⟩
      rw [ha, hb]
      rfl
    · rintro ⟨-, -, i, hi, rfl⟩
      exact ⟨⟨(s.curFactor.point i.castSucc).coord, (s.curFactor.point i.succ).coord⟩,
        (hget _).mpr ⟨i, hi, rfl, rfl⟩, rfl⟩

/-- A frequency in the table has a bracket, or the K-factor of a point. -/
lemma calcualateKF_cases (hfreq : 0 < s.link.freq) (hlin : s.linearization = true) :
    (∃ i, s.calcualateKF = (s.curFactor.point i).kf) ∨
      ∃ i : Fin 11, s.curFactor.Brackets s.link.freq i ∧
        s.calcualateKF = segment (s.curFactor.point i.castSucc).coord
          (s.curFactor.point i.succ).coord s.link.freq := by
  rw [calcualateKF_eq hfreq hlin, Interpolation.eval]
  split_ifs with h0
  · exact .inl ⟨0, rfl⟩
  · cases hb : bracket s.link.freq (s.curFactor.point 0).coord
        (s.curFactor.used.map FactorPoint.coord) with
    | none =>
        obtain ⟨q, hq, heq⟩ := Interpolation.lookup_of_none hb
        rw [← List.map_cons] at hq
        obtain ⟨p, hp, rfl⟩ := List.mem_map.mp hq
        obtain ⟨k, hk⟩ := List.mem_iff_getElem?.mp hp
        obtain ⟨h, -, rfl⟩ := FlowFactor.getElem?_used.mp hk
        exact .inl ⟨⟨k, h⟩, heq⟩
    | some c =>
        obtain ⟨i, hi, ha, hb'⟩ := (FlowFactor.bracket_used_iff (not_lt.mp h0)).mp hb
        refine .inr ⟨i, hi, ?_⟩
        rw [Interpolation.lookup_of_bracket hb, ha, hb']

lemma FlowFactor.Brackets.lt {f : FlowFactor} {freq : LREAL} {i : Fin 11} (h : f.Brackets freq i) :
    (f.point i.castSucc).hz < (f.point i.succ).hz :=
  (h.below _ le_rfl).trans_lt h.above

end Frequency

/-- The line at another frequency. -/
def withFreq (s : Stream) (freq : LREAL) : Stream := { s with link := { s.link with freq := freq } }

/-- With the linearization on, `calcualateKF` does not divide by zero and returns the K-factor of a
point or a value between those of two neighbours around the frequency.  If the frequencies of the
points in use increase it takes the value of each of them and is continuous. -/
theorem calcualateKF_spec (s : Stream) (hlin : s.linearization = true) :
    (∀ freq, 0 < freq →
      (s.withFreq freq).calcualateKFDiv.All (· ≠ 0) ∧
      ((∃ i, (s.withFreq freq).calcualateKF = (s.curFactor.point i).kf) ∨
        ∃ i : Fin 11, (s.curFactor.point i.castSucc).hz ≤ freq ∧
          freq < (s.curFactor.point i.succ).hz ∧
          (s.withFreq freq).calcualateKF
            ∈ Set.uIcc (s.curFactor.point i.castSucc).kf (s.curFactor.point i.succ).kf)) ∧
    (s.curFactor.Increasing →
      (∀ i, s.curFactor.InUse i → 0 < (s.curFactor.point i).hz →
        (s.withFreq (s.curFactor.point i).hz).calcualateKF = (s.curFactor.point i).kf) ∧
      ContinuousOn (fun freq => (s.withFreq freq).calcualateKF) (Set.Ioi 0)) := by
  have heval : ∀ freq, 0 < freq → (s.withFreq freq).calcualateKF
      = Interpolation.eval (s.curFactor.point 0).coord (s.curFactor.used.map FactorPoint.coord)
          freq := fun freq hfreq => calcualateKF_eq (s := s.withFreq freq) hfreq hlin
  refine ⟨fun freq hfreq => ⟨fun d hd => ?_, ?_⟩, fun hinc => ⟨fun i hi hpos => ?_, ?_⟩⟩
  · obtain ⟨-, -, i, hi, rfl⟩ := (mem_calcualateKFDiv_log d).mp hd
    exact (sub_pos.mpr (FlowFactor.Brackets.lt hi)).ne'
  · rcases calcualateKF_cases (s := s.withFreq freq) hfreq hlin with ⟨i, hi⟩ | ⟨i, hi, heq⟩
    · exact .inl ⟨i, hi⟩
    · have hle := hi.below i.castSucc le_rfl
      have habove : freq < (s.curFactor.point i.succ).hz := hi.above
      refine .inr ⟨i, hle, habove, ?_⟩
      rw [heq]
      exact Interpolation.segment_mem_uIcc (a := (s.curFactor.point i.castSucc).coord)
        (b := (s.curFactor.point i.succ).coord) hle habove
  · rw [heval _ hpos]
    exact Interpolation.eval_eq_of_mem hinc.coord (FlowFactor.coord_mem i hi)
  · have hcont : Continuous (Interpolation.eval (s.curFactor.point 0).coord
        (s.curFactor.used.map FactorPoint.coord)) := Interpolation.continuous_eval hinc.coord
    refine hcont.continuousOn.congr fun freq hfreq => ?_
    exact heval freq (Set.mem_Ioi.mp hfreq)

/-- A table of two points, at ten and at twenty hertz. -/
def twoPoints : FlowFactor where
  keypadKF := 0
  keypadMF := 1
  point := fun i => if i.val = 0 then ⟨10, 100⟩ else if i.val = 1 then ⟨20, 200⟩ else ⟨0, 0⟩

lemma twoPoints_increasing : twoPoints.Increasing := by
  intro i j hij hj
  have h2 : j < 2 := by
    by_contra h
    exact lt_irrefl (0 : LREAL) (hj 2 (by decide) (not_lt.mp h))
  obtain rfl : j = 1 := by omega
  obtain rfl : i = 0 := by omega
  norm_num [twoPoints]

/-- A line that interpolates between them. -/
def interpolated : Stream where
  isCalc := false
  link := ⟨0, 0, 20, 1, 850, 850, 850⟩
  paramUnit := fun _ => 0
  flow := fun _ => 0
  flowmeter := .turbine
  maintenance := false
  linearization := true
  resetTotals := false
  acceptKF := false
  curFactor := twoPoints
  setFactor := twoPoints
  curKF := 0
  total := ⟨.clear, .clear, .clear, .clear, fun _ => 0⟩

/-- At the second point the K-factor is its own. -/
theorem calcualateKF_spec_twoPoints : (interpolated.withFreq 20).calcualateKF = 200 := by
  have huse : twoPoints.InUse 1 := fun j hj hj' => by
    obtain rfl : j = 1 := by omega
    norm_num [twoPoints]
  exact ((calcualateKF_spec interpolated rfl).2 twoPoints_increasing).1 1 huse
    (by norm_num [interpolated, twoPoints])

end Stream

end Tritonn
