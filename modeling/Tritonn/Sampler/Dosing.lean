import Tritonn.Lib.Dose
import Tritonn.Lib.Run
import Tritonn.Sampler.Start
import Tritonn.Sampler.Work
import Tritonn.Totals.Accumulate

/-!
The grabs by the volume or the mass.

* `Metered` is a sampler with the reading of the raw total, the flow and the number of grabs since
  its start, and `Proportional` says that the number of grabs is within one of the flow divided by
  the quota of a grab;
* `Begins` is a cycle that starts the sampler by the totals, by the input or by the command, and
  `Steady` a cycle behind it with an increment below the quota of a grab, which the total takes in
  as `rTotal::calculate` does (`raw_calculate`);
* `proportional_iff` says that from a start the grabs are proportional in a run if and only if the
  flow is not above the quota of one grab: the start divides by zero, and no grab is taken;
* `Marked` has the reading at the cycle in which the flow last passed a multiple of the interval,
  too, and `ahead_iff` says what the handler would do with an interval that is a number, which no
  start leaves behind: the grabs are proportional if and only if the reading is ahead of the last
  mark by an interval whenever the flow passes a multiple.
-/

namespace Tritonn

open Dose (crossed crossed_zero crossed_mono crossed_add_le crossed_mul_le lt_crossed_iff
  abs_sub_le_one_iff)

open Wrap (carry)

/-- The raw total of a channel moves on by its increment, if both are on the grid. -/
lemma Total.raw_calculate (env : Env) (unit : ObjUnit) (t : Total) (ch : Channel)
    (hraw : 0 ≤ t.raw.qty ch ∧ t.raw.qty ch ∈ AddSubgroup.zmultiples (1 / 100000 : LREAL))
    (hinc : 0 ≤ t.inc.qty ch ∧ t.inc.qty ch ∈ AddSubgroup.zmultiples (1 / 100000 : LREAL)) :
    (t.calculate env unit).1.raw.qty ch =
      (carry maxTotalLimit (t.raw.qty ch + t.inc.qty ch)).1 := by
  rw [calculate_raw_qty, round_five env (add_nonneg hraw.1 hinc.1),
    Wrap.roundHalf_of_mem (by norm_num) (add_mem hraw.2 hinc.2)]

/-- What is to be sampled in all by a channel: `m_probeMass` or `m_probeVolume`. -/
def SamplerSettings.quota (set : SamplerSettings) : Channel → LREAL
  | .mass => set.probeMass
  | _ => set.probeVolume

namespace Sampler

variable {I : LREAL} {ch : Channel} {s t u r : Sampler} {i : SamplerInput}

/-! ### A start by the totals -/

/-- A start that a working state by the totals comes from has divided the quota by zero. -/
lemma onStart_byTotal (h : s.onStart i = some t) (hne : t.state ≠ .error) :
    ∃ ch, t.state.channel = some ch ∧ t.interval = .div (i.set.quota ch) 0 ∧ t.grab = s.grab ∧
      t.grabPresent = 0 := by
  have hmethod : s.clear.method = s.method := rfl
  rw [onStart] at h
  dsimp only at h
  split_ifs at h
  · cases h
    exact absurd rfl hne
  · rw [hmethod] at h
    cases hm : s.method with
    | period => simp [hm, divUDINT, clear] at h
    | volume =>
        rw [hm] at h
        cases h
        exact ⟨.volume, rfl, rfl, rfl, rfl⟩
    | mass =>
        rw [hm] at h
        cases h
        exact ⟨.mass, rfl, rfl, rfl, rfl⟩
    | other value =>
        rw [hm] at h
        cases h
        exact absurd rfl hne

/-- The handler by the totals keeps the interval, and the state unless it ends the work. -/
lemma onWorkVolume_keeps {isMass : Bool} (hr : t.onWorkVolume isMass i = some r)
    (hch : r.state.channel = some ch) : r.state = t.state ∧ r.interval = t.interval := by
  rcases onWorkVolume_cases hr with ⟨⟨-, hs⟩ | ⟨-, hs⟩, -⟩ | ⟨-, u, ch', hu, hend⟩
  · rw [hs] at hch
    cases hch
  · rw [hs] at hch
    cases hch
  · rcases hend with rfl | rfl
    · rw [grabByTotal]
      rcases hu with rfl | rfl <;> split_ifs <;> exact ⟨rfl, rfl⟩
    · cases hch

/-- A quota divided by zero is never reached. -/
lemma div_zero_of_pos {quota : LREAL} (h : 0 < quota) : Interval.div quota 0 = .infinite false := by
  rw [Interval.div, if_neg (by simp), if_neg h.ne', decide_eq_false h.le.not_gt]

/-- A start by the input into a work by the totals leaves an interval that is never reached, and its
handler, which runs in the same cycle, takes no grab. -/
lemma dispatch_onStart_byTotal (h0 : s.grab = 0) (ht : s.onStart i = some t)
    (hr : t.dispatch i = some r) (hch : r.state.channel = some ch) (hquota : 0 < i.set.quota ch) :
    r.interval = .infinite false ∧ r.grab = 0 := by
  have hne : t.state ≠ .error := by
    intro herror
    have hr' : r.state = .error ∨ r.state = .idle := by
      rw [dispatch, herror, Option.some_inj, onWorkError] at hr
      split at hr <;> cases hr
      · exact .inl herror
      · exact .inr rfl
      · exact .inl herror
    rcases hr' with h | h <;> simp [h, SamplerState.channel] at hch
  obtain ⟨ch', hch', hinterval, hgrab, hpresent⟩ := onStart_byTotal ht hne
  obtain ⟨isMass, hwork⟩ : ∃ isMass, t.onWorkVolume isMass i = some r := by
    rw [dispatch] at hr
    cases hstate : t.state <;> simp [hstate, SamplerState.channel] at hch' <;> rw [hstate] at hr
    · exact ⟨false, hr⟩
    · exact ⟨true, hr⟩
  obtain ⟨hstate, hinterval'⟩ := onWorkVolume_keeps hwork hch
  obtain rfl : ch' = ch := Option.some_inj.mp (hch'.symm.trans (hstate ▸ hch))
  obtain ⟨-, hnever⟩ := onWorkVolume_of_start _ hwork hinterval (hgrab.trans h0) hpresent
  exact ⟨hinterval'.trans (hinterval.trans (div_zero_of_pos hquota)),
    (hnever fun h => hquota.not_gt h.1).1⟩

/-- A start by the command into a work by the totals leaves an interval that is never reached, and
no handler runs in its cycle. -/
lemma onIdle_byTotal (h0 : t.grab = 0) (hc : t.command = .start ∨ t.command = .test)
    (hr : t.onIdle i = some r) (hch : r.state.channel = some ch) (hquota : 0 < i.set.quota ch) :
    r.interval = .infinite false ∧ r.grab = 0 := by
  rw [onIdle] at hr
  rcases hc with hc | hc
  · rw [hc] at hr
    have hne : r.state ≠ .error := by
      intro herror
      simp [herror, SamplerState.channel] at hch
    obtain ⟨ch', hch', hinterval, hgrab, -⟩ := onStart_byTotal hr hne
    obtain rfl : ch' = ch := Option.some_inj.mp (hch'.symm.trans hch)
    exact ⟨hinterval.trans (div_zero_of_pos hquota), hgrab.trans h0⟩
  · rw [hc] at hr
    cases hr
    cases hch

/-- A cycle behind which the sampler works by the totals, and which started it, has left an interval
that is a division by zero; with something to sample it took no grab. -/
lemma interval_of_starts (hstart : s.StartsAgain i) (hr : s.scan i = some r)
    (hch : r.state.channel = some ch) (hquota : 0 < i.set.quota ch) :
    r.interval = .infinite false ∧ r.grab = 0 := by
  obtain ⟨t, q, ht, hq, rfl⟩ := scan_eq_some hr
  cases hio : startsByInput i (s.begun i) with
  | true =>
      obtain ⟨u, hu, hsame⟩ := checkIO_of_startsByInput hio
      exact dispatch_onStart_byTotal (r := q) hsame.grab (hu.symm.trans ht) hq hch hquota
  | false =>
      obtain ⟨hrests, hc⟩ := hstart.resolve_left (by simp [hio])
      obtain ⟨u, hu, hsame, hus⟩ := checkIO_of_not_startsByInput hio
      cases hu.symm.trans ht
      have hidle : t.onIdle i = some q := (dispatch_of_rests (hus ▸ hrests)).symm.trans hq
      exact onIdle_byTotal (r := q) hsame.grab (by rwa [hsame.command]) hidle hch hquota

/-! ### Runs from a start -/

/-- A sampler with the reading of the raw total, the flow and the grabs since its start. -/
structure Metered where
  sampler : Sampler
  reading : LREAL
  flow : LREAL
  grabs : ℕ

namespace Metered

/-- The total takes an increment in, and the sampler is scanned. -/
def scan (w : Metered) (x : LREAL × SamplerInput) : Metered :=
  let r := (w.sampler.scan x.2).getD w.sampler
  { sampler := r
    reading := (carry maxTotalLimit (w.reading + x.1)).1
    flow := w.flow + x.1
    grabs := w.grabs + if r.grab = 1 then 1 else 0 }

variable {w : Metered} {x : LREAL × SamplerInput}

/-- The number of grabs is within one of the flow divided by the quota of a grab. -/
def Proportional (I : LREAL) (w : Metered) : Prop := |(w.grabs : LREAL) - w.flow / I| ≤ 1

/-- A cycle of the sampler `s` that starts it by the totals, with `I` to be sampled by each grab. -/
structure Begins (ch : Channel) (I : LREAL) (s : Sampler) (i : SamplerInput) (w : Metered) :
    Prop where
  starts : s.StartsAgain i
  scan : s.scan i = some w.sampler
  state : w.sampler.state.channel = some ch
  quota : I = i.set.quota ch / w.sampler.grabCount.toNat
  reading : w.reading = i.total.raw.qty ch
  flow : w.flow = 0
  grabs : w.grabs = if w.sampler.grab = 1 then 1 else 0

/-- A cycle by the totals, undisturbed, with an increment below the quota of a grab. -/
structure Steady (ch : Channel) (I : LREAL) (w : Metered) (x : LREAL × SamplerInput) : Prop where
  nonneg : 0 ≤ x.1
  lt : x.1 < I
  reading : x.2.total.raw.qty ch = (carry maxTotalLimit (w.reading + x.1)).1
  undisturbed : w.sampler.Undisturbed x.2
  state : w.sampler.state.channel = some ch

/-- No grab was taken, and none will be. -/
structure Idles (w : Metered) : Prop where
  interval : w.sampler.interval = .infinite false
  grabs : w.grabs = 0

lemma Begins.idles (hI : 0 < I) (h : w.Begins ch I s i) : w.Idles := by
  have hquota : 0 < i.set.quota ch := by
    have hdiv := h.quota ▸ hI
    rcases div_pos_iff.mp hdiv with h | h
    · exact h.1
    · exact absurd h.2 (not_lt.mpr (Nat.cast_nonneg _))
  obtain ⟨hinterval, hgrab⟩ := interval_of_starts h.starts h.scan h.state hquota
  exact ⟨hinterval, by rw [h.grabs, hgrab, if_neg zero_ne_one]⟩

lemma Idles.scan (hw : w.Idles) (hx : w.Steady ch I x) : (w.scan x).Idles := by
  obtain ⟨u, r, hu, hr, hr'⟩ := scan_byTotal hx.undisturbed hx.state
  have hinterval : u.interval = .infinite false := hu.interval.trans hw.interval
  have hkeeps : u.grabByTotal ch x.2 = u := by
    rw [grabByTotal, hinterval, if_neg (by simp [Interval.addLt])]
  rw [hkeeps] at hr'
  have hgrab : r.grab = 0 := by rw [hr'.grab, hu.grab]; rfl
  refine ⟨?_, ?_⟩
  · rw [Metered.scan, hr]
    exact hr'.interval.trans hinterval
  · rw [Metered.scan, hr, Option.getD_some, hgrab, if_neg zero_ne_one, hw.grabs]

/-- From a start no grab is taken, whatever flows. -/
theorem run_idles (hw : w.Idles) {l : List (LREAL × SamplerInput)}
    (hl : Run.Along scan (Steady ch I) w l) :
    (l.foldl scan w).Idles ∧ (l.foldl scan w).flow = w.flow + (l.map (·.1)).sum ∧
      0 ≤ (l.map (·.1)).sum := by
  induction l generalizing w with
  | nil => simp [hw]
  | cons x l ih =>
      obtain ⟨hidles, hflow, hnonneg⟩ := ih (hw.scan hl.1) hl.2
      refine ⟨hidles, ?_, ?_⟩
      · rw [List.foldl_cons, hflow, List.map_cons, List.sum_cons, ← add_assoc]
        rfl
      · rw [List.map_cons, List.sum_cons]
        exact add_nonneg hl.1.nonneg hnonneg

/-- Without a grab the flow is at most the quota of one. -/
lemma Idles.within_one_iff (hI : 0 < I) (hw : w.Idles) (hflow : 0 ≤ w.flow) :
    w.Proportional I ↔ w.flow ≤ I := by
  rw [Proportional, hw.grabs, Nat.cast_zero, zero_sub, abs_neg,
    abs_of_nonneg (div_nonneg hflow hI.le), div_le_one hI]

/-- In a run by the totals from a start the grabs are proportional to the flow if and only if the
flow is not above the quota of one grab. -/
theorem proportional_iff (hI : 0 < I) (hw : w.Begins ch I s i) (l : List (LREAL × SamplerInput))
    (hl : Run.Along scan (Steady ch I) w l) :
    (∀ pre, pre <+: l → (pre.foldl scan w).Proportional I) ↔ (l.map (·.1)).sum ≤ I := by
  have hidles := hw.idles hI
  have hbound (pre : List (LREAL × SamplerInput)) (hpre : pre <+: l) :
      (pre.foldl scan w).Proportional I ↔ (pre.map (·.1)).sum ≤ I := by
    obtain ⟨hrun, hflow, hnonneg⟩ := run_idles hidles (hl.of_isPrefix hpre)
    rw [hw.flow, zero_add] at hflow
    rw [hrun.within_one_iff hI (hflow.symm ▸ hnonneg), hflow]
  constructor
  · intro h
    exact (hbound l List.prefix_rfl).mp (h l List.prefix_rfl)
  · rintro h pre ⟨rest, rfl⟩
    obtain ⟨hpre, hrest⟩ := (Run.along_append w pre rest).mp hl
    have hnonneg : 0 ≤ (rest.map (·.1)).sum := (run_idles (run_idles hidles hpre).1 hrest).2.2
    refine (hbound pre (List.prefix_append pre rest)).mpr ?_
    calc
      (pre.map (·.1)).sum ≤ (pre.map (·.1)).sum + (rest.map (·.1)).sum :=
        le_add_of_nonneg_right hnonneg
      _ = ((pre ++ rest).map (·.1)).sum := by rw [List.map_append, List.sum_append]
      _ ≤ I := h

/-- A total with a reading of the volume. -/
def totalAt (reading : LREAL) : Total :=
  ⟨.clear, { BaseTotal.clear with qty := fun _ => reading }, .clear, .clear, fun _ => 0⟩

/-- A cycle with a reading of the volume. -/
def cycleAtReading (reading : LREAL) : SamplerInput :=
  { cycleAt 0 none with total := totalAt reading }

/-- A sampler that the command has just started by the volume, to take a hundred units with ten
grabs. -/
def started : Metered where
  sampler :=
    { isCalc := true, method := .volume, state := .workvolume, interval := .infinite false,
      grabCount := 10, grabRemain := 10, canRemain := 10, out := [.startVolume] }
  reading := 0
  flow := 0
  grabs := 0

lemma started_begins :
    started.Begins .volume 10 { method := .volume } (cycleAt 0 (some 1)) where
  starts := .inr ⟨rfl, .inl rfl⟩
  scan := by
    have hgrabs : ({ method := .volume } : Sampler).grabs (cycleAt 0 (some 1)) = 10 := by
      decide +kernel
    rw [started, ← hgrabs]
    rfl
  state := rfl
  quota := by decide +kernel
  reading := rfl
  flow := rfl
  grabs := rfl

/-- A cycle of a sampler by the volume that nothing else reaches. -/
lemma steady_cycleAtReading {d reading : LREAL} (h0 : 0 ≤ d) (hd : d < I)
    (hreading : reading = (carry maxTotalLimit (w.reading + d)).1)
    (hcommand : w.sampler.command = .none) (hstate : w.sampler.state = .workvolume) :
    w.Steady .volume I (d, cycleAtReading reading) := by
  have hc : (w.sampler.begun (cycleAtReading reading)).command = .none := hcommand
  exact ⟨h0, hd, hreading, ⟨rfl, rfl, by simp [hc], by simp [hc]⟩, by rw [hstate]; rfl⟩

/-- Three cycles in which the quota of one grab flows. -/
def oneQuota : List (LREAL × SamplerInput) :=
  [(3, cycleAtReading 3), (0, cycleAtReading 3), (7, cycleAtReading 10)]

lemma oneQuota_steady : Run.Along scan (Steady .volume 10) started oneQuota :=
  ⟨steady_cycleAtReading (by norm_num) (by norm_num) (by decide +kernel) rfl rfl,
    steady_cycleAtReading (by norm_num) (by norm_num) (by decide +kernel) (by decide +kernel)
      (by decide +kernel),
    steady_cycleAtReading (by norm_num) (by norm_num) (by decide +kernel) (by decide +kernel)
      (by decide +kernel), trivial⟩

/-- As long as the quota of one grab has not flowed, no grab is missing. -/
theorem proportional_iff_started : Run.Along scan (Steady .volume 10) started oneQuota ∧
    ∀ pre, pre <+: oneQuota → (pre.foldl scan started).Proportional 10 :=
  ⟨oneQuota_steady,
    (proportional_iff (by norm_num) started_begins oneQuota oneQuota_steady).mpr
      (by decide +kernel)⟩

/-- After two cycles with nine units each there is no grab, with ten units for each of them. -/
theorem proportional_fails :
    ∃ (ch : Channel) (I : LREAL) (s : Sampler) (i : SamplerInput) (w : Metered)
      (l : List (LREAL × SamplerInput)),
      0 < I ∧ w.Begins ch I s i ∧ Run.Along scan (Steady ch I) w l ∧
        ¬ ∀ pre, pre <+: l → (pre.foldl scan w).Proportional I := by
  refine ⟨.volume, 10, { method := .volume }, cycleAt 0 (some 1), started,
    [(9, cycleAtReading 9), (9, cycleAtReading 18)], by norm_num, started_begins, ?_, fun h => ?_⟩
  · exact ⟨steady_cycleAtReading (by norm_num) (by norm_num) (by decide +kernel) rfl rfl,
      steady_cycleAtReading (by norm_num) (by norm_num) (by decide +kernel) (by decide +kernel)
        (by decide +kernel), trivial⟩
  · have hlast := h _ List.prefix_rfl
    revert hlast
    simp only [Proportional]
    decide +kernel

end Metered

/-! ### An interval that is a number -/

/-- A metered sampler with the reading at which the flow last passed a multiple of the interval. -/
structure Marked extends Metered where
  mark : LREAL

namespace Marked

/-- A cycle of the sampler, which moves the mark when the flow passes a multiple. -/
def scan (I : LREAL) (w : Marked) (x : LREAL × SamplerInput) : Marked :=
  { w.toMetered.scan x with
    mark := if crossed I w.flow < crossed I (w.flow + x.1) then (w.toMetered.scan x).reading
      else w.mark }

variable {w : Marked} {x : LREAL × SamplerInput}

/-- A sampler by the totals with an interval that is a number, before anything has flowed. -/
structure Begins (ch : Channel) (I : LREAL) (w : Marked) : Prop where
  interval : w.sampler.interval = .value I
  lastRawTotal : w.sampler.lastRawTotal.qty ch = w.reading
  mark : w.mark = w.reading
  flow : w.flow = 0
  grabs : w.grabs = 0

/-- When the flow passes a multiple of the interval, the reading is more than an interval above the
one at the last multiple, or at the beginning. -/
def Ahead (I : LREAL) (w : Marked) (x : LREAL × SamplerInput) : Prop :=
  crossed I w.flow < crossed I (w.flow + x.1) →
    w.mark + I < (carry maxTotalLimit (w.reading + x.1)).1

/-- What holds between the cycles while the grabs are proportional: each multiple of the interval
had its grab, in the cycle in which the flow passed it. -/
structure InStep (ch : Channel) (I : LREAL) (w : Marked) : Prop where
  interval : w.sampler.interval = .value I
  lastRawTotal : w.sampler.lastRawTotal.qty ch = w.mark
  nonneg : 0 ≤ w.flow
  grabs : w.grabs = crossed I w.flow
  reading : w.reading + w.grabs * I ≤ w.mark + w.flow

lemma Begins.inStep (hI : 0 < I) (h : w.Begins ch I) : w.InStep ch I := by
  refine ⟨h.interval, h.lastRawTotal.trans h.mark.symm, h.flow.ge, ?_, ?_⟩
  · rw [h.grabs, h.flow, crossed_zero hI]
  · rw [h.grabs, h.flow, h.mark]
    simp

/-- A cycle takes a grab if and only if the reading is more than an interval above the last one, and
puts it in its place. -/
lemma scan_spec (hw : w.InStep ch I) (hx : w.toMetered.Steady ch I x) :
    (w.scan I x).sampler.interval = .value I ∧
      if w.mark + I < (w.scan I x).reading then
        (w.scan I x).grabs = w.grabs + 1 ∧
          (w.scan I x).sampler.lastRawTotal.qty ch = (w.scan I x).reading
      else
        (w.scan I x).grabs = w.grabs ∧ (w.scan I x).sampler.lastRawTotal.qty ch = w.mark := by
  obtain ⟨u, r, hu, hr, hr'⟩ := scan_byTotal hx.undisturbed hx.state
  have hinterval : u.interval = .value I := hu.interval.trans hw.interval
  have hlast : u.lastRawTotal.qty ch = w.mark := by
    rw [hu.lastRawTotal]
    exact hw.lastRawTotal
  have hsampler : (w.scan I x).sampler = r := by rw [scan, Metered.scan, hr]; rfl
  have hgrabs : (w.scan I x).grabs = w.grabs + if r.grab = 1 then 1 else 0 := by
    rw [scan, Metered.scan, hr]
    rfl
  have hreading : (w.scan I x).reading = x.2.total.raw.qty ch := hx.reading.symm
  have hdue : u.interval.addLt (u.lastRawTotal.qty ch) (x.2.total.raw.qty ch) = true ↔
      w.mark + I < (w.scan I x).reading := by
    rw [hinterval, hlast, hreading, Interval.addLt, decide_eq_true_iff]
  rw [hsampler, hgrabs, hr'.interval, hr'.grab, hr'.lastRawTotal, grabByTotal]
  by_cases h : w.mark + I < (w.scan I x).reading
  · rw [if_pos (hdue.mpr h), if_pos h]
    exact ⟨hinterval, rfl, hreading.symm⟩
  · have hgrab : u.grab ≠ 1 := by rw [hu.grab]; simp [begun]
    rw [if_neg (mt hdue.mp h), if_neg h, if_neg hgrab]
    exact ⟨hinterval, rfl, hlast⟩

/-- A cycle keeps the grabs proportional if and only if the reading is ahead. -/
lemma proportional_scan_iff (hI : 0 < I) (hw : w.InStep ch I) (hx : w.toMetered.Steady ch I x) :
    ((w.scan I x).Proportional I ↔ w.Ahead I x) ∧
      ((w.scan I x).Proportional I → (w.scan I x).InStep ch I) := by
  obtain ⟨hinterval, hspec⟩ := scan_spec hw hx
  have hflow : (w.scan I x).flow = w.flow + x.1 := rfl
  have hreading : (w.scan I x).reading = (carry maxTotalLimit (w.reading + x.1)).1 := rfl
  have hmark : (w.scan I x).mark =
    if crossed I w.flow < crossed I (w.flow + x.1) then (w.scan I x).reading else w.mark := rfl
  have hnonneg : 0 ≤ w.flow + x.1 := add_nonneg hw.nonneg hx.nonneg
  have hle : (w.scan I x).reading ≤ w.reading + x.1 :=
    hreading.trans_le (Wrap.carry_le maxTotalLimit_pos.le _)
  by_cases hcross : crossed I w.flow < crossed I (w.flow + x.1)
  · have hone : crossed I (w.flow + x.1) = w.grabs + 1 := by
      rw [hw.grabs]
      exact le_antisymm (crossed_add_le hI hx.lt) hcross
    rw [if_pos hcross] at hmark
    by_cases hread : w.mark + I < (w.scan I x).reading
    · rw [if_pos hread] at hspec
      have hgrabs : (w.scan I x).grabs = crossed I (w.flow + x.1) := hspec.1.trans hone.symm
      have hproportional : (w.scan I x).Proportional I :=
        (abs_sub_le_one_iff hI hnonneg hgrabs.le).mpr hgrabs
      refine ⟨iff_of_true hproportional fun _ => hread,
        fun _ => ⟨hinterval, ?_, hnonneg, hgrabs, ?_⟩⟩
      · rw [hspec.2, hmark]
      · rw [hmark, hgrabs, hflow]
        have hmul := crossed_mul_le hI hnonneg
        linarith
    · rw [if_neg hread] at hspec
      have hfails : ¬ (w.scan I x).Proportional I := by
        intro h
        have hgrabs := (abs_sub_le_one_iff hI hnonneg (by omega)).mp h
        omega
      exact ⟨iff_of_false hfails fun h => hread (h hcross), fun h => absurd h hfails⟩
  · have hsame : crossed I (w.flow + x.1) = w.grabs := by
      rw [hw.grabs]
      exact le_antisymm (not_lt.mp hcross) (crossed_mono hI hx.nonneg)
    rw [if_neg hcross] at hmark
    have hread : ¬ w.mark + I < (w.scan I x).reading := by
      intro hread
      refine hcross ?_
      rw [← hw.grabs, lt_crossed_iff hI]
      have hbound := hw.reading
      linarith
    rw [if_neg hread] at hspec
    have hgrabs : (w.scan I x).grabs = crossed I (w.flow + x.1) := hspec.1.trans hsame.symm
    have hproportional : (w.scan I x).Proportional I :=
      (abs_sub_le_one_iff hI hnonneg hgrabs.le).mpr hgrabs
    refine ⟨iff_of_true hproportional fun h => absurd h hcross,
      fun _ => ⟨hinterval, ?_, hnonneg, hgrabs, ?_⟩⟩
    · rw [hspec.2, hmark]
    · have hbound := hw.reading
      rw [hspec.1, hmark, hflow]
      linarith

/-- In a run by the totals with an interval that is a number the grabs are proportional to the flow
if and only if the reading is ahead whenever the flow passes a multiple of the interval. -/
theorem ahead_iff (hI : 0 < I) (hw : w.Begins ch I) (l : List (LREAL × SamplerInput))
    (hl : Run.Along (scan I) (fun w x => w.toMetered.Steady ch I x) w l) :
    (∀ pre, pre <+: l → (pre.foldl (scan I) w).Proportional I) ↔
      Run.Along (scan I) (Ahead I) w l := by
  have hbegins := hw.inStep hI
  have hproportional : w.Proportional I :=
    (abs_sub_le_one_iff hI hbegins.nonneg hbegins.grabs.le).mpr hbegins.grabs
  rw [Run.forall_prefix_iff (C := fun w : Marked => w.toMetered.Proportional I),
    and_iff_right hproportional]
  exact Run.along_congr (InStep ch I) (fun w x hw hx => (proportional_scan_iff hI hw hx).1)
    (fun w x hw hx => (proportional_scan_iff hI hw hx).2) hbegins hl

/-- A sampler by the volume with an interval of ten units. -/
def dosing (reading : LREAL) : Marked :=
  { Metered.started with
    sampler :=
      { Metered.started.sampler with
        interval := .value 10, lastRawTotal := (Metered.totalAt reading).raw }
    reading := reading
    mark := reading }

/-- From five units below the limit the total starts again in the first of two cycles with nine
units each, and the flow passes the interval of ten units without a grab. -/
example :
    ¬ ([(9, Metered.cycleAtReading 4), (9, Metered.cycleAtReading 13)].foldl (scan 10)
      (dosing (maxTotalLimit - 5))).Proportional 10 := by
  simp only [Metered.Proportional]
  decide +kernel

end Marked

end Sampler

end Tritonn
