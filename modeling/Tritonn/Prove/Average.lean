import Tritonn.Lib.Mean
import Tritonn.Prove.Interlock

/-!
The averages of a proving run: whether they are weighted by the pulses.

* `Pass` is a part of a run: a cycle starts the module, and in the cycles after it the prover is in
  progress, has its stream and does not start the module again, while the count does not go back;
* `Averaged` is the property, that each of the eight averages is the mean of the values of its own
  quantity, weighted by the pulses of their cycles, and that no cycle divides by zero;
* `calcAverage_get` says for all of them what `calcAverage` does, and `scan_figures` that the rest
  of a cycle leaves it so;
* `averaged_iff` says that a pass has the property, with all its prefixes, if and only if the values
  of each cycle are in the balance that makes up for the misplaced division and for the increment
  that is counted from the start of the module on;
* `averaged_fails` is a pass with two pulses in one cycle.
-/

namespace Tritonn

open Run (Along)

/-- The averages of a proving run. -/
inductive AverageValue where
  | prvFreq
  | prvDens
  | prvTemp
  | prvPres
  | strDens
  | strTemp
  | strPres
  | strKf
  deriving DecidableEq, Repr

/-- One of the averages. -/
def ProveAverage.get (a : ProveAverage) : AverageValue → LREAL
  | .prvFreq => a.prvFreq
  | .prvDens => a.prvDens
  | .prvTemp => a.prvTemp
  | .prvPres => a.prvPres
  | .strDens => a.strDens
  | .strTemp => a.strTemp
  | .strPres => a.strPres
  | .strKf => a.strKf

namespace Prove

variable {p q : Prove} {i : ProveInput} {l : List ProveInput} {v : AverageValue}

/-- The present value of the quantity of an average. -/
def present (q : Prove) (str : Stream) : AverageValue → LREAL
  | .prvFreq => q.moduleFreq
  | .prvDens => q.link.dens
  | .prvTemp => q.link.temp
  | .prvPres => q.link.pres
  | .strDens => str.link.dens
  | .strTemp => str.link.temp
  | .strPres => str.link.pres
  | .strKf => str.curKF

/-- The value of a quantity in a cycle. -/
def value (p : Prove) (i : ProveInput) (v : AverageValue) : LREAL :=
  (p.handled i).present (i.streams.getD p.strIdx.toNat Station.emptyStream) v

/-- The pulses of a cycle. -/
def pulses (p : Prove) (i : ProveInput) : LREAL :=
  ((p.handled i).moduleCount.toNat : LREAL) - p.moduleCount.toNat

/-- The values of a quantity in a run, with the pulses of their cycles. -/
def samples (p : Prove) (v : AverageValue) (l : List ProveInput) : List (LREAL × LREAL) :=
  Run.outputs scan (fun p i => [(p.pulses i, p.value i v)]) p l

/-- A cycle starts the measurement of the module. -/
def StartsModule (p : Prove) (i : ProveInput) : Prop :=
  .set (p.moduleName ++ ".start") 1 ∈ (p.scan i).out

/-- A cycle of a pass. -/
structure InPass (p : Prove) (i : ProveInput) : Prop where
  inProgress : p.inProgress ≠ 0
  stream : p.strIdx.toNat < i.streams.length
  started : ¬ p.StartsModule i
  counts : p.moduleCount ≤ (p.handled i).moduleCount

/-- The cycle `i` starts the module, and the cycles `l` belong to its pass. -/
structure Pass (p : Prove) (i : ProveInput) (l : List ProveInput) : Prop where
  starts : p.StartsModule i
  inPass : Along scan InPass (p.scan i) l

/-- `calcAverage` comes to its divisions, all of them by the count of the module. -/
def divides (q : Prove) (i : ProveInput) : Bool :=
  q.inProgress != 0 && decide (q.strIdx.toNat < i.streams.length) &&
    q.moduleCount - q.averageCount != 0

/-- The averages are weighted by the pulses as soon as there are some, and no cycle divides by
zero. -/
structure Averaged (p : Prove) (l : List ProveInput) : Prop where
  mean : ∀ v, 0 < Mean.mass (p.samples v l) →
    (p.run l).average.get v = Mean.weighted (p.samples v l)
  nonzero : Along scan (fun q j => q.answered j = true → (q.handled j).divides j = true →
    (q.handled j).moduleCount ≠ 0) p l

/-! ### The exact condition -/

/-- The pulses from the start of the module up to a cycle. -/
def counted (p : Prove) (i : ProveInput) : LREAL :=
  ((p.handled i).moduleCount.toNat : LREAL) - p.averageCount.toNat

/-- The average with which a cycle goes on; for the K-factor it is the one of the pressure, with the
present pressure in it. -/
def carried (p : Prove) (i : ProveInput) : AverageValue → LREAL
  | .strKf => Mean.joined (p.counted i - p.pulses i) p.average.strPres (p.pulses i)
      (p.value i .strPres)
  | v => p.average.get v

/-- The values of a cycle make up for what `calcAverage` does wrong. -/
def Balanced (p : Prove) (i : ProveInput) : Prop :=
  p.answered i = true → 0 < p.counted i → ∀ v,
    p.value i v * (p.handled i).moduleCount.toNat * (p.counted i ^ 2 - p.pulses i) =
      p.average.get v * (p.counted i - p.pulses i) * (p.handled i).moduleCount.toNat -
        p.carried i v * p.averageCount.toNat * p.counted i

/-! ### The handlers -/

/-- The averages and the counts are the same. -/
structure SameFigures (p q : Prove) : Prop where
  moduleCount : q.moduleCount = p.moduleCount
  averageCount : q.averageCount = p.averageCount
  average : q.average = p.average

lemma SameFigures.setState (h : p.SameFigures q) (s : ProveState) :
    p.SameFigures (q.setState s) := ⟨h.moduleCount, h.averageCount, h.average⟩

/-- The handler calls `moduleStart`. -/
def startsModule (q : Prove) : Bool :=
  q.command != .abort && (q.state == .waitd1 || q.state == .waitd1Reverse) && !q.timer.isStart

lemma unlessAborted_figures {rest : Prove → Prove}
    (hrest : ∀ out, q.SameFigures (rest (q.withOut out))) :
    q.SameFigures (q.unlessAborted rest) :=
  unlessAborted_ind (fun _ => ⟨rfl, rfl, rfl⟩) hrest

lemma onIdle_figures : q.SameFigures q.onIdle := by
  rw [onIdle]
  split <;> exact ⟨rfl, rfl, rfl⟩

lemma onRunBall_figures : q.SameFigures (q.onRunBall i) := by
  refine unlessAborted_figures fun out => ?_
  simp only [runBallFinished, setWaitD1_eq]
  split_ifs
  · refine .setState ?_ _
    exact ⟨rfl, rfl, rfl⟩
  · exact ⟨rfl, rfl, rfl⟩
  · exact ⟨rfl, rfl, rfl⟩
  · refine .setState ?_ _
    exact ⟨rfl, rfl, rfl⟩
  · exact ⟨rfl, rfl, rfl⟩

lemma onStabilization_figures : q.SameFigures (q.onStabilization i) := by
  refine unlessAborted_figures fun out => ?_
  split_ifs
  · exact ⟨rfl, rfl, rfl⟩
  · exact ⟨rfl, rfl, rfl⟩
  · have hstab {s : StabValue} {start present maxstab : LREAL} {r : Prove}
        (hr : (q.withOut out).checkStab s start present maxstab = some r) : q.SameFigures r := by
      rw [checkStab] at hr
      split_ifs at hr
      cases hr
      exact ⟨rfl, rfl, rfl⟩
    refine getD_ind ⟨rfl, rfl, rfl⟩ fun r hr => ?_
    simp only [Option.orElse_eq_orElse, Option.orElse_eq_or, Option.or_eq_some_iff] at hr
    obtain hr | ⟨-, hr | ⟨-, hr | ⟨-, hr⟩⟩⟩ := hr <;> exact hstab hr

lemma onValveToUp_figures : q.SameFigures q.onValveToUp := by
  refine unlessAborted_figures fun out => ?_
  dsimp only
  split_ifs <;> exact ⟨rfl, rfl, rfl⟩

lemma onWaitToUp_figures : q.SameFigures (q.onWaitToUp i) := by
  refine unlessAborted_figures fun out => ?_
  dsimp only
  split_ifs <;> exact ⟨rfl, rfl, rfl⟩

lemma onValveToDown_figures : q.SameFigures (q.onValveToDown i) := by
  refine unlessAborted_figures fun out => ?_
  dsimp only
  split_ifs <;> exact ⟨rfl, rfl, rfl⟩

/-- The wait for the first detector leaves them alone when it does not begin. -/
lemma onWaitD1_figures (h : q.state = .waitd1 ∨ q.state = .waitd1Reverse)
    (hm : q.startsModule = false) : q.SameFigures (q.onWaitD1 i) := by
  by_cases hc : q.command = .abort
  · rw [onWaitD1, unlessAborted_abort hc]
    exact ⟨rfl, rfl, rfl⟩
  have ht : q.timer.isStart = true := by
    rcases h with h | h <;> simpa [startsModule, h, hc] using hm
  obtain ⟨out, hout⟩ := unlessAborted_rest (p := q) _ hc
  rw [onWaitD1, hout]
  simp only [ite_errorD1, ite_waitD2, withOut_fields, ht, Bool.not_true, Bool.false_eq_true,
    if_false]
  split_ifs
  · refine .setState ?_ _
    exact ⟨rfl, rfl, rfl⟩
  · split
    · exact ⟨rfl, rfl, rfl⟩
    · exact ⟨rfl, rfl, rfl⟩
    · refine .setState ?_ _
      exact ⟨rfl, rfl, rfl⟩

lemma onWaitD2_figures : q.SameFigures (q.onWaitD2 i) := by
  refine unlessAborted_figures fun out => ?_
  simp only [ite_errorD2]
  split_ifs
  · exact ⟨rfl, rfl, rfl⟩
  · refine .setState ?_ _
    exact ⟨rfl, rfl, rfl⟩
  · split <;> exact ⟨rfl, rfl, rfl⟩

lemma onCalculate_figures : q.SameFigures (q.onCalculate i) := by
  refine unlessAborted_figures fun out => ?_
  split_ifs <;> exact ⟨rfl, rfl, rfl⟩

lemma onReturnBall_figures : q.SameFigures (q.onReturnBall i) := by
  refine unlessAborted_figures fun out => ?_
  dsimp only [onReturnBallNoValve]
  split_ifs <;> exact ⟨rfl, rfl, rfl⟩

lemma onWayComplited_figures : q.SameFigures q.onWayComplited := by
  rw [onWayComplited]
  split_ifs <;> exact ⟨rfl, rfl, rfl⟩

lemma onAbort_figures : q.SameFigures (q.onAbort i) := by
  rw [onAbort]
  split_ifs <;> exact ⟨rfl, rfl, rfl⟩

lemma onErrorState_figures : q.SameFigures q.onErrorState := by
  rw [onErrorState]
  split <;> exact ⟨rfl, rfl, rfl⟩

/-- Only `START` and the start of the module touch the averages and their count. -/
theorem dispatch_figures (hs : q.state ≠ .start) (hm : q.startsModule = false) :
    q.SameFigures (q.dispatch i) := by
  rw [dispatch]
  cases h : q.state with
  | start => exact absurd h hs
  | idle | finish => exact onIdle_figures
  | stabilization => exact onStabilization_figures
  | runball => exact onRunBall_figures
  | valvetoup => exact onValveToUp_figures
  | waittoup => exact onWaitToUp_figures
  | valvetodown => exact onValveToDown_figures
  | waitd1 => exact onWaitD1_figures (.inl h) hm
  | waitd1Reverse => exact onWaitD1_figures (.inr h) hm
  | waitd2 | waitd2Reverse => exact onWaitD2_figures
  | calculate => exact onCalculate_figures
  | returnball => exact onReturnBall_figures
  | waycomplited => exact onWayComplited_figures
  | abort => exact onAbort_figures
  | _ => exact onErrorState_figures

/-! ### A cycle -/

lemma checked_figures : p.SameFigures (p.checked i) := by
  obtain ⟨setup, out, hchecked⟩ := checked_eq (p := p) (i := i)
  rw [hchecked]
  exact ⟨rfl, rfl, rfl⟩

lemma asked_averages :
    (p.asked i).average = p.average ∧ (p.asked i).averageCount = p.averageCount := by
  obtain ⟨freq, det, count, out, hasked⟩ := asked_eq (p := p) (i := i)
  rw [hasked]
  exact ⟨rfl, rfl⟩

/-- Without an answer the count stays the same. -/
lemma asked_of_not_answered (h : p.answered i = false) :
    (p.asked i).moduleCount = p.moduleCount := by
  simp only [answered, Bool.or_eq_false_iff, Bool.not_eq_false', Option.isSome_eq_false_iff,
    Option.isNone_iff_eq_none] at h
  simp only [asked, readModule, h.1, h.2]
  rfl

lemma detectorsProcessing_figures : p.SameFigures (p.detectorsProcessing i) := by
  obtain ⟨fixDet, curDet, timerBounce, hdet⟩ := detectorsProcessing_eq (p := p) (i := i)
  rw [hdet]
  exact ⟨rfl, rfl, rfl⟩

/-- Up to the averages a cycle reads the count and leaves the rest as it is. -/
lemma handled_averages :
    (p.handled i).average = p.average ∧ (p.handled i).averageCount = p.averageCount := by
  have hasked := asked_averages (p := p.checked i) (i := i)
  have hdet := detectorsProcessing_figures (p := (p.checked i).asked i) (i := i)
  exact ⟨hdet.average.trans (hasked.1.trans checked_figures.average),
    hdet.averageCount.trans (hasked.2.trans checked_figures.averageCount)⟩

lemma SameView.startsModule (h : p.SameView q) : q.startsModule = p.startsModule := by
  rw [Prove.startsModule, h.command, h.state, h.timer]
  rfl

lemma request_start :
    q.request i = some (.set (q.moduleName ++ ".start") 1) ↔ q.startsModule = true := by
  by_cases hc : q.command = .abort
  · simp [request, startsModule, hc]
  · rw [request, if_neg hc, startsModule]
    cases q.state <;> simp [hc]

/-- The module is started by the handlers that call `moduleStart`. -/
lemma startsModule_iff :
    p.StartsModule i ↔ p.reaches i = true ∧ (p.handled i).startsModule = true := by
  have hmem : p.StartsModule i ↔ .set (p.moduleName ++ ".start") 1 ∈ p.asksFor i := by
    rw [← scan_acts.2.2.2, requests, List.mem_filter]
    exact ⟨fun h => ⟨h, rfl⟩, And.left⟩
  rw [hmem, asksFor, ← request_start (i := i), handled_moduleName]
  split_ifs with hr
  · rw [Option.mem_toList, and_iff_right hr]
  · exact iff_of_false List.not_mem_nil fun h => hr h.1
  · exact iff_of_false (by simp) fun h => hr h.1

/-- With the start of the module the averages begin at its count. -/
lemma averageCount_of_startsModule (h : p.StartsModule i) :
    (p.scan i).averageCount = (p.scan i).moduleCount := by
  obtain ⟨hr, hm⟩ := startsModule_iff.mp h
  obtain ⟨q, hsame, -, -, hscan⟩ := scan_of_reaches hr
  rw [← hsame.startsModule] at hm
  simp only [startsModule, Bool.and_eq_true, bne_iff_ne, ne_eq, Bool.or_eq_true, beq_iff_eq,
    Bool.not_eq_true'] at hm
  obtain ⟨⟨hc, hs⟩, ht⟩ := hm
  have hdispatch : q.dispatch i = q.onWaitD1 i := by rcases hs with hs | hs <;> rw [dispatch, hs]
  obtain ⟨out, hout⟩ := unlessAborted_rest (p := q) _ hc
  rw [hscan, hdispatch, onWaitD1, hout]
  simp only [withOut_fields, ht, Bool.not_false, if_true]
  rfl

/-- A handler leaves the averages as `calcAverage` made them. -/
lemma dispatch_withAverage (hs : q.state ≠ .start) (hm : q.startsModule = false)
    (a : ProveAverage) (out : List ProveOut) :
    let r := (withOut { q with average := a } out).dispatch i
    r.moduleCount = q.moduleCount ∧ r.averageCount = q.averageCount ∧ r.average = a := by
  have hsame : (withOut { q with average := a } out).SameFigures
      ((withOut { q with average := a } out).dispatch i) := dispatch_figures hs hm
  exact ⟨hsame.moduleCount, hsame.averageCount, hsame.average⟩

/-- What a cycle of a pass does to the averages and their count: `calcAverage`, when the module
answers. -/
lemma scan_figures (hs : p.state ≠ .start) (hstream : p.holdsStream i = true)
    (hm : ¬ p.StartsModule i) :
    (p.scan i).moduleCount = (p.handled i).moduleCount ∧
      (p.scan i).averageCount = p.averageCount ∧
      (p.scan i).average =
        if p.answered i then ((p.handled i).calcAverage i).average else p.average := by
  by_cases ha : p.answered i = true
  · obtain ⟨out, -, hscan⟩ := scan_eq_dispatch (p := p) (i := i) (by rw [reaches, ha, hstream]; rfl)
    have hstate : (p.handled i).state ≠ .start := by
      rwa [handled_state]
    have hmodule : (p.handled i).startsModule = false := by
      rw [startsModule_iff, reaches, ha, hstream] at hm
      simpa using hm
    obtain ⟨hcount, haverageCount, haverage⟩ := dispatch_withAverage (i := i) hstate hmodule
      ((p.handled i).calcAverage i).average out
    rw [if_pos ha, hscan]
    exact ⟨hcount, haverageCount.trans handled_averages.2, haverage⟩
  · have hasked := asked_averages (p := p.checked i) (i := i)
    rw [if_neg ha, scan_eq_asked (by simpa using ha), hasked.1, hasked.2, checked_figures.average,
      checked_figures.averageCount]
    exact ⟨detectorsProcessing_figures.moduleCount.symm, rfl, rfl⟩

/-! ### The averages of a cycle -/

lemma handled_divides (h : p.InPass i) :
    (p.handled i).divides i = true ↔ (p.handled i).moduleCount ≠ p.averageCount := by
  simp [divides, handled_inProgress, handled_strIdx, handled_averages.2, h.inProgress, h.stream,
    sub_eq_zero]

/-- With pulses each average is weighed with its present value; the K-factor is weighed with the
average of the pressure. -/
lemma calcAverage_get {str : Stream} (hprogress : q.inProgress ≠ 0)
    (hstr : i.streams[q.strIdx.toNat]? = some str) (hcount : q.moduleCount - q.averageCount ≠ 0)
    (v : AverageValue) :
    (q.calcAverage i).average.get v = q.weigh (q.moduleCount - q.averageCount) (q.present str v)
      (if v = .strKf then (q.calcAverage i).average.get .strPres else q.average.get v) := by
  rw [calcAverage, if_neg hprogress]
  simp only [hstr, if_neg hcount]
  cases v <;> rfl

/-- In a cycle of a pass with pulses each average is its value with all the pulses counted so far,
and the average before with its share. -/
lemma scan_get (h : p.InPass i) (hs : p.state ≠ .start) (ha : p.answered i = true)
    (hle : p.averageCount ≤ (p.handled i).moduleCount)
    (hne : (p.handled i).moduleCount ≠ p.averageCount) (v : AverageValue) :
    (p.scan i).average.get v = p.value i v * p.counted i +
      (if v = .strKf then (p.scan i).average.get .strPres else p.average.get v) *
        p.averageCount.toNat / (p.handled i).moduleCount.toNat := by
  have hstream : p.holdsStream i = true := by simp [holdsStream, h.stream]
  have hprogress : (p.handled i).inProgress ≠ 0 := by
    rw [handled_inProgress]
    exact h.inProgress
  have hstr : i.streams[(p.handled i).strIdx.toNat]?
      = some (i.streams.getD p.strIdx.toNat Station.emptyStream) := by
    rw [handled_strIdx, List.getElem?_eq_getElem h.stream, List.getD_eq_getElem _ _ h.stream]
  have hcount : (p.handled i).moduleCount - (p.handled i).averageCount ≠ 0 := by
    rwa [handled_averages.2, sub_ne_zero]
  have hcounted : (((p.handled i).moduleCount - p.averageCount).toNat : LREAL) = p.counted i := by
    rw [UInt32.toNat_sub_of_le _ _ hle, Nat.cast_sub (UInt32.le_iff_toNat_le.mp hle), counted]
  rw [(scan_figures hs hstream h.started).2.2, if_pos ha, calcAverage_get hprogress hstr hcount,
    weigh, handled_averages.1, handled_averages.2, hcounted]
  rfl

/-- The averages of a cycle are the means with its values. -/
def Joins (p : Prove) (i : ProveInput) : Prop :=
  0 < p.counted i → ∀ v, (p.scan i).average.get v =
    Mean.joined (p.counted i - p.pulses i) (p.average.get v) (p.pulses i) (p.value i v)

/-- When the average of the pressure is right, `carried` is what the cycle goes on with. -/
lemma carried_eq (h : (p.scan i).average.get .strPres = p.carried i .strKf) (v : AverageValue) :
    (if v = .strKf then (p.scan i).average.get .strPres else p.average.get v) = p.carried i v := by
  split_ifs with hv
  · rw [h, hv]
  · cases v <;> first | rfl | exact absurd rfl hv

/-- A cycle of a pass averages if and only if its values are in balance. -/
lemma joins_iff (h : p.InPass i) (hs : p.state ≠ .start) (hle : p.averageCount ≤ p.moduleCount) :
    p.Joins i ↔ p.Balanced i := by
  have hsum : p.counted i - p.pulses i + p.pulses i = p.counted i := sub_add_cancel _ _
  by_cases ha : p.answered i = true
  · rw [Joins, Balanced, imp_iff_right ha]
    refine imp_congr_right fun hpos => ?_
    have hne : (p.handled i).moduleCount ≠ p.averageCount := fun he => by
      simp [counted, he] at hpos
    have hc : ((p.handled i).moduleCount.toNat : LREAL) ≠ 0 := by
      have hnonneg : (0 : LREAL) ≤ p.averageCount.toNat := Nat.cast_nonneg _
      rw [counted] at hpos
      linarith
    have hget := scan_get h hs ha (UInt32.le_trans hle h.counts) hne
    have hmis (v : AverageValue) (b : LREAL) := Mean.misplaced_iff (x := p.value i v)
      (a := p.average.get v) (b := b) (e := p.averageCount.toNat) hc (hsum ▸ hpos.ne')
    simp only [hsum] at hmis
    -- The K-factor is weighed with the new average of the pressure, which has to be right first.
    refine ⟨fun hj v => ?_, fun hb => ?_⟩
    · rw [← hmis, ← carried_eq (hj .strPres), ← hget]
      exact hj v
    · have hpres : (p.scan i).average.get .strPres = p.carried i .strKf := by
        rw [hget]
        exact (hmis _ _).mpr (hb .strPres)
      intro v
      rw [hget, carried_eq hpres]
      exact (hmis _ _).mpr (hb v)
  · -- Without an answer there are no pulses, and the averages stay.
    rw [Bool.not_eq_true] at ha
    have hstream : p.holdsStream i = true := by simp [holdsStream, h.stream]
    have hpulses : p.pulses i = 0 := by
      have hcount : (p.handled i).moduleCount = p.moduleCount :=
        detectorsProcessing_figures.moduleCount.trans
          ((asked_of_not_answered (checked_answered.trans ha)).trans checked_figures.moduleCount)
      rw [pulses, hcount, sub_self]
    have haverage := (scan_figures hs hstream h.started).2.2
    rw [if_neg (by simp [ha])] at haverage
    refine iff_of_true (fun hpos v => ?_) fun h => absurd h (by simp [ha])
    rw [haverage, hpulses, sub_zero, Mean.joined_zero hpos.ne']

/-! ### Runs -/

/-- What is known behind the cycles of a pass that averaged. -/
structure Tallied (p : Prove) (l : List ProveInput) : Prop where
  inProgress : (p.run l).inProgress = (p.run l).state.inProgress
  counts : (p.run l).averageCount ≤ (p.run l).moduleCount
  mass : ∀ v, Mean.mass (p.samples v l) =
    ((p.run l).moduleCount.toNat : LREAL) - (p.run l).averageCount.toNat
  weights : ∀ v, ∀ e ∈ p.samples v l, 0 ≤ e.1
  averaged : p.Averaged l

lemma samples_concat (v : AverageValue) (l : List ProveInput) :
    p.samples v (l ++ [i]) = p.samples v l ++ [((p.run l).pulses i, (p.run l).value i v)] :=
  Run.outputs_concat p l i

/-- One more cycle of a pass keeps the property if and only if its values are in balance. -/
lemma Tallied.concat (h : p.Tallied l) (hi : (p.run l).InPass i) :
    (p.Averaged (l ++ [i]) ↔ (p.run l).Balanced i) ∧
      ((p.run l).Balanced i → p.Tallied (l ++ [i])) := by
  have hs : (p.run l).state ≠ .start := fun hs =>
    hi.inProgress (h.inProgress.trans (by rw [hs]; rfl))
  have hstream : (p.run l).holdsStream i = true := by simp [holdsStream, hi.stream]
  obtain ⟨hcount, haverage, -⟩ := scan_figures hs hstream hi.started
  have hmass (v : AverageValue) : Mean.mass (p.samples v (l ++ [i])) = (p.run l).counted i := by
    rw [samples_concat, Mean.mass_concat, h.mass, pulses, counted]
    ring
  have hweighted (v : AverageValue) (hpos : 0 < (p.run l).counted i) :
      Mean.weighted (p.samples v (l ++ [i])) =
        Mean.joined ((p.run l).counted i - (p.run l).pulses i) ((p.run l).average.get v)
          ((p.run l).pulses i) ((p.run l).value i v) := by
    have hbefore : (p.run l).counted i - (p.run l).pulses i = Mean.mass (p.samples v l) := by
      rw [h.mass, pulses, counted]
      ring
    rw [samples_concat, Mean.weighted_concat (Mean.moment_eq_zero (h.weights v)), hbefore]
    have hnonneg : 0 ≤ Mean.mass (p.samples v l) := by
      rw [h.mass, sub_nonneg, Nat.cast_le]
      exact UInt32.le_iff_toNat_le.mp h.counts
    rcases hnonneg.eq_or_lt with hzero | hmean
    · rw [← hzero]
      exact Mean.joined_first _ _
    · rw [h.averaged.mean v hmean]
  have hnonzero : Along scan (fun q j => q.answered j = true → (q.handled j).divides j = true →
      (q.handled j).moduleCount ≠ 0) p (l ++ [i]) := by
    refine (Run.along_concat p l i).mpr ⟨h.averaged.nonzero, fun _ hd hzero => ?_⟩
    have hle : (p.run l).averageCount ≤ 0 := hzero ▸ UInt32.le_trans h.counts hi.counts
    exact (handled_divides hi).mp hd (hzero.trans (UInt32.le_zero_iff.mp hle).symm)
  have hiff : p.Averaged (l ++ [i]) ↔ (p.run l).Balanced i := by
    rw [← joins_iff hi hs h.counts]
    refine ⟨fun ha hpos v => ?_, fun hj => ⟨fun v hpos => ?_, hnonzero⟩⟩
    · rw [← hweighted v hpos, ← run_concat]
      exact ha.mean v (by rwa [hmass])
    · rw [hmass] at hpos
      rw [run_concat, hweighted v hpos]
      exact hj hpos v
  refine ⟨hiff, fun hb => ⟨?_, ?_, fun v => ?_, fun v e he => ?_, hiff.mpr hb⟩⟩
  · rw [run_concat]
    exact scan_inProgress h.inProgress
  · rw [run_concat, hcount, haverage]
    exact UInt32.le_trans h.counts hi.counts
  · rw [hmass, run_concat, hcount, haverage, counted]
  · rw [samples_concat, List.mem_append, List.mem_singleton] at he
    rcases he with he | rfl
    · exact h.weights v e he
    · rw [pulses, sub_nonneg, Nat.cast_le]
      exact UInt32.le_iff_toNat_le.mp hi.counts

/-- A pass begins with nothing counted. -/
lemma tallied_nil (hp : p.inProgress = p.state.inProgress) (h : p.StartsModule i) :
    (p.scan i).Tallied [] := by
  have hcount : ((p.scan i).run []).averageCount = ((p.scan i).run []).moduleCount :=
    averageCount_of_startsModule h
  refine ⟨scan_inProgress hp, UInt32.le_of_eq hcount, fun v => ?_,
    fun _ _ he => absurd he List.not_mem_nil, fun _ hpos => absurd hpos (lt_irrefl 0),
    Run.along_nil _⟩
  rw [hcount, sub_self]
  rfl

/-- In every pass of every run from power-on, the averages are weighted by the pulses, with all
prefixes, if and only if the values of each cycle are in balance. -/
theorem averaged_iff (moduleNum : UInt8) (moduleName : String) (setup : CmpUINT) (strIdx : UInt16)
    (pre : List ProveInput) (i : ProveInput) (l : List ProveInput)
    (h : Pass ((powerOn moduleNum moduleName setup strIdx).run pre) i l) :
    (∀ m, m <+: l → (((powerOn moduleNum moduleName setup strIdx).run pre).scan i).Averaged m) ↔
      Along scan Balanced (((powerOn moduleNum moduleName setup strIdx).run pre).scan i) l := by
  have hprogress := (run_safe (p := powerOn moduleNum moduleName setup strIdx) (.inl rfl) rfl pre).2
  have hstart := tallied_nil hprogress h.starts
  exact Run.forall_prefix_iff_along_of _ ⟨hstart, hstart.averaged⟩ (fun _ _ ht hi => ht.concat hi)
    h.inPass

/-- The cycles of a proving run up to the wait for the first detector. -/
def toDetector : List ProveInput :=
  cycleAt oneDetector 0 (some 1) (fun _ => 0) :: [0, 1010, 1020, 6020].map (quietAt oneDetector)

/-- A quiet cycle in which the counter of the module stands at a number of pulses. -/
def countAt (tick counter : UInt32) : ProveInput :=
  { quietAt oneDetector tick with crm := some ⟨false, fun _ => 0, ⟨1, counter⟩⟩ }

/-- The cycle behind it starts the module, whose counter stands at zero. -/
def atDetector : ProveInput := countAt 6030 0

/-- Whatever it counts then, the next cycle belongs to the pass. -/
lemma pass_of_count (counter : UInt32) :
    Pass ((powerOn 0 "" {} 0).run toDetector) atDetector [countAt 6040 counter] := by
  have hstarts : StartsModule ((powerOn 0 "" {} 0).run toDetector) atDetector := by
    rw [StartsModule]
    decide +kernel
  obtain ⟨hprogress, hidx, ht, hcount⟩ :
      (((powerOn 0 "" {} 0).run toDetector).scan atDetector).inProgress = 1 ∧
      (((powerOn 0 "" {} 0).run toDetector).scan atDetector).strIdx = 0 ∧
      (((powerOn 0 "" {} 0).run toDetector).scan atDetector).timer.isStart = true ∧
      (((powerOn 0 "" {} 0).run toDetector).scan atDetector).moduleCount = 0 := by
    decide +kernel
  refine ⟨hstarts, ⟨?_, ?_, fun h => ?_, ?_⟩, trivial⟩
  · rw [hprogress]
    exact one_ne_zero
  · rw [hidx]
    exact Nat.zero_lt_one
  · have hm := (startsModule_iff.mp h).2
    rw [startsModule, handled_timer, ht] at hm
    simp at hm
  · rw [hcount]
    exact UInt32.zero_le

/-- From a counter at zero on, the first pulse is in balance. -/
lemma balanced_of_first (hzero : p.averageCount = 0) (hcounted : p.counted i = 1)
    (hpulses : p.pulses i = 1) : p.Balanced i := fun _ _ v => by
  simp [hzero, hcounted, hpulses]

/-- One pulse is averaged. -/
theorem averaged_firstPulse :
    (((powerOn 0 "" {} 0).run toDetector).scan atDetector).Averaged [countAt 6040 1] :=
  (averaged_iff 0 "" {} 0 toDetector atDetector _ (pass_of_count 1)).mpr
    ⟨balanced_of_first (by decide +kernel) (by decide +kernel) (by decide +kernel), trivial⟩ _
    List.prefix_rfl

/-- With two pulses in a cycle at one hertz the average of the frequency is two hertz. -/
theorem averaged_fails :
    Pass ((powerOn 0 "" {} 0).run toDetector) atDetector [countAt 6040 2] ∧
      ¬ (((powerOn 0 "" {} 0).run toDetector).scan atDetector).Averaged [countAt 6040 2] := by
  refine ⟨pass_of_count 2, fun h => ?_⟩
  have hmean := h.mean .prvFreq (by decide +kernel)
  revert hmean
  decide +kernel

end Prove

end Tritonn
