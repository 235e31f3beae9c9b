import Tritonn.Prove.Cycle

/-!
The sequence of the detectors: whether a pass with two groups of detectors comes to `CALCULATE`.

* `Detected` is the run in question: the module reports a detector of the first group in the wait
  for the first one, and of the second group, in time, in the wait for the second one;
* `Calculates` is the property, that it enters `CALCULATE`, at once or in further cycles without a
  command;
* `Latched` is what holds of the pass instead: from the first detector on its latched bit is there,
  and with it the wait for the second one ends with an error;
* `never_calculates` says that no such run enters `CALCULATE`;
* `calculates_fails` is a run from power-on.
-/

namespace Tritonn

/-- The detectors that the ball passes first in a direction: forward 1 and 2, the channels 0 and 1
of the module. -/
def FirstGroup : Way → Fin 4 → Prop
  | .forward, d => d.val < 2
  | .reverse, d => 2 ≤ d.val

/-- The detectors that the ball passes last in a direction. -/
def SecondGroup (w : Way) (d : Fin 4) : Prop := ¬ FirstGroup w d

/-- No command is written before the cycle. -/
def ProveInput.Quiet (i : ProveInput) : Prop := i.command = none

namespace Prove

open ProveState (waitD1 waitD2)

variable {p q : Prove} {i : ProveInput} {w : Way}

/-- The module answers the prover in a cycle, and reports one of the detectors. -/
def Reports (p : Prove) (i : ProveInput) (dets : Fin 4 → Prop) : Prop :=
  p.isSetModule = true ∧
    ∃ crm, i.crm = some crm ∧ crm.isFault = false ∧ ∃ d, dets d ∧ crm.channelDI d ≠ 0

/-- A pass without `ONEDETECTOR` and without commands: the cycle `i₁` reports the first group of
detectors in the wait for the first one, and after the cycles `l₂` the cycle `i₂` the second group
in the wait for the second one, whose timer is not finished. -/
structure Detected (w : Way) (p : Prove) (i₁ : ProveInput) (l₂ : List ProveInput)
    (i₂ : ProveInput) : Prop where
  twoDetectors : p.setup.saved &&& ProveSetup.onedetector = 0
  way : p.way = w
  command : p.command = .none
  quiet : ∀ i ∈ i₁ :: (l₂ ++ [i₂]), i.Quiet
  waitsFirst : p.state = waitD1 w
  first : p.Reports i₁ (FirstGroup w)
  waitsSecond : (p.run (i₁ :: l₂)).state = waitD2 w
  second : (p.run (i₁ :: l₂)).Reports i₂ (SecondGroup w)
  inTime : (p.run (i₁ :: l₂)).timerFinished i₂ = false

/-- The pass enters `CALCULATE`, in one of the cycles or of further ones without a command. -/
def Calculates (p : Prove) (i₁ : ProveInput) (l₂ : List ProveInput) (i₂ : ProveInput) : Prop :=
  ∃ l₃ : List ProveInput, (∀ i ∈ l₃, i.Quiet) ∧
    ∃ pre, pre <+: i₁ :: (l₂ ++ i₂ :: l₃) ∧ (p.run pre).state = .calculate

/-! ### The latched detector -/

/-- The bits in which `checkDetectors` looks for the first group. -/
def firstMask : Way → UInt16
  | .forward => ModuleCRM.det1 ||| ModuleCRM.det2
  | .reverse => ModuleCRM.det3 ||| ModuleCRM.det4

/-- The first detector is found by a latched bit of the first group. -/
lemma checkDetectors_true (hone : p.has ProveSetup.onedetector = false)
    (h : p.checkDetectors true = some true) : p.fixDet &&& firstMask p.way ≠ 0 := by
  rw [checkDetectors] at h
  cases hw : p.way <;> simp_all [firstMask]

/-- A latched bit of the first group is an error in the wait for the second detector. -/
lemma checkDetectors_false (hone : p.has ProveSetup.onedetector = false)
    (h : p.fixDet &&& firstMask p.way ≠ 0) : p.checkDetectors false = none := by
  rw [checkDetectors]
  cases hw : p.way <;> simp_all [firstMask]

/-- A pass with two groups of detectors up to the error, which lasts: it waits for the first
detector, or the bit of the first detector is latched while it waits for the second. -/
structure Latched (w : Way) (p : Prove) : Prop where
  twoDetectors : p.setup.saved &&& ProveSetup.onedetector = 0
  way : p.way = w
  command : p.command = .none
  phase : p.state = waitD1 w ∨ p.state = waitD2 w ∧ p.fixDet &&& firstMask w ≠ 0 ∨
    p.state.isError = true

lemma onWaitD1_phase (hc : q.command = .none) (hone : q.has ProveSetup.onedetector = false)
    (h : q.state = waitD1 q.way) :
    (q.onWaitD1 i).state = waitD1 q.way ∨
      (q.onWaitD1 i).state = waitD2 q.way ∧ q.fixDet &&& firstMask q.way ≠ 0 ∨
      (q.onWaitD1 i).state.isError = true := by
  obtain ⟨out, hout⟩ := unlessAborted_rest (p := q) _ (by simp [hc])
  rw [onWaitD1, hout]
  simp only [ite_errorD1, ite_waitD2]
  split_ifs
  · exact .inl (by simpa using h)
  · right; right
    cases hw : q.way <;> simp [ProveState.errorD1, ProveState.isError, hw]
  · split
    · exact .inr (.inr rfl)
    · exact .inl h
    · next hdet =>
        exact .inr (.inl ⟨by simp, checkDetectors_true (p := q.withOut out) hone hdet⟩)

/-- With the bit of the first detector, the wait for the second one stays or ends with an error. -/
lemma onWaitD2_phase (hc : q.command = .none) (hone : q.has ProveSetup.onedetector = false)
    (h : q.state = waitD2 q.way) (hdet : q.fixDet &&& firstMask q.way ≠ 0) :
    (q.onWaitD2 i).state = waitD2 q.way ∨ (q.onWaitD2 i).state.isError = true := by
  obtain ⟨out, hout⟩ := unlessAborted_rest (p := q) _ (by simp [hc])
  rw [onWaitD2, hout, checkDetectors_false (p := q.withOut out) hone hdet]
  simp only [ite_errorD2]
  split_ifs
  · exact .inl (by simpa using h)
  · right
    cases hw : q.way <;> simp [ProveState.errorD2, ProveState.isError, hw]
  · exact .inr rfl

/-- Without a command an error lasts. -/
lemma dispatch_of_isError (hc : q.command = .none) (h : q.state.isError = true) :
    q.dispatch i = q := by
  have honError : q.onErrorState = q := by
    rw [onErrorState]
    rw [hc]
  rw [dispatch]
  cases hs : q.state <;> simp [hs, ProveState.isError] at h ⊢ <;> exact honError

lemma dispatch_waitD1 (h : q.state = waitD1 w) : q.dispatch i = q.onWaitD1 i := by
  rw [dispatch, h]
  cases w <;> rfl

lemma dispatch_waitD2 (h : q.state = waitD2 w) : q.dispatch i = q.onWaitD2 i := by
  rw [dispatch, h]
  cases w <;> rfl

/-- The state of such a pass is none of those in which the setup or the direction may change. -/
lemma Latched.state_ne (h : p.Latched w) :
    p.state ≠ .idle ∧ p.state ≠ .start ∧ p.state ≠ .waycomplited ∧ p.state ≠ .calculate := by
  obtain hs | ⟨hs, -⟩ | hs := h.phase
  · cases w <;> simp [hs, waitD1]
  · cases w <;> simp [hs, waitD2]
  · refine ⟨?_, ?_, ?_, ?_⟩ <;> rintro he <;> simp [he, ProveState.isError] at hs

/-- The handler to which such a pass comes. -/
lemma Latched.dispatch (h : q.Latched w) (hsetup : q.setup.value = q.setup.saved) :
    (q.dispatch i).state = waitD1 w ∨
      (q.dispatch i).state = waitD2 w ∧ q.fixDet &&& firstMask w ≠ 0 ∨
      (q.dispatch i).state.isError = true := by
  obtain ⟨htwo, rfl, hc, hphase⟩ := h
  have hone : q.has ProveSetup.onedetector = false := by
    rw [has, hsetup, htwo]
    rfl
  obtain hs | ⟨hs, hdet⟩ | hs := hphase
  · rw [dispatch_waitD1 hs]
    exact onWaitD1_phase hc hone hs
  · rw [dispatch_waitD2 hs]
    exact (onWaitD2_phase hc hone hs hdet).elim (fun h => .inr (.inl ⟨h, hdet⟩))
      fun h => .inr (.inr h)
  · rw [dispatch_of_isError hc hs]
    exact .inr (.inr hs)

lemma Latched.scan (h : p.Latched w) (hi : i.Quiet) : (p.scan i).Latched w := by
  obtain ⟨hidle, hstart, hpass, -⟩ := h.state_ne
  obtain ⟨q, hq, hscan⟩ := scan_cases p i
  have hlatched : q.Latched w := by
    refine ⟨?_, hq.way.trans h.way, ?_, ?_⟩
    · rw [hq.setup hidle]
      exact h.twoDetectors
    · rw [hq.command, load, show i.command = none from hi]
      exact h.command
    · obtain hs | ⟨hs, -⟩ := hq.state
      · rw [hs]
        exact h.phase.imp_right (Or.imp_left (And.imp_right (hq.fixDet _)))
      · exact .inr (.inr (by rw [hs]; rfl))
  obtain ⟨hscan, -⟩ | hscan := hscan
  · rwa [hscan]
  · have hfollows := dispatch_follows (p := q) (i := i)
    obtain ⟨-, hqstart, hqpass, -⟩ := hlatched.state_ne
    rw [hscan]
    refine ⟨?_, ?_, rfl, ?_⟩
    · dsimp only
      rw [hfollows.setup]
      exact hlatched.twoDetectors
    · exact (ProveState.way_of_mem_edges hfollows.edge hqstart hqpass).trans hlatched.way
    · dsimp only
      rw [hfollows.fixDet hqstart]
      exact hlatched.dispatch (by rw [hq.setup hidle])

/-- Cycles without a command keep such a pass what it is. -/
lemma Latched.run {l : List ProveInput} (h : p.Latched w) (hl : ∀ i ∈ l, i.Quiet) :
    (p.run l).Latched w := by
  induction l generalizing p with
  | nil => exact h
  | cons i l ih =>
      exact ih (h.scan (hl i List.mem_cons_self)) fun j hj => hl j (List.mem_cons_of_mem i hj)

/-- Such a pass does not come to `CALCULATE`. -/
lemma Latched.ne_calculate {l pre : List ProveInput} (h : p.Latched w) (hl : ∀ i ∈ l, i.Quiet)
    (hpre : pre <+: l) : (p.run pre).state ≠ .calculate :=
  (h.run fun i hi => hl i (hpre.subset hi)).state_ne.2.2.2

section Detected

variable {i₁ i₂ : ProveInput} {l₂ l₃ : List ProveInput}

lemma Detected.latched (h : Detected w p i₁ l₂ i₂) : p.Latched w :=
  ⟨h.twoDetectors, h.way, h.command, .inl h.waitsFirst⟩

lemma Detected.quiet_append (h : Detected w p i₁ l₂ i₂) (hl₃ : ∀ i ∈ l₃, i.Quiet) :
    ∀ i ∈ i₁ :: (l₂ ++ i₂ :: l₃), i.Quiet := by
  have hl := h.quiet
  simp only [List.mem_cons, List.mem_append] at hl ⊢
  rintro i (rfl | hi | rfl | hi)
  · exact hl _ (.inl rfl)
  · exact hl i (.inr (.inl hi))
  · exact hl _ (.inr (.inr (.inl rfl)))
  · exact hl₃ i hi

/-- Without `ONEDETECTOR` no pass in which the detectors are reported in turn enters `CALCULATE`,
in whichever direction. -/
theorem never_calculates (h : Detected w p i₁ l₂ i₂) : ¬ Calculates p i₁ l₂ i₂ := by
  rintro ⟨l₃, hl₃, pre, hpre, hstate⟩
  exact h.latched.ne_calculate (h.quiet_append hl₃) hpre hstate

end Detected

/-! ### A pass after power-on -/

/-- The prover without a valve that waits for the first detector, from power-on. -/
def waiting : Prove :=
  ({ moduleNum := 0 } : Prove).run (cycleAt ProveSetup.novalve 0 (some 1) (fun _ => 0) ::
    [0, 1010, 1020, 6020, 6030].map (quietAt ProveSetup.novalve))

/-- The ball passes detector 1. -/
def detector1 : ProveInput := cycleAt ProveSetup.novalve 7000 none ![1, 0, 0, 0]

/-- The ball passes detector 3, two seconds later. -/
def detector3 : ProveInput := cycleAt ProveSetup.novalve 9000 none ![0, 0, 1, 0]

lemma waiting_detected :
    Detected .forward waiting detector1 [quietAt ProveSetup.novalve 7010] detector3 where
  twoDetectors := by decide +kernel
  way := by decide +kernel
  command := by decide +kernel
  quiet := by simp [ProveInput.Quiet, detector1, detector3, quietAt, cycleAt]
  waitsFirst := by decide +kernel
  first := ⟨by decide +kernel, _, rfl, rfl, 0, by simp [FirstGroup], by decide⟩
  waitsSecond := by decide +kernel
  second := ⟨by decide +kernel, _, rfl, rfl, 2, by simp [SecondGroup, FirstGroup], by decide⟩
  inTime := by decide +kernel

/-- The ball passes detector 1 and in time detector 3, and the prover ends in `ERRORDETECTOR`. -/
theorem calculates_fails :
    Detected .forward waiting detector1 [quietAt ProveSetup.novalve 7010] detector3 ∧
      ¬ Calculates waiting detector1 [quietAt ProveSetup.novalve 7010] detector3 ∧
      (waiting.run [detector1, quietAt ProveSetup.novalve 7010, detector3]).state
        = .errordetector := by
  refine ⟨waiting_detected, ?_, by decide +kernel⟩
  rintro ⟨l₃, hl₃, pre, hpre, hstate⟩
  exact waiting_detected.latched.ne_calculate (waiting_detected.quiet_append hl₃) hpre hstate

theorem never_calculates_waiting :
    ¬ Calculates waiting detector1 [quietAt ProveSetup.novalve 7010] detector3 :=
  never_calculates waiting_detected

end Prove

end Tritonn
