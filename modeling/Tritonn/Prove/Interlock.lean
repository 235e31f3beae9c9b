import Tritonn.Lib.Run
import Tritonn.Prove.Acts

/-!
The interlock of the prover: its outputs to the valve, the output "in progress" and the setup of a
proving run.

* `Interlocked` is the property of a run;
* `scan_valve` and `scan_inProgress` are what one cycle keeps of it, and `setup_of_run` says that
  the setup word is the one with which `IDLE` was left;
* `interlocked_iff` says that a run from power-on has the property, with all its prefixes, if and
  only if no cycle with `SIMULATE` set so far turns the valve with another flag set;
* `interlocked_fails` is a run with `SIMULATE` and `ONEDETECTOR`.
-/

namespace Tritonn

namespace Prove

variable {p q : Prove} {i j : ProveInput} {l : List ProveInput}

/-- The states in which the ball is under way. -/
def progressStates : List ProveState :=
  [.runball, .valvetoup, .waittoup, .valvetodown, .waitd1, .waitd2, .calculate, .returnball,
    .waitd1Reverse, .waitd2Reverse, .waycomplited]

/-- The setup word that the handlers of a cycle use. -/
def usedSetup (p : Prove) (i : ProveInput) : UInt16 := (p.checked i).setup.value

/-- `SIMULATE` is set in a cycle. -/
def Simulates (p : Prove) (i : ProveInput) : Prop := p.usedSetup i &&& ProveSetup.simulate ≠ 0

/-- Between leaving `IDLE` and coming back to it the setup word stays the same. -/
def KeepsSetup (p : Prove) (l : List ProveInput) : Prop :=
  ∀ pre i mid j, pre ++ i :: (mid ++ [j]) = l → (p.run pre).state = .idle →
    (∀ m, m <+: mid → (p.run (pre ++ i :: m)).state ≠ .idle) →
    (p.run (pre ++ i :: mid)).usedSetup j = (p.run pre).usedSetup i

/-- The interlock behind a run. -/
structure Interlocked (p : Prove) (l : List ProveInput) : Prop where
  valve : ¬ ((p.run l).openValve = 1 ∧ (p.run l).closeValve = 1)
  simulated : Run.Along scan Simulates p l →
    (p.run l).openValve = p.openValve ∧ (p.run l).closeValve = p.closeValve
  inProgress : (p.run l).inProgress = 1 ↔ (p.run l).state ∈ progressStates
  setup : p.KeepsSetup l

/-- The handler is about to turn the valve, if the setup is not that of a simulation. -/
def atValve (q : Prove) : Bool :=
  q.command != .abort &&
    match q.state with
    | .valvetoup => !q.isValveOpened
    | .valvetodown => !q.timer.isStart
    | .returnball => !q.has ProveSetup.novalve && !q.timer.isStart
    | _ => false

/-- When a cycle is about to turn the valve, no other flag is set than `SIMULATE`. -/
def SimulatesAlone (p : Prove) (i : ProveInput) : Prop :=
  p.reaches i = true → (p.handled i).atValve = true → p.usedSetup i = ProveSetup.simulate

/-! ### The valve -/

/-- The outputs of the valve: none is set, or one of them. -/
def ValveSafe (v : LREAL × LREAL) : Prop := v = (0, 0) ∨ v = (1, 0) ∨ v = (0, 1)

lemma turns_safe {v : LREAL × LREAL} (h : q.turns = some v) : v = (1, 0) ∨ v = (0, 1) := by
  by_cases hc : q.command = .abort
  · simp [turns, hc] at h
  · rw [turns, if_neg hc] at h
    cases hs : q.state <;> simp only [hs, reduceCtorEq] at h <;> split_ifs at h <;> simp_all

lemma turns_eq_none_iff : q.turns = none ↔ (q.atValve = true → q.isSimulate = true) := by
  by_cases hc : q.command = .abort
  · simp [turns, atValve, hc]
  · rw [turns, if_neg hc, atValve]
    cases hs : q.state <;> simp [hc, or_iff_not_imp_left]

/-- A cycle leaves the outputs as they are, or sets one of them and clears the other. -/
lemma scan_valve : ((p.scan i).openValve, (p.scan i).closeValve) = (p.openValve, p.closeValve) ∧
      p.turned i = none ∨
    (((p.scan i).openValve, (p.scan i).closeValve) = (1, 0) ∨
      ((p.scan i).openValve, (p.scan i).closeValve) = (0, 1)) ∧ p.turned i ≠ none := by
  rw [scan_acts.2.1]
  cases h : p.turned i with
  | none => exact .inl ⟨rfl, rfl⟩
  | some v =>
      rw [turned] at h
      split_ifs at h
      exact .inr ⟨turns_safe h, by simp⟩

lemma turned_eq_none_iff : p.turned i = none ↔ p.SimulatesAlone i := by
  have hsetup : (p.handled i).isSimulate = true ↔ p.usedSetup i = ProveSetup.simulate := by
    rw [isSimulate, handled_sameView.setup, beq_iff_eq]
    rfl
  rw [turned, SimulatesAlone]
  split_ifs with hr
  · simp [hr, turns_eq_none_iff, hsetup]
  · simp [hr]

/-! ### In progress -/

lemma inProgress_eq_one_iff {s : ProveState} : s.inProgress = 1 ↔ s ∈ progressStates := by
  cases s <;> simp [ProveState.inProgress, progressStates]

lemma scan_inProgress (h : p.inProgress = p.state.inProgress) :
    (p.scan i).inProgress = (p.scan i).state.inProgress := scan_acts.2.2.1 h

/-! ### The setup -/

/-- A cycle ends with the setup that its handlers used, which is also the saved one. -/
lemma scan_setup : (p.scan i).setup = (p.checked i).setup := by
  by_cases ha : p.answered i = true
  · rw [scan_of_answered ha]
    dsimp only
    rw [dispatch_follows.setup, (checkBadCommand_keeps (i := i)).setup, calcAverage_keeps.setup,
      handled_sameView.setup]
  · exact (scan_of_not_answered (Bool.eq_false_iff.mpr ha)).1.setup

lemma usedSetup_of_ne_idle (h : p.state ≠ .idle) : p.usedSetup i = p.setup.saved :=
  checked_setup.1.trans (checked_setup.2 h)

lemma scan_saved_eq : (p.scan i).setup.saved = p.usedSetup i := by
  rw [scan_setup, usedSetup, checked_setup.1]

/-- As long as a run does not come to `IDLE`, the saved setup stays. -/
lemma run_saved (h : ∀ m, m <+: l → (p.run m).state ≠ .idle) :
    (p.run l).setup.saved = p.setup.saved := by
  induction l generalizing p with
  | nil => rfl
  | cons i l ih =>
      have hnext : ((p.scan i).run l).setup.saved = (p.scan i).setup.saved :=
        ih fun m hm => h (i :: m) (List.cons_prefix_cons.mpr ⟨rfl, hm⟩)
      exact hnext.trans (scan_saved (h [] List.nil_prefix))

theorem keepsSetup (p : Prove) (l : List ProveInput) : p.KeepsSetup l := by
  rintro pre i mid j - - hmid
  have hne := hmid mid List.prefix_rfl
  rw [usedSetup_of_ne_idle hne, run_append_cons, run_saved fun m hm => ?_, scan_saved_eq]
  rw [← run_append_cons]
  exact hmid m hm

/-! ### Runs -/

/-- What holds behind every run from power-on. -/
lemma run_safe (hv : ValveSafe (p.openValve, p.closeValve))
    (hp : p.inProgress = p.state.inProgress) (l : List ProveInput) :
    ValveSafe ((p.run l).openValve, (p.run l).closeValve) ∧
      (p.run l).inProgress = (p.run l).state.inProgress := by
  induction l generalizing p with
  | nil => exact ⟨hv, hp⟩
  | cons i l ih =>
      refine ih (p := p.scan i) ?_ (scan_inProgress hp)
      rcases scan_valve (p := p) (i := i) with ⟨h, -⟩ | ⟨h, -⟩
      · rwa [h]
      · exact .inr h

/-- Without a cycle that turns the valve its outputs stay. -/
lemma run_valve (h : ∀ m i, m ++ [i] <+: l → (p.run m).turned i = none) :
    ((p.run l).openValve, (p.run l).closeValve) = (p.openValve, p.closeValve) := by
  induction l using List.reverseRecOn with
  | nil => rfl
  | append_singleton l i ih =>
      rw [run_concat, ← ih fun m j hm => h m j (hm.trans (List.prefix_append l [i]))]
      exact (scan_valve.resolve_right fun hne => hne.2 (h l i List.prefix_rfl)).1

/-- Every run from power-on, with all its prefixes, is interlocked if and only if with `SIMULATE`
set from its beginning on no cycle turns the valve with another flag set. -/
theorem interlocked_iff (moduleNum : UInt8) (moduleName : String) (setup : CmpUINT)
    (strIdx : UInt16) (l : List ProveInput) :
    (∀ pre, pre <+: l → (powerOn moduleNum moduleName setup strIdx).Interlocked pre) ↔
      ∀ pre i, pre ++ [i] <+: l →
        Run.Along scan Simulates (powerOn moduleNum moduleName setup strIdx) (pre ++ [i]) →
        ((powerOn moduleNum moduleName setup strIdx).run pre).SimulatesAlone i := by
  constructor
  · intro h pre i hpre hsim
    rw [← turned_eq_none_iff]
    by_contra hne
    have hpre' := (List.prefix_append pre [i]).trans hpre
    obtain ⟨hopen, hclose⟩ := (h _ hpre).simulated hsim
    rw [run_concat] at hopen hclose
    obtain ⟨hturned, -⟩ := scan_valve.resolve_left fun hstay => hne hstay.2
    rw [hopen, hclose] at hturned
    simp [powerOn] at hturned
  · intro h pre hpre
    obtain ⟨hvalve, hprogress⟩ :=
      run_safe (p := powerOn moduleNum moduleName setup strIdx) (.inl rfl) rfl pre
    refine ⟨?_, fun hsim => ?_, by rw [hprogress, inProgress_eq_one_iff], keepsSetup _ pre⟩
    · rintro ⟨hopen, hclose⟩
      rw [hopen, hclose] at hvalve
      simp [ValveSafe] at hvalve
    · refine Prod.mk.inj (run_valve fun m i hm => turned_eq_none_iff.mpr ?_)
      exact h m i (hm.trans hpre) (hsim.of_isPrefix hm)

/-- The setup of a simulation with one detector. -/
def simulateOneDetector : UInt16 := ProveSetup.simulate ||| ProveSetup.onedetector

/-- A proving run up to the turn of the valve. -/
def simulatedRun : List ProveInput :=
  cycleAt simulateOneDetector 0 (some 1) (fun _ => 0) ::
    [0, 1010, 1020, 1030].map (quietAt simulateOneDetector)

/-- `SIMULATE` is set in every cycle, together with another flag, and the valve is turned. -/
theorem interlocked_fails :
    Run.Along scan Simulates (powerOn 0 "" {} 0) simulatedRun ∧
      ((powerOn 0 "" {} 0).run simulatedRun).openValve = 1 ∧
      ¬ (powerOn 0 "" {} 0).Interlocked simulatedRun := by
  have hsim : Run.Along scan Simulates (powerOn 0 "" {} 0) simulatedRun := by
    simp only [simulatedRun, List.map_cons, List.map_nil, Run.along_cons, Run.along_nil, and_true,
      Simulates]
    decide +kernel
  have hopen : ((powerOn 0 "" {} 0).run simulatedRun).openValve = 1 := by decide +kernel
  refine ⟨hsim, hopen, fun h => ?_⟩
  have hstay := (h.simulated hsim).1
  rw [hopen] at hstay
  exact one_ne_zero hstay

end Prove

end Tritonn
