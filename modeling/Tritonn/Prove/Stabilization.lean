import Tritonn.Prove.Interlock

/-!
The stabilization: whether the ball is released only after values that stayed within their limits.

* `Refers` is a cycle that takes the references, and `Stabilizes` the cycles from there to the one
  that goes to `RUNBALL`;
* `Gated` is the property: the references are taken before, and in each of these cycles the
  temperature, the pressure, the density and the frequency are off them by their limits at most;
* `onStabilization_step` says what a cycle in `STABILIZATION` does;
* `gated_iff` says that a run from power-on has the property if and only if the values are within
  their limits in the cycles that do not look at them: those in which the timer is finished, or the
  module does not answer;
* `gated_fails` is a run with the temperature far off when the timer is finished.
-/

namespace Tritonn

open Run (Along Until)

namespace Prove

variable {p q r : Prove} {i : ProveInput} {l : List ProveInput} {ref : StabValues}

/-- The present values of those that are checked. -/
def stabValues (q : Prove) : StabValues := ⟨q.link.temp, q.link.pres, q.link.dens, q.moduleFreq⟩

/-- The values of a cycle. -/
def stabNow (p : Prove) (i : ProveInput) : StabValues := (p.handled i).stabValues

/-- The values of a cycle are off the references by their limits at most. -/
def Within (ref : StabValues) (p : Prove) (i : ProveInput) : Prop :=
  ∀ v, |(p.stabNow i).get v - ref.get v| ≤ i.maxStab.get v

/-- A cycle takes the references: it starts the timer of `STABILIZATION`. -/
structure Refers (p : Prove) (i : ProveInput) : Prop where
  state : p.state = .stabilization
  stopped : p.timer.isStart = false
  stays : (p.scan i).state = .stabilization
  started : (p.scan i).timer.isStart = true

/-- The run stays in `STABILIZATION` and goes to `RUNBALL` in the end. -/
abbrev Stabilizes : Prove → List ProveInput → Prop :=
  Until scan (fun q => q.state = .stabilization) fun q => q.state = .runball

/-- Whenever a run goes from `STABILIZATION` to `RUNBALL` the references were taken before, and in
every cycle since then the values were within their limits. -/
structure Gated (p : Prove) (l : List ProveInput) : Prop where
  referred : ∀ pre i, pre ++ [i] <+: l → (p.run pre).state = .stabilization →
    (p.run (pre ++ [i])).state = .runball →
    ∃ m j mid, pre = m ++ j :: mid ∧ (p.run m).Refers j ∧
      ((p.run m).scan j).Stabilizes (mid ++ [i])
  within : ∀ pre i mid, pre ++ i :: mid <+: l → (p.run pre).Refers i →
    ((p.run pre).scan i).Stabilizes mid →
    Along scan (Within ((p.run pre).stabNow i)) ((p.run pre).scan i) mid

/-- A cycle does not look at the values: the module does not answer, or the timer is finished. -/
def unchecked (p : Prove) (i : ProveInput) : Bool := !p.answered i || p.timerFinished i

/-! ### The state `STABILIZATION` -/

/-- The ways in which a handler may lead from `q` in `STABILIZATION` to `r`: it ends the run, takes
the references, finds the values within their limits, or goes to `RUNBALL` when the timer is
finished. -/
inductive StabStep (i : ProveInput) (q r : Prove) : Prop where
  | ends (state : r.state ≠ .stabilization) (state' : r.state ≠ .runball)
  | refers (stopped : q.timer.isStart = false) (state : r.state = .stabilization)
      (started : r.timer.isStart = true) (stab : r.stab = q.stabValues)
  | checks (within : ∀ v, |q.stabValues.get v - q.stab.get v| ≤ i.maxStab.get v)
      (state : r.state = .stabilization) (timer : r.timer = q.timer) (stab : r.stab = q.stab)
      (started : q.timer.isStart = true)
  | leaves (finished : q.timerFinished i = true) (state : r.state = .runball)

lemma checkStab_eq_none {v : StabValue} {start present maxstab : LREAL} :
    q.checkStab v start present maxstab = none ↔ |present - start| ≤ maxstab := by
  rw [checkStab]
  split_ifs with h <;> simpa using h

/-- A value off its limit ends the run. -/
lemma checkStab_ends {v : StabValue} {start present maxstab : LREAL}
    (h : q.checkStab v start present maxstab = some r) : r.state = .errorstab := by
  rw [checkStab] at h
  split_ifs at h
  cases h
  rfl

lemma onStabilization_step (h : q.state = .stabilization) :
    StabStep i q (q.onStabilization i) := by
  refine unlessAborted_ind (fun _ => .ends (by simp) (by simp)) fun out => ?_
  split_ifs with hstart hfinished
  · exact .refers (by simpa using hstart) h rfl rfl
  · exact .leaves hfinished rfl
  have hrun : q.timer.isStart = true := by simpa using hstart
  -- The handler stays when none of the four checks fails.
  simp only [Option.orElse_eq_orElse, Option.orElse_eq_or]
  cases hchecks : ((q.withOut out).checkStab .temp _ _ _).or
      (((q.withOut out).checkStab .pres _ _ _).or
        (((q.withOut out).checkStab .dens _ _ _).or ((q.withOut out).checkStab .freq _ _ _))) with
  | none =>
      simp only [Option.or_eq_none_iff, checkStab_eq_none] at hchecks
      obtain ⟨htemp, hpres, hdens, hfreq⟩ := hchecks
      refine .checks (fun v => ?_) h rfl rfl hrun
      cases v with
      | temp => exact htemp
      | pres => exact hpres
      | dens => exact hdens
      | freq => exact hfreq
  | some r =>
      have hstate : r.state = .errorstab := by
        simp only [Option.or_eq_some_iff] at hchecks
        obtain hr | ⟨-, hr | ⟨-, hr | ⟨-, hr⟩⟩⟩ := hchecks <;> exact checkStab_ends hr
      exact .ends (by simp [hstate]) (by simp [hstate])

/-- The averages and what was sent before do not matter to the handler. -/
lemma dispatch_step (h : q.state = .stabilization) (a : ProveAverage) (out : List ProveOut) :
    StabStep i q { (withOut { q with average := a } out).dispatch i with command := .none } := by
  have hstep : StabStep i (withOut { q with average := a } out)
      ((withOut { q with average := a } out).onStabilization i) := onStabilization_step h
  have hdispatch : (withOut { q with average := a } out).dispatch i =
      (withOut { q with average := a } out).onStabilization i := by
    rw [dispatch, show (withOut { q with average := a } out).state = .stabilization from h]
  rw [hdispatch]
  cases hstep with
  | ends hne hne' => exact .ends hne hne'
  | refers hstopped hs hstarted hstab => exact .refers hstopped hs hstarted hstab
  | checks hwithin hs ht hstab hstarted => exact .checks hwithin hs ht hstab hstarted
  | leaves hfinished hs => exact .leaves hfinished hs

/-! ### A cycle -/

lemma checked_stab : (p.checked i).stab = p.stab := by
  obtain ⟨setup, out, hchecked⟩ := checked_eq (p := p) (i := i)
  rw [hchecked]
  rfl

lemma asked_stab : (p.asked i).stab = p.stab := by
  obtain ⟨freq, det, count, out, hasked⟩ := asked_eq (p := p) (i := i)
  rw [hasked]

/-- Before the handler a cycle leaves the references as they are. -/
lemma handled_stab : (p.handled i).stab = p.stab := by
  obtain ⟨fixDet, curDet, timerBounce, hdet⟩ :=
    detectorsProcessing_eq (p := (p.checked i).asked i) (i := i)
  rw [handled, hdet]
  exact asked_stab.trans checked_stab

/-- A cycle in `STABILIZATION` is a step of its handler, or waits for the module. -/
lemma scan_stabilization (h : p.state = .stabilization) :
    p.answered i = false ∧ (p.scan i).state = .stabilization ∧ (p.scan i).timer = p.timer ∧
        (p.scan i).stab = p.stab ∨
      p.answered i = true ∧ StabStep i (p.handled i) (p.scan i) := by
  cases ha : p.answered i with
  | false =>
      obtain ⟨hsame, -⟩ := scan_of_not_answered ha
      refine .inl ⟨rfl, ?_, ?_, ?_⟩
      · rw [hsame.state, checked_sameView.1, h]
      · rw [hsame.timer, checked_sameView.2.2.1]
      · rw [scan_eq_asked ha, asked_stab, checked_stab]
  | true =>
      refine .inr ⟨rfl, ?_⟩
      cases hs : p.holdsStream i with
      | false =>
          obtain ⟨hstate, -⟩ := scan_of_lost ha hs
          rcases hstate with hstate | hstate <;> exact .ends (by simp [hstate]) (by simp [hstate])
      | true =>
          obtain ⟨out, -, hscan⟩ :=
            scan_eq_dispatch (p := p) (i := i) (by rw [reaches, ha, hs]; rfl)
          rw [hscan]
          exact dispatch_step (handled_state.trans h) _ out

/-! ### Runs -/

/-- As long as the run is in `STABILIZATION`, its timer goes on and the references are `ref`. -/
def Referred (ref : StabValues) (p : Prove) : Prop :=
  p.state = .stabilization → p.timer.isStart = true ∧ p.stab = ref

lemma Refers.referred (h : p.Refers i) : (p.scan i).Referred (p.stabNow i) := by
  intro _
  refine ⟨h.started, ?_⟩
  obtain ⟨-, -, ht, -⟩ | ⟨-, hstep⟩ := scan_stabilization (i := i) h.state
  · have hstarted := h.started
    rw [ht, h.stopped] at hstarted
    cases hstarted
  · cases hstep with
    | ends hne => exact absurd h.stays hne
    | refers _ _ _ hstab => exact hstab
    | checks _ _ _ _ hstarted =>
        rw [handled_timer, h.stopped] at hstarted
        cases hstarted
    | leaves _ hs =>
        have hstays := h.stays
        rw [hs] at hstays
        cases hstays

/-- A cycle on the way to `RUNBALL` has its values within their limits if it looks at them. -/
lemma within_iff (h : p.Referred ref) (hs : p.state = .stabilization)
    (hn : (p.scan i).state = .stabilization ∨ (p.scan i).state = .runball) :
    (Within ref p i ↔ (p.unchecked i = true → Within ref p i)) ∧ (p.scan i).Referred ref := by
  obtain ⟨ht, hstab⟩ := h hs
  obtain ⟨ha, -, ht', hstab'⟩ | ⟨-, hstep⟩ := scan_stabilization (i := i) hs
  · refine ⟨(imp_iff_right (by simp [unchecked, ha])).symm, fun _ => ?_⟩
    rw [ht', hstab']
    exact ⟨ht, hstab⟩
  · cases hstep with
    | ends hne hne' => exact absurd hn (by simp [hne, hne'])
    | refers hstopped =>
        rw [handled_timer, ht] at hstopped
        cases hstopped
    | checks hwithin _ ht' hstab' _ =>
        rw [handled_stab] at hwithin hstab'
        rw [handled_timer] at ht'
        refine ⟨iff_of_true (hstab ▸ hwithin) fun _ => hstab ▸ hwithin, fun _ => ?_⟩
        rw [ht', hstab']
        exact ⟨ht, hstab⟩
    | leaves hfinished hs' =>
        rw [timerFinished, handled_timer] at hfinished
        refine ⟨(imp_iff_right (by simp [unchecked, timerFinished, hfinished])).symm, fun hs => ?_⟩
        rw [hs'] at hs
        cases hs

/-- From the references on, the values are within their limits if they are so in the cycles that do
not look at them. -/
lemma along_within_iff (h : p.Referred ref) (hl : p.Stabilizes l) :
    Along scan (Within ref) p l ↔
      Along scan (fun q j => q.unchecked j = true → Within ref q j) p l :=
  Run.along_congr (Referred ref) (fun _ _ hq hj => (within_iff hq hj.1 hj.2).1)
    (fun _ _ hq hj _ => (within_iff hq hj.1 hj.2).2) h hl.along

/-! ### The references -/

/-- `STABILIZATION` is entered from `START`. -/
lemma edges_to_stabilization {valve4way : Bool} {s : ProveState} {w w' : Way}
    (h : (.stabilization, w') ∈ ProveState.edges valve4way s w) (hs : s ≠ .stabilization) :
    s = .start := by
  have key : ∀ valve4way, ∀ e ∈ ProveState.edges valve4way s w, e.1 = .stabilization →
      s ≠ .stabilization → s = .start := by
    cases w <;> cases s <;> decide
  exact key _ _ h rfl hs

lemma onStart_enters (h : q.state = .start) (hs : (q.onStart i).state = .stabilization) :
    (q.onStart i).timer.isStart = false := by
  revert hs
  refine unlessAborted_ind (P := fun r => r.state = .stabilization → r.timer.isStart = false)
    (fun _ hs => by simp at hs) fun out hs => ?_
  dsimp only at hs ⊢
  split_ifs at hs ⊢ <;> try rfl
  · rw [connectToLine] at hs
    split_ifs at hs <;> simp [h] at hs
  · simp [h] at hs

/-- The timer is stopped when `STABILIZATION` is entered. -/
lemma scan_enters (h : p.state ≠ .stabilization) (hs : (p.scan i).state = .stabilization) :
    (p.scan i).timer.isStart = false := by
  obtain ⟨q, hq, ⟨hscan, hstate⟩ | hscan⟩ := scan_cases p i
  · rw [hscan, hstate] at hs
    exact absurd hs h
  rw [hscan] at hs ⊢
  dsimp only at hs ⊢
  have hedge := (dispatch_follows (p := q) (i := i)).edge
  rw [hs] at hedge
  rcases hq.state with hstate | ⟨hstate, -⟩
  · have hstart := edges_to_stabilization hedge (hstate ▸ h)
    have hdispatch : q.dispatch i = q.onStart i := by rw [dispatch, hstart]
    rw [hdispatch] at hs ⊢
    exact onStart_enters hstart hs
  · exact absurd (edges_to_stabilization hedge (by simp [hstate])) (by simp [hstate])

/-- While the timer of `STABILIZATION` runs, the references were taken by an earlier cycle, and the
run has not left `STABILIZATION` since then. -/
lemma exists_refers (hp : p.state ≠ .stabilization) (hs : (p.run l).state = .stabilization)
    (ht : (p.run l).timer.isStart = true) :
    ∃ m j mid, l = m ++ j :: mid ∧ (p.run m).Refers j ∧
      Until scan (fun q => q.state = .stabilization) (fun q => q.state = .stabilization)
        ((p.run m).scan j) mid := by
  induction l using List.reverseRecOn with
  | nil => exact absurd hs hp
  | append_singleton l i ih =>
      rw [run_concat] at hs ht
      by_cases hbefore : (p.run l).state = .stabilization
      · by_cases hrun : (p.run l).timer.isStart = true
        · obtain ⟨m, j, mid, rfl, hrefers, hmid⟩ := ih hbefore hrun
          rw [run_append_cons] at hs
          exact ⟨m, j, mid ++ [i], by simp, hrefers, hmid.concat hs⟩
        · exact ⟨l, i, [], rfl, ⟨hbefore, by simpa using hrun, hs, ht⟩, hs⟩
      · rw [scan_enters hbefore hs] at ht
        cases ht

/-- `STABILIZATION` is left for `RUNBALL` with a running timer. -/
lemma isStart_of_leaves (h : p.state = .stabilization) (hs : (p.scan i).state = .runball) :
    p.timer.isStart = true := by
  obtain ⟨-, hstate, -⟩ | ⟨-, hstep⟩ := scan_stabilization (i := i) h
  · simp [hs] at hstate
  · cases hstep with
    | ends _ hne => exact absurd hs hne
    | refers _ hstate => simp [hs] at hstate
    | checks _ hstate => simp [hs] at hstate
    | leaves hfinished =>
        rw [timerFinished, handled_timer, TickCount.isFinished, Bool.and_eq_true] at hfinished
        exact hfinished.1

/-- In every run from power-on the references are taken before the ball is released and the values
of all cycles since then are within their limits, if and only if they are so in the cycles that do
not look at them. -/
theorem gated_iff (moduleNum : UInt8) (moduleName : String) (setup : CmpUINT) (strIdx : UInt16)
    (l : List ProveInput) :
    (powerOn moduleNum moduleName setup strIdx).Gated l ↔
      ∀ pre i mid, pre ++ i :: mid <+: l →
        ((powerOn moduleNum moduleName setup strIdx).run pre).Refers i →
        (((powerOn moduleNum moduleName setup strIdx).run pre).scan i).Stabilizes mid →
        Along scan (fun q j => q.unchecked j = true →
            Within (((powerOn moduleNum moduleName setup strIdx).run pre).stabNow i) q j)
          (((powerOn moduleNum moduleName setup strIdx).run pre).scan i) mid := by
  constructor
  · intro h pre i mid hpre hrefers hmid
    exact (along_within_iff hrefers.referred hmid).mp (h.within pre i mid hpre hrefers hmid)
  · intro h
    refine ⟨fun pre i _ hs hrun => ?_, fun pre i mid hpre hrefers hmid =>
      (along_within_iff hrefers.referred hmid).mpr (h pre i mid hpre hrefers hmid)⟩
    rw [run_concat] at hrun
    obtain ⟨m, j, mid, rfl, hrefers, hmid⟩ :=
      exists_refers (by simp [powerOn]) hs (isStart_of_leaves hs hrun)
    rw [run_append_cons] at hrun
    exact ⟨m, j, mid, rfl, hrefers, hmid.concat hrun⟩

/-! ### An expired timer -/

/-- A prover without a valve and with one detector, that has to be stable. -/
def stable : UInt16 := oneDetector ||| ProveSetup.stabilization

/-- A quiet cycle at a temperature. -/
def warmAt (tick : UInt32) (temp : LREAL) : ProveInput :=
  { quietAt stable tick with link.temp := temp }

/-- A run that takes the references at twenty degrees and finds a hundred when the timer is
finished. -/
def expiredRun : List ProveInput :=
  [cycleAt stable 0 (some 1) fun _ => 0, warmAt 0 20, warmAt 1010 20, warmAt 1020 20,
    warmAt 11030 100]

/-- The ball is released in the cycle in which the temperature is far off. -/
theorem gated_fails : ¬ (powerOn 0 "" {} 0).Gated expiredRun := by
  intro h
  have hmid := h.within (expiredRun.take 3) (warmAt 1020 20) [warmAt 11030 100] List.prefix_rfl
    ⟨by decide +kernel, by decide +kernel, by decide +kernel, by decide +kernel⟩ (by decide +kernel)
  have htemp := hmid.1 .temp
  revert htemp
  decide +kernel

end Prove

end Tritonn
