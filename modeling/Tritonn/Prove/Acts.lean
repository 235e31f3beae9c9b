import Tritonn.Prove.Cycle

/-!
What the handlers of the prover put out: the outputs to the valve, the output "in progress" and what
is asked of the rest of the system.

* `turns` and `request` name, for a prover as its handler finds it, what the handler does to the
  outputs of the valve and what it asks for;
* `dispatch_acts` says that the handlers do that and nothing else;
* `handled` is the prover as a handler finds it, and `scan_outcome` a whole cycle: the module does
  not answer, the stream is lost, or a handler runs.
-/

namespace Tritonn

/-- An event asks for nothing. -/
def ProveOut.isEvent : ProveOut → Bool
  | .event _ => true
  | _ => false

namespace Prove

variable {p q : Prove} {i : ProveInput}

/-- What a cycle asks of the rest of the system. -/
def requests (p : Prove) : List ProveOut := p.out.filter (!·.isEvent)

/-- The handler sets the outputs of the valve, `m_open` and `m_close`. -/
def turns (p : Prove) : Option (LREAL × LREAL) :=
  if p.command = .abort then none
  else
    match p.state with
    | .valvetoup => if p.isValveOpened || p.isSimulate then none else some (1, 0)
    | .valvetodown => if p.timer.isStart || p.isSimulate then none else some (0, 1)
    | .returnball =>
        if p.has ProveSetup.novalve || p.timer.isStart || p.isSimulate then none else some (1, 0)
    | _ => none

/-- The handler selects the stream, starts the measurement of the module or stops it. -/
def request (p : Prove) (i : ProveInput) : Option ProveOut :=
  if p.command = .abort then none
  else
    match p.state with
    | .start =>
        if !p.timer.isStart && decide (p.strIdx.toNat < i.streams.length) &&
            !p.has ProveSetup.noselectstr then some (.setStreamFreqOut p.strIdx)
        else none
    | .waitd1 | .waitd1Reverse =>
        if !p.timer.isStart then some (.set (p.moduleName ++ ".start") 1)
        else if p.timerFinished i then some (.set (p.moduleName ++ ".stop") 1)
        else none
    | .waitd2 | .waitd2Reverse =>
        if p.timerFinished i then some (.set (p.moduleName ++ ".stop") 1) else none
    | _ => none

/-- What a handler does from `p` to `q`, apart from the diagram. -/
structure Acts (i : ProveInput) (p q : Prove) : Prop where
  moduleName : q.moduleName = p.moduleName
  valve : (q.openValve, q.closeValve) = p.turns.getD (p.openValve, p.closeValve)
  inProgress : p.inProgress = p.state.inProgress → q.inProgress = q.state.inProgress
  requests : q.requests = p.requests ++ (p.request i).toList

/-! ### What the small functions put out -/

section Fields

@[simp] lemma withOut_outputs (out : List ProveOut) :
    (p.withOut out).openValve = p.openValve ∧ (p.withOut out).closeValve = p.closeValve ∧
      (p.withOut out).inProgress = p.inProgress ∧ (p.withOut out).moduleName = p.moduleName ∧
      (p.withOut out).out = out :=
  ⟨rfl, rfl, rfl, rfl, rfl⟩

@[simp] lemma emit_outputs (o : ProveOut) :
    (p.emit o).openValve = p.openValve ∧ (p.emit o).closeValve = p.closeValve ∧
      (p.emit o).inProgress = p.inProgress ∧ (p.emit o).moduleName = p.moduleName ∧
      (p.emit o).out = p.out ++ [o] :=
  ⟨rfl, rfl, rfl, rfl, rfl⟩

@[simp] lemma event_outputs (e : ProveEvent) :
    (p.event e).openValve = p.openValve ∧ (p.event e).closeValve = p.closeValve ∧
      (p.event e).inProgress = p.inProgress ∧ (p.event e).moduleName = p.moduleName ∧
      (p.event e).out = p.out ++ [.event e] :=
  ⟨rfl, rfl, rfl, rfl, rfl⟩

@[simp] lemma setState_outputs (s : ProveState) :
    (p.setState s).openValve = p.openValve ∧ (p.setState s).closeValve = p.closeValve ∧
      (p.setState s).inProgress = s.inProgress ∧ (p.setState s).moduleName = p.moduleName ∧
      (p.setState s).out = p.out ++ [.event (.state s)] :=
  ⟨rfl, rfl, rfl, rfl, rfl⟩

@[simp] lemma startTimer_outputs (ms : UInt32) :
    (p.startTimer i ms).openValve = p.openValve ∧ (p.startTimer i ms).closeValve = p.closeValve ∧
      (p.startTimer i ms).inProgress = p.inProgress ∧
      (p.startTimer i ms).moduleName = p.moduleName ∧ (p.startTimer i ms).out = p.out :=
  ⟨rfl, rfl, rfl, rfl, rfl⟩

@[simp] lemma stopTimer_outputs :
    p.stopTimer.openValve = p.openValve ∧ p.stopTimer.closeValve = p.closeValve ∧
      p.stopTimer.inProgress = p.inProgress ∧ p.stopTimer.moduleName = p.moduleName ∧
      p.stopTimer.out = p.out :=
  ⟨rfl, rfl, rfl, rfl, rfl⟩

@[simp] lemma moduleStart_outputs :
    p.moduleStart.openValve = p.openValve ∧ p.moduleStart.closeValve = p.closeValve ∧
      p.moduleStart.inProgress = p.inProgress ∧ p.moduleStart.moduleName = p.moduleName ∧
      p.moduleStart.out = p.out ++ [.set (p.moduleName ++ ".start") 1] :=
  ⟨rfl, rfl, rfl, rfl, rfl⟩

@[simp] lemma moduleStop_outputs :
    p.moduleStop.openValve = p.openValve ∧ p.moduleStop.closeValve = p.closeValve ∧
      p.moduleStop.inProgress = p.inProgress ∧ p.moduleStop.moduleName = p.moduleName ∧
      p.moduleStop.out = p.out ++ [.set (p.moduleName ++ ".stop") 1] :=
  ⟨rfl, rfl, rfl, rfl, rfl⟩

@[simp] lemma clearAverage_outputs :
    p.clearAverage.openValve = p.openValve ∧ p.clearAverage.closeValve = p.closeValve ∧
      p.clearAverage.inProgress = p.inProgress ∧ p.clearAverage.moduleName = p.moduleName ∧
      p.clearAverage.out = p.out :=
  ⟨rfl, rfl, rfl, rfl, rfl⟩

@[simp] lemma clearAverage_has (flag : UInt16) : p.clearAverage.has flag = p.has flag := rfl

end Fields

/-! ### The handlers -/

/-- Events do not matter to what a handler does. -/
lemma Acts.of_withOut {out : List ProveOut} (hout : (p.withOut out).requests = p.requests)
    (h : (p.withOut out).Acts i q) : p.Acts i q :=
  ⟨h.moduleName, h.valve, h.inProgress, by rw [h.requests, hout]; rfl⟩

lemma checkCommand_requests : p.checkCommand.1.requests = p.requests := by
  rw [checkCommand]
  split <;> simp [requests, ProveOut.isEvent]

/-- A handler that begins with `checkCommand` does nothing when it is aborted. -/
lemma unlessAborted_acts {rest : Prove → Prove} {s : ProveState} (h : p.state = s)
    (hrest : ∀ p : Prove, p.command ≠ .abort → p.state = s → p.Acts i (rest p)) :
    p.Acts i (p.unlessAborted rest) := by
  by_cases hc : p.command = .abort
  · rw [unlessAborted_abort hc]
    exact ⟨by simp, by simp [turns, hc], by simp, by simp [request, requests, hc, ProveOut.isEvent]⟩
  · obtain ⟨out, hout⟩ := checkCommand_of_ne hc
    have hreq := checkCommand_requests (p := p)
    rw [hout] at hreq
    simp only [unlessAborted, hout]
    exact .of_withOut hreq (hrest _ hc h)

lemma onIdle_acts (h : p.state = .idle ∨ p.state = .finish) : p.Acts i p.onIdle := by
  rw [onIdle]
  rcases h with h | h <;> split <;>
    exact ⟨by simp, by simp [turns, h], by simp,
      by simp [request, requests, h, ProveOut.isEvent]⟩

lemma onStart_acts (h : p.state = .start) : p.Acts i (p.onStart i) := by
  refine unlessAborted_acts h fun p hc h => ?_
  dsimp only
  split_ifs
  · rw [connectToLine]
    split_ifs <;> exact ⟨by simp, by simp [turns, hc, h], by simp_all,
      by simp_all [request, requests, ProveOut.isEvent]⟩
  all_goals exact ⟨by simp, by simp [turns, hc, h], by simp_all,
      by simp_all [request, requests, ProveOut.isEvent]⟩

lemma onRunBall_acts (h : p.state = .runball) : p.Acts i (p.onRunBall i) := by
  refine unlessAborted_acts h fun p hc h => ?_
  simp only [runBallFinished, setWaitD1_eq]
  split_ifs <;> exact ⟨by simp, by simp [turns, hc, h], by simp_all,
    by simp [request, requests, hc, h, ProveOut.isEvent]⟩

lemma checkStab_acts {s : StabValue} {start present maxstab : LREAL} (hc : p.command ≠ .abort)
    (hp : p.state = .stabilization) (h : p.checkStab s start present maxstab = some q) :
    p.Acts i q := by
  rw [checkStab] at h
  split_ifs at h
  cases h
  exact ⟨by simp, by simp [turns, hc, hp], by simp,
    by simp [request, requests, hc, hp, ProveOut.isEvent]⟩

lemma onStabilization_acts (h : p.state = .stabilization) : p.Acts i (p.onStabilization i) := by
  refine unlessAborted_acts h fun p hc h => ?_
  split_ifs
  · exact ⟨by simp, by simp [turns, hc, h], by simp_all,
      by simp [request, requests, hc, h, ProveOut.isEvent]⟩
  · exact ⟨by simp, by simp [turns, hc, h], by simp_all,
      by simp [request, requests, hc, h, ProveOut.isEvent]⟩
  · refine getD_ind ⟨rfl, by simp [turns, hc, h], by simp, by simp [request, hc, h]⟩ fun r hr => ?_
    simp only [Option.orElse_eq_orElse, Option.orElse_eq_or, Option.or_eq_some_iff] at hr
    obtain hr | ⟨-, hr | ⟨-, hr | ⟨-, hr⟩⟩⟩ := hr <;> exact checkStab_acts hc h hr

lemma onValveToUp_acts (h : p.state = .valvetoup) : p.Acts i p.onValveToUp := by
  refine unlessAborted_acts h fun p hc h => ?_
  dsimp only
  split_ifs <;> exact ⟨by simp, by simp_all [turns], by simp,
    by simp [request, requests, hc, h, ProveOut.isEvent]⟩

lemma onWaitToUp_acts (h : p.state = .waittoup) : p.Acts i (p.onWaitToUp i) := by
  refine unlessAborted_acts h fun p hc h => ?_
  dsimp only
  split_ifs <;> exact ⟨by simp, by simp [turns, hc, h], by simp_all,
    by simp [request, requests, hc, h, ProveOut.isEvent]⟩

lemma onValveToDown_acts (h : p.state = .valvetodown) : p.Acts i (p.onValveToDown i) := by
  refine unlessAborted_acts h fun p hc h => ?_
  simp only [setWaitD1_eq]
  split_ifs <;> exact ⟨by simp, by simp_all [turns, timerFinished, TickCount.isFinished],
    by simp_all, by simp [request, requests, hc, h, ProveOut.isEvent]⟩

lemma onWaitD1_acts (h : p.state = .waitd1 ∨ p.state = .waitd1Reverse) :
    p.Acts i (p.onWaitD1 i) := by
  rcases h with h | h <;> refine unlessAborted_acts h fun p hc h => ?_
  all_goals
    split_ifs <;> try split
    all_goals exact ⟨by simp, by simp [turns, hc, h], by simp_all,
      by simp_all [request, requests, ProveOut.isEvent]⟩

lemma timerFinished_of_not_isStart (h : p.timer.isStart = false) : p.timerFinished i = false := by
  simp [timerFinished, TickCount.isFinished, h]

lemma onWaitD2_acts (h : p.state = .waitd2 ∨ p.state = .waitd2Reverse) :
    p.Acts i (p.onWaitD2 i) := by
  rcases h with h | h <;> refine unlessAborted_acts h fun p hc h => ?_
  all_goals
    split_ifs <;> try split
    all_goals exact ⟨by simp, by simp [turns, hc, h], by simp_all,
      by simp_all [request, requests, ProveOut.isEvent, timerFinished_of_not_isStart]⟩

lemma onCalculate_acts (h : p.state = .calculate) : p.Acts i (p.onCalculate i) := by
  refine unlessAborted_acts h fun p hc h => ?_
  split_ifs <;> exact ⟨by simp, by simp [turns, hc, h], by simp_all,
    by simp [request, requests, hc, h, ProveOut.isEvent]⟩

lemma onReturnBall_acts (h : p.state = .returnball) : p.Acts i (p.onReturnBall i) := by
  refine unlessAborted_acts h fun p hc h => ?_
  dsimp only [onReturnBallNoValve]
  split_ifs <;> exact ⟨by simp, by simp_all [turns, timerFinished, TickCount.isFinished],
    by simp_all, by simp [request, requests, hc, h, ProveOut.isEvent]⟩

lemma onWayComplited_acts (h : p.state = .waycomplited) : p.Acts i p.onWayComplited := by
  rw [onWayComplited]
  split_ifs <;> exact ⟨by simp, by simp [turns, h], by simp,
    by simp [request, requests, h, ProveOut.isEvent]⟩

lemma onAbort_acts (h : p.state = .abort) : p.Acts i (p.onAbort i) := by
  rw [onAbort]
  split_ifs <;> exact ⟨by simp, by simp [turns, h], by simp_all,
    by simp [request, requests, h, ProveOut.isEvent]⟩

lemma turns_of_isError (h : p.state.isError = true) : p.turns = none := by
  rw [turns]
  cases hs : p.state <;> simp_all [ProveState.isError]

lemma request_of_isError (h : p.state.isError = true) : p.request i = none := by
  rw [request]
  cases hs : p.state <;> simp_all [ProveState.isError]

/-- An error is not "in progress", so that the reset may write the state alone. -/
lemma inProgress_of_isError {s : ProveState} (h : s.isError = true) : s.inProgress = 0 := by
  cases s <;> first | rfl | cases h

lemma onErrorState_acts (h : p.state.isError = true) : p.Acts i p.onErrorState := by
  have hprogress := inProgress_of_isError h
  rw [onErrorState]
  split <;> exact ⟨by simp, by simp [turns_of_isError h], by simp_all [ProveState.inProgress],
    by simp [request_of_isError h, requests, ProveOut.isEvent]⟩

/-- A handler sets the outputs and asks for what its prover says. -/
theorem dispatch_acts : p.Acts i (p.dispatch i) := by
  rw [dispatch]
  cases h : p.state with
  | idle => exact onIdle_acts (.inl h)
  | finish => exact onIdle_acts (.inr h)
  | start => exact onStart_acts h
  | stabilization => exact onStabilization_acts h
  | runball => exact onRunBall_acts h
  | valvetoup => exact onValveToUp_acts h
  | waittoup => exact onWaitToUp_acts h
  | valvetodown => exact onValveToDown_acts h
  | waitd1 => exact onWaitD1_acts (.inl h)
  | waitd1Reverse => exact onWaitD1_acts (.inr h)
  | waitd2 => exact onWaitD2_acts (.inl h)
  | waitd2Reverse => exact onWaitD2_acts (.inr h)
  | calculate => exact onCalculate_acts h
  | returnball => exact onReturnBall_acts h
  | waycomplited => exact onWayComplited_acts h
  | abort => exact onAbort_acts h
  | _ => exact onErrorState_acts (by rw [h]; rfl)

/-! ### A cycle -/

/-- The prover behind the comparison of the setup. -/
def checked (p : Prove) (i : ProveInput) : Prove :=
  checkSetup { p.load i with isCalc := true, link := i.link }

/-- The module answers, or the prover has none. -/
def answered (p : Prove) (i : ProveInput) : Bool := !p.isSetModule || i.crm.isSome

/-- The prover behind the questions to the module. -/
def asked (p : Prove) (i : ProveInput) : Prove :=
  match p.readModule i with
  | .ok q | .error q => q

/-- The prover as the handler of its state finds it, but for the averages. -/
def handled (p : Prove) (i : ProveInput) : Prove :=
  ((p.checked i).asked i).detectorsProcessing i

/-- The stream that the averages need is there. -/
def holdsStream (p : Prove) (i : ProveInput) : Bool :=
  p.inProgress == 0 || decide (p.strIdx.toNat < i.streams.length)

/-- A handler runs in the state in which the cycle begins. -/
def reaches (p : Prove) (i : ProveInput) : Bool := p.answered i && p.holdsStream i

/-- The part of the prover that the handlers look at, but for the detectors. -/
structure SameView (p q : Prove) : Prop where
  state : q.state = p.state
  way : q.way = p.way
  timer : q.timer = p.timer
  strIdx : q.strIdx = p.strIdx
  command : q.command = p.command
  setup : q.setup = p.setup
  link : q.link = p.link
  moduleName : q.moduleName = p.moduleName
  openValve : q.openValve = p.openValve
  closeValve : q.closeValve = p.closeValve
  inProgress : q.inProgress = p.inProgress

lemma SameView.trans {r : Prove} (h : p.SameView q) (h' : q.SameView r) : p.SameView r :=
  ⟨h'.state.trans h.state, h'.way.trans h.way, h'.timer.trans h.timer, h'.strIdx.trans h.strIdx,
    h'.command.trans h.command, h'.setup.trans h.setup, h'.link.trans h.link,
    h'.moduleName.trans h.moduleName, h'.openValve.trans h.openValve,
    h'.closeValve.trans h.closeValve, h'.inProgress.trans h.inProgress⟩

lemma SameView.has (h : p.SameView q) (flag : UInt16) : q.has flag = p.has flag := by
  rw [Prove.has, h.setup]
  rfl

lemma SameView.valve (h : p.SameView q) :
    q.isValveOpened = p.isValveOpened ∧ q.isSimulate = p.isSimulate := by
  rw [isValveOpened, isSimulate, h.link, h.setup]
  exact ⟨rfl, rfl⟩

lemma SameView.timerFinished (h : p.SameView q) : q.timerFinished i = p.timerFinished i := by
  rw [Prove.timerFinished, h.timer]
  rfl

/-- A handler that finds the same does the same to the outputs. -/
lemma SameView.turns (h : p.SameView q) : q.turns = p.turns := by
  unfold Prove.turns
  rw [h.command, h.state, h.valve.1, h.valve.2, h.timer, h.has]

lemma SameView.request (h : p.SameView q) : q.request i = p.request i := by
  unfold Prove.request
  rw [h.command, h.state, h.timer, h.strIdx, h.moduleName, h.timerFinished, h.has]

/-- The beginning of a cycle writes the setup and an event, besides what reaches the prover. -/
lemma checked_eq : ∃ setup out, p.checked i =
    { p.load i with isCalc := true, link := i.link, setup := setup, out := out } := by
  unfold checked checkSetup
  split_ifs <;> exact ⟨_, _, rfl⟩

/-- The questions to the module write what was read of it and what is sent. -/
lemma asked_eq : ∃ freq det count out, p.asked i =
    { p with moduleFreq := freq, moduleDet := det, moduleCount := count, out := out } := by
  simp only [asked, readModule, ModuleCRM.getValue_four]
  split_ifs
  · exact ⟨p.moduleFreq, p.moduleDet, p.moduleCount, p.out, rfl⟩
  · cases i.crm with
    | none => exact ⟨p.moduleFreq, p.moduleDet, p.moduleCount, _, rfl⟩
    | some crm =>
        dsimp only
        split_ifs
        · exact ⟨p.moduleFreq, p.moduleDet, p.moduleCount, p.out, rfl⟩
        · exact ⟨_, _, _, p.out, rfl⟩

lemma detectorsProcessing_eq : ∃ fixDet curDet timerBounce, p.detectorsProcessing i =
    { p with fixDet := fixDet, curDet := curDet, timerBounce := timerBounce } := by
  rw [detectorsProcessing]
  split_ifs
  · exact ⟨_, _, _, rfl⟩
  · exact ⟨_, _, _, rfl⟩
  · exact ⟨p.fixDet, p.curDet, p.timerBounce, rfl⟩
  · exact ⟨p.fixDet, p.curDet, _, rfl⟩
  · exact ⟨p.fixDet, p.curDet, p.timerBounce, rfl⟩

lemma asked_sameView : p.SameView (p.asked i) := by
  obtain ⟨freq, det, count, out, hasked⟩ := asked_eq (p := p) (i := i)
  rw [hasked]
  exact ⟨rfl, rfl, rfl, rfl, rfl, rfl, rfl, rfl, rfl, rfl, rfl⟩

lemma detectorsProcessing_sameView : p.SameView (p.detectorsProcessing i) := by
  obtain ⟨fixDet, curDet, timerBounce, hdet⟩ := detectorsProcessing_eq (p := p) (i := i)
  rw [hdet]
  exact ⟨rfl, rfl, rfl, rfl, rfl, rfl, rfl, rfl, rfl, rfl, rfl⟩

lemma handled_sameView : (p.checked i).SameView (p.handled i) :=
  asked_sameView.trans detectorsProcessing_sameView

/-- The comparison of the setup sends an event at most. -/
lemma checked_keeps : (p.checked i).requests = [] ∧ (p.checked i).moduleNum = p.moduleNum := by
  unfold checked checkSetup
  split_ifs <;> exact ⟨rfl, rfl⟩

lemma checked_answered : (p.checked i).answered i = p.answered i := by
  rw [answered, answered, isSetModule, isSetModule, checked_keeps.2]

lemma readModule_of_answered (h : p.answered i = true) :
    p.readModule i = .ok (p.asked i) ∧ (p.asked i).requests = p.requests := by
  simp only [asked, readModule, ModuleCRM.getValue_four]
  split_ifs with hset
  · exact ⟨rfl, rfl⟩
  · cases hcrm : i.crm with
    | none => simp [answered, hcrm, hset] at h
    | some crm =>
        dsimp only
        split_ifs <;> exact ⟨rfl, rfl⟩

lemma readModule_of_not_answered (h : p.answered i = false) :
    p.readModule i = .error (p.asked i) ∧
      (p.asked i).requests = p.requests ++ [.doHalt realtimeModuleLink] := by
  simp only [answered, Bool.or_eq_false_iff, Bool.not_eq_false', Option.isSome_eq_false_iff,
    Option.isNone_iff_eq_none] at h
  simp [asked, readModule, h.1, h.2, requests, ProveOut.isEvent]

lemma handled_requests (h : p.answered i = true) : (p.handled i).requests = [] := by
  have hasked := (readModule_of_answered (checked_answered.trans h)).2
  rw [checked_keeps.1] at hasked
  rw [handled, ← hasked, detectorsProcessing]
  split_ifs <;> rfl

/-- A cycle in which the module does not answer ends before the averages. -/
lemma scan_eq_asked (h : p.answered i = false) : p.scan i = (p.checked i).asked i := by
  have hread : (checkSetup { p.load i with isCalc := true, link := i.link }).readModule i
      = .error ((p.checked i).asked i) := (readModule_of_not_answered (checked_answered.trans h)).1
  unfold scan calculate
  rw [if_neg (by simp [load]), hread]

/-- It ends before the handlers. -/
theorem scan_of_not_answered (h : p.answered i = false) :
    (p.checked i).SameView (p.scan i) ∧ (p.scan i).requests = [.doHalt realtimeModuleLink] := by
  have hreq := (readModule_of_not_answered (checked_answered.trans h)).2
  rw [scan_eq_asked h]
  exact ⟨asked_sameView, by rw [hreq, checked_keeps.1]; rfl⟩

lemma checkBadCommand_eq :
    ∃ out, p.checkBadCommand = p.withOut out ∧ (p.withOut out).requests = p.requests := by
  rw [checkBadCommand]
  split
  · exact ⟨_, rfl, by simp [requests, ProveOut.isEvent]⟩
  · exact ⟨p.out, rfl, rfl⟩

lemma scan_of_answered (h : p.answered i = true) :
    p.scan i = { (((p.handled i).calcAverage i).checkBadCommand).dispatch i with
      command := .none } := by
  have hread : (checkSetup { p.load i with isCalc := true, link := i.link }).readModule i
      = .ok ((p.checked i).asked i) := (readModule_of_answered (checked_answered.trans h)).1
  unfold scan calculate
  rw [if_neg (by simp [load]), hread]
  rfl

/-- With its stream, the averages are all that `calcAverage` changes. -/
lemma calcAverage_of_stream (h : p.holdsStream i = true) :
    ∃ a, p.calcAverage i = { p with average := a } := by
  rw [calcAverage]
  split_ifs with hzero
  · exact ⟨p.average, rfl⟩
  · have hlt : p.strIdx.toNat < i.streams.length := by simpa [holdsStream, hzero] using h
    rw [List.getElem?_eq_getElem hlt]
    dsimp only
    split_ifs
    · exact ⟨p.average, rfl⟩
    · exact ⟨_, rfl⟩

lemma calcAverage_of_lost (h : p.holdsStream i = false) :
    p.calcAverage i = p.setState .errorstreamid := by
  simp only [holdsStream, Bool.or_eq_false_iff, beq_eq_false_iff_ne, decide_eq_false_iff_not,
    Nat.not_lt] at h
  rw [calcAverage, if_neg h.1, List.getElem?_eq_none h.2]

/-- The setup that the handlers use is a saved one, and but in `IDLE` the one of the last cycle. -/
lemma checked_setup :
    (p.checked i).setup.value = (p.checked i).setup.saved ∧
      (p.state ≠ .idle → (p.checked i).setup.saved = p.setup.saved) := by
  unfold checked checkSetup
  split_ifs with hdiff hidle
  · refine ⟨?_, fun _ => rfl⟩
    simpa [CmpUINT.isDiff] using hdiff
  · exact ⟨rfl, fun hne => absurd hidle hne⟩
  · exact ⟨rfl, fun _ => rfl⟩

/-- The comparison of the setup touches nothing else. -/
lemma checked_sameView :
    (p.checked i).state = p.state ∧ (p.checked i).way = p.way ∧ (p.checked i).timer = p.timer ∧
      (p.checked i).strIdx = p.strIdx ∧ (p.checked i).moduleName = p.moduleName ∧
      (p.checked i).openValve = p.openValve ∧ (p.checked i).closeValve = p.closeValve ∧
      (p.checked i).inProgress = p.inProgress ∧ (p.checked i).command = (p.load i).command := by
  obtain ⟨setup, out, hchecked⟩ := checked_eq (p := p) (i := i)
  rw [hchecked]
  exact ⟨rfl, rfl, rfl, rfl, rfl, rfl, rfl, rfl, rfl⟩

lemma handled_state : (p.handled i).state = p.state :=
  handled_sameView.state.trans checked_sameView.1

lemma handled_timer : (p.handled i).timer = p.timer :=
  handled_sameView.timer.trans checked_sameView.2.2.1

lemma handled_strIdx : (p.handled i).strIdx = p.strIdx :=
  handled_sameView.strIdx.trans checked_sameView.2.2.2.1

lemma handled_moduleName : (p.handled i).moduleName = p.moduleName :=
  handled_sameView.moduleName.trans checked_sameView.2.2.2.2.1

lemma handled_inProgress : (p.handled i).inProgress = p.inProgress :=
  handled_sameView.inProgress.trans checked_sameView.2.2.2.2.2.2.2.1

lemma handled_holdsStream : (p.handled i).holdsStream i = p.holdsStream i := by
  rw [holdsStream, holdsStream, handled_inProgress, handled_strIdx]

/-- The averages and what was put out do not matter to a handler. -/
lemma withAverage_sameView (a : ProveAverage) (out : List ProveOut) :
    p.SameView (Prove.withOut { p with average := a } out) ∧
      (Prove.withOut { p with average := a } out).fixDet = p.fixDet :=
  ⟨⟨rfl, rfl, rfl, rfl, rfl, rfl, rfl, rfl, rfl, rfl, rfl⟩, rfl⟩

/-- A cycle that reaches the handler of its state runs it, behind the averages. -/
lemma scan_eq_dispatch (h : p.reaches i = true) :
    ∃ out, (withOut { p.handled i with average := ((p.handled i).calcAverage i).average }
        out).requests = [] ∧
      p.scan i = { (withOut { p.handled i with
        average := ((p.handled i).calcAverage i).average } out).dispatch i with
          command := .none } := by
  rw [reaches, Bool.and_eq_true] at h
  obtain ⟨a, ha⟩ := calcAverage_of_stream (handled_holdsStream.trans h.2)
  obtain ⟨out, hout, hreq⟩ := checkBadCommand_eq (p := { p.handled i with average := a })
  refine ⟨out, ?_, ?_⟩
  · rw [ha]
    exact hreq.trans (handled_requests h.1)
  · rw [scan_of_answered h.1, ha, hout]

/-- The handler finds what the cycle found. -/
theorem scan_of_reaches (h : p.reaches i = true) :
    ∃ q, (p.handled i).SameView q ∧ q.fixDet = (p.handled i).fixDet ∧ q.requests = [] ∧
      p.scan i = { q.dispatch i with command := .none } := by
  obtain ⟨out, hreq, hscan⟩ := scan_eq_dispatch h
  obtain ⟨hview, hdet⟩ := withAverage_sameView (p := p.handled i) _ out
  exact ⟨_, hview, hdet, hreq, hscan⟩

/-- The handler of the error states stays there or goes to `IDLE`, and does nothing else. -/
lemma onErrorState_rests (h : p.state.isError = true) :
    (p.onErrorState.state = p.state ∨ p.onErrorState.state = .idle) ∧
      p.onErrorState.way = p.way ∧ p.onErrorState.moduleName = p.moduleName ∧
      p.onErrorState.openValve = p.openValve ∧ p.onErrorState.closeValve = p.closeValve ∧
      p.onErrorState.requests = p.requests := by
  have hedge := (onErrorState_follows h).edge
  simp only [ProveState.edges_of_isError _ _ h, List.mem_cons, Prod.mk.injEq, List.not_mem_nil,
    or_false] at hedge
  refine ⟨by tauto, by tauto, ?_⟩
  rw [onErrorState]
  split <;> exact ⟨by simp, by simp, by simp, by simp [requests, ProveOut.isEvent]⟩

/-- A cycle whose stream is lost ends in the error or, when that is reset or aborted at once, in
`IDLE`, and asks for nothing. -/
theorem scan_of_lost (h : p.answered i = true) (hs : p.holdsStream i = false) :
    ((p.scan i).state = .errorstreamid ∨ (p.scan i).state = .idle) ∧
      (p.scan i).inProgress = 0 ∧ (p.scan i).way = p.way ∧
      (p.scan i).moduleName = p.moduleName ∧ (p.scan i).openValve = p.openValve ∧
      (p.scan i).closeValve = p.closeValve ∧ (p.scan i).requests = [] := by
  obtain ⟨-, hway, -, -, hname, hopen, hclose, -, -⟩ := checked_sameView (p := p) (i := i)
  have hview := handled_sameView (p := p) (i := i)
  obtain ⟨out, hout, hreq⟩ :=
    checkBadCommand_eq (p := (p.handled i).setState .errorstreamid)
  have hscan : p.scan i = { (((p.handled i).setState .errorstreamid).withOut out).onErrorState with
      command := .none } := by
    rw [scan_of_answered h, calcAverage_of_lost (handled_holdsStream.trans hs), hout]
    rfl
  have herror : (((p.handled i).setState .errorstreamid).withOut out).state.isError = true := rfl
  have hasks : (((p.handled i).setState .errorstreamid).withOut out).requests = [] := by
    rw [hreq, requests, (setState_outputs _).2.2.2.2, List.filter_append]
    exact congrArg (· ++ []) (handled_requests h)
  obtain ⟨hs', hw', hn', ho', hc', hr'⟩ := onErrorState_rests herror
  have hprogress := (onErrorState_acts (i := i) herror).inProgress rfl
  rw [hscan]
  refine ⟨hs', ?_, ?_, ?_, ?_, ?_, hr'.trans hasks⟩
  · dsimp only
    rw [hprogress]
    rcases hs' with hs' | hs' <;> rw [hs'] <;> rfl
  · simp [hw', hview.way, hway]
  · simp [hn', hview.moduleName, hname]
  · simp [ho', hview.openValve, hopen]
  · simp [hc', hview.closeValve, hclose]

/-- What a cycle does to the outputs of the valve. -/
def turned (p : Prove) (i : ProveInput) : Option (LREAL × LREAL) :=
  if p.reaches i then (p.handled i).turns else none

/-- What a cycle asks for. -/
def asksFor (p : Prove) (i : ProveInput) : List ProveOut :=
  if p.reaches i then ((p.handled i).request i).toList
  else if p.answered i then [] else [.doHalt realtimeModuleLink]

/-- The outputs of a cycle. -/
theorem scan_acts :
    (p.scan i).moduleName = p.moduleName ∧
      ((p.scan i).openValve, (p.scan i).closeValve)
        = (p.turned i).getD (p.openValve, p.closeValve) ∧
      (p.inProgress = p.state.inProgress → (p.scan i).inProgress = (p.scan i).state.inProgress) ∧
      (p.scan i).requests = p.asksFor i := by
  obtain ⟨hstate, -, -, -, hname, hopen, hclose, hprogress, -⟩ :=
    checked_sameView (p := p) (i := i)
  have hview := handled_sameView (p := p) (i := i)
  by_cases hr : p.reaches i = true
  · obtain ⟨q, hsame, -, hreq, hscan⟩ := scan_of_reaches hr
    obtain ⟨hn, hv, hp, hq⟩ := dispatch_acts (p := q) (i := i)
    have hq' := hview.trans hsame
    rw [turned, asksFor, if_pos hr, if_pos hr, hscan]
    refine ⟨hn.trans (hq'.moduleName.trans hname), ?_, fun h => hp ?_, ?_⟩
    · exact hv.trans (by rw [hq'.openValve, hq'.closeValve, hopen, hclose, hsame.turns])
    · rw [hq'.inProgress, hprogress, h, hq'.state, hstate]
    · exact hq.trans (by rw [hreq, List.nil_append, hsame.request])
  · rw [turned, asksFor, if_neg hr, if_neg hr]
    by_cases ha : p.answered i = true
    · have hs : p.holdsStream i = false := by simpa [reaches, ha] using hr
      obtain ⟨hs', hp', -, hn', ho', hc', hr'⟩ := scan_of_lost ha hs
      rw [if_pos ha, hn', ho', hc', hp', hr']
      refine ⟨rfl, rfl, fun _ => ?_, rfl⟩
      rcases hs' with hs' | hs' <;> rw [hs'] <;> rfl
    · obtain ⟨hkeep, hreq⟩ := scan_of_not_answered (Bool.eq_false_iff.mpr ha)
      rw [if_neg ha, hkeep.moduleName, hkeep.openValve, hkeep.closeValve, hkeep.inProgress,
        hkeep.state, hname, hopen, hclose, hprogress, hstate, hreq]
      exact ⟨rfl, rfl, id, rfl⟩

end Prove

end Tritonn
