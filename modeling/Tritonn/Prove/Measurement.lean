import Tritonn.Lib.Brackets
import Tritonn.Lib.Run
import Tritonn.Prove.Acts

/-!
The measurement of the module: whether every start of it is followed by a stop.

* `measureLog` is what a run sends to the module, the starts by `moduleStart` and the stops by
  `moduleStop`;
* `Stopped` is the property: in the states in which the prover rests, every start is followed by a
  stop, and there is no second start before it;
* `measuring` says for a state whether the last start is still open, and `abandons` how its handler
  loses it;
* `stopped_iff` says that a run from power-on has the property, with all its prefixes, if and only
  if no cycle of it abandons an open measurement;
* `stopped_fails` is a run in which the detectors are passed and the ball comes back.
-/

namespace Tritonn

open Brackets (Closed Alternates)

/-- What the prover sends to the module. -/
inductive MeasureCommand where
  | start
  | stop
  deriving DecidableEq, Repr

/-- The command to the module in what a cycle sends. -/
def MeasureCommand.ofOut (moduleName : String) : ProveOut → Option MeasureCommand
  | .set var _ =>
      if var = moduleName ++ ".start" then some .start
      else if var = moduleName ++ ".stop" then some .stop
      else none
  | _ => none

namespace ProveState

/-- The prover does nothing: it waits for a command or reports an error. -/
def rests (s : ProveState) : Bool := s = .idle || s = .finish || s.isError

/-- The measurement was started in the pass and not stopped; `isStart` is whether the timer runs. In
the reverse pass the start of the forward pass is still open. -/
def measuring (isStart : Bool) : ProveState → Way → Bool
  | .waitd1, _ => isStart
  | .waitd2, _ | .calculate, _ | .returnball, _ | .waycomplited, _ | .waitd1Reverse, _
  | .waitd2Reverse, _ => true
  | .runball, w | .valvetoup, w | .waittoup, w | .valvetodown, w => w = .reverse
  | _, _ => false

/-- The states of the reverse pass up to its first detector. -/
def reversePass : ProveState → Bool
  | .runball | .valvetoup | .waittoup | .valvetodown | .waitd1Reverse => true
  | _ => false

lemma measuring_of_rests {s : ProveState} {w : Way} {isStart : Bool} (h : s.rests = true) :
    s.measuring isStart w = false := by
  cases s <;> first | rfl | cases h

/-- The states behind a state without an open measurement, in the forward pass. -/
lemma edges_of_not_measuring {valve4way t : Bool} {s s' : ProveState} {w' : Way}
    (h : (s', w') ∈ edges valve4way s .forward) (hs : s.measuring t .forward = false)
    (hd : s ≠ .waitd1) :
    w' = .forward ∧ s' ≠ .waitd1Reverse ∧ s' ≠ .waitd2Reverse ∧
      (s' ≠ .waitd1 → ∀ t, s'.measuring t w' = false) := by
  have key : ∀ valve4way t, ∀ e ∈ edges valve4way s .forward, s.measuring t .forward = false →
      s ≠ .waitd1 → e.2 = .forward ∧ e.1 ≠ .waitd1Reverse ∧ e.1 ≠ .waitd2Reverse ∧
        (e.1 ≠ .waitd1 → ∀ t, e.1.measuring t e.2 = false) := by
    cases s <;> decide
  exact key _ _ _ h hs hd

/-- The states behind a state with an open measurement, but for those in which the prover rests. -/
lemma edges_of_measuring {valve4way t : Bool} {s s' : ProveState} {w w' : Way}
    (h : (s', w') ∈ edges valve4way s w) (hs : s.measuring t w = true)
    (hw : w = .reverse → s.reversePass = true) (hd : s ≠ .waitd1Reverse) (hd' : s ≠ .waitd2Reverse)
    (hr : s'.rests = false) :
    (w' = .reverse → s'.reversePass = true) ∧ (s' = .waitd1Reverse → w' = .reverse) ∧
      s' ≠ .waitd2Reverse ∧ (s' = .waitd1 → s = .waitd1) ∧ s'.measuring true w' = true := by
  have key : ∀ valve4way, ∀ e ∈ edges valve4way s w, e.1.rests = false →
      (e.2 = .reverse → e.1.reversePass = true) ∧ (e.1 = .waitd1Reverse → e.2 = .reverse) ∧
        e.1 ≠ .waitd2Reverse ∧ (e.1 = .waitd1 → s = .waitd1) ∧ e.1.measuring true e.2 = true := by
    -- What is open leaves few states: in the reverse pass those up to its first detector.
    cases w with
    | forward => cases s <;> first | cases hs; done | contradiction | decide
    | reverse =>
        have hpass := hw rfl
        cases s <;> first | cases hpass; done | contradiction | decide
  exact key _ _ h hr

/-- The wait for the first detector is entered from two states. -/
lemma edges_to_waitD1 {valve4way : Bool} {s s' : ProveState} {w w' : Way}
    (h : (s', w') ∈ edges valve4way s w) (hs' : s' = .waitd1 ∨ s' = .waitd1Reverse) :
    s = s' ∨ s = .runball ∨ s = .valvetodown := by
  have key : ∀ valve4way, ∀ e ∈ edges valve4way s w, e.1 = .waitd1 ∨ e.1 = .waitd1Reverse →
      s = e.1 ∨ s = .runball ∨ s = .valvetodown := by
    cases w <;> cases s <;> decide
  exact key _ _ h hs'

end ProveState

namespace Prove

variable {p q : Prove} {i : ProveInput}

/-- The commands to the module of a cycle. -/
def measures (p : Prove) : List MeasureCommand :=
  p.out.filterMap (MeasureCommand.ofOut p.moduleName)

/-- The commands to the module of a run. -/
def measureLog (p : Prove) (l : List ProveInput) : List MeasureCommand :=
  Run.outputs scan (fun p i => (p.scan i).measures) p l

/-- A run that leaves the measurement stopped when the prover rests, and never starts it twice. -/
structure Stopped (p : Prove) (l : List ProveInput) : Prop where
  closed : (p.run l).state.rests = true →
    Closed (· = .start) (· = .stop) (p.measureLog l)
  alternates : Alternates (· = .start) (· = .stop) (p.measureLog l)

/-- The last start is still open. -/
def measuring (p : Prove) : Bool := p.state.measuring p.timer.isStart p.way

/-- A handler that finds an open measurement loses it: the run ends without the stop, by a command,
a detector fault, a valve or the end of the last pass, or the reverse pass starts the module
again. -/
def abandons (q : Prove) (i : ProveInput) : Bool :=
  match q.state with
  | .waycomplited => !(q.has ProveSetup.valve4way && q.way == .forward)
  | .waitd1Reverse => true
  | s => q.command == .abort ||
      match s with
      | .waitd1 => !q.timerFinished i && q.checkDetectors true == none
      | .waitd2 => q.timer.isStart && !q.timerFinished i && q.checkDetectors false == none
      | .returnball => !q.has ProveSetup.novalve && q.timerFinished i
      | .waittoup => q.timerFinished i && !(q.isValveOpened || q.isSimulate)
      | .valvetodown => q.timerFinished i
      | _ => false

/-- A cycle that does not abandon an open measurement. -/
def KeepsMeasuring (p : Prove) (i : ProveInput) : Prop :=
  p.measuring = true → p.answered i = true →
    p.holdsStream i = true ∧ (p.handled i).abandons i = false

/-! ### A handler with an open measurement -/

/-- The command to the module that a handler sends. -/
def measure (q : Prove) (i : ProveInput) : Option MeasureCommand :=
  (q.request i).bind (MeasureCommand.ofOut q.moduleName)

lemma ofOut_start (name : String) :
    MeasureCommand.ofOut name (.set (name ++ ".start") 1) = some .start := if_pos rfl

lemma ofOut_stop (name : String) :
    MeasureCommand.ofOut name (.set (name ++ ".stop") 1) = some .stop := by
  simp [MeasureCommand.ofOut]

/-- The states whose handler begins with `checkCommand` are left by the command to abort. -/
lemma dispatch_of_abort (hc : q.command = .abort) (hm : q.measuring = true)
    (hw : q.state ≠ .waycomplited) : (q.dispatch i).state = .idle := by
  rw [dispatch]
  cases hs : q.state <;> simp [measuring, ProveState.measuring, hs] at hm hw ⊢ <;>
    exact congrArg state (unlessAborted_abort hc)

@[simp] lemma withOut_checkDetectors (out : List ProveOut) (first : Bool) :
    (q.withOut out).checkDetectors first = q.checkDetectors first := rfl

@[simp] lemma withOut_timerFinished (out : List ProveOut) :
    (q.withOut out).timerFinished i = q.timerFinished i := rfl

@[simp] lemma withOut_view (out : List ProveOut) :
    (q.withOut out).isValveOpened = q.isValveOpened ∧
      (q.withOut out).isValveClosed = q.isValveClosed ∧
      (q.withOut out).isSimulate = q.isSimulate := ⟨rfl, rfl, rfl⟩

@[simp] lemma stopTimer_view :
    q.stopTimer.isValveOpened = q.isValveOpened ∧ q.stopTimer.isSimulate = q.isSimulate :=
  ⟨rfl, rfl⟩

lemma onWaitD1_rests (h : q.state = .waitd1) (ht : q.timer.isStart = true)
    (hc : q.command ≠ .abort) : (q.onWaitD1 i).state.rests
      = (q.timerFinished i || q.checkDetectors true == none) := by
  obtain ⟨out, hout⟩ := unlessAborted_rest (p := q) _ hc
  rw [onWaitD1, hout]
  simp only [ite_errorD1, ite_waitD2, withOut_fields, withOut_timerFinished,
    withOut_checkDetectors, ht, Bool.not_true,
    Bool.false_eq_true, if_false]
  split_ifs with hfin
  · cases q.way <;> simp [hfin, ProveState.errorD1] <;> rfl
  · cases q.checkDetectors true with
    | none => simp [ProveState.rests, ProveState.isError]
    | some b => cases b <;> cases q.way <;>
        simp [hfin, h, ProveState.rests, ProveState.isError, ProveState.waitD2]

lemma onWaitD2_rests (h : q.state = .waitd2) (hc : q.command ≠ .abort) :
    (q.onWaitD2 i).state.rests
      = (q.timerFinished i || q.timer.isStart && q.checkDetectors false == none) := by
  obtain ⟨out, hout⟩ := unlessAborted_rest (p := q) _ hc
  rw [onWaitD2, hout]
  simp only [ite_errorD2, withOut_fields, withOut_timerFinished,
    withOut_checkDetectors]
  split_ifs with ht hfin
  · simp_all [timerFinished_of_not_isStart, ProveState.rests, ProveState.isError]
  · cases q.way <;> simp [hfin, ProveState.errorD2] <;> rfl
  · cases q.checkDetectors false with
    | none => simp_all [ProveState.rests, ProveState.isError]
    | some b => cases b <;> simp_all [ProveState.rests, ProveState.isError]

lemma onRunBall_rests (h : q.state = .runball) (hc : q.command ≠ .abort) :
    (q.onRunBall i).state.rests = false := by
  obtain ⟨out, hout⟩ := unlessAborted_rest (p := q) _ hc
  rw [onRunBall, hout]
  simp only [runBallFinished, setWaitD1_eq]
  cases hw : q.way <;> split_ifs <;>
    simp [h, hw, ProveState.rests, ProveState.isError, ProveState.waitD1]

lemma onValveToUp_rests (hc : q.command ≠ .abort) : q.onValveToUp.state.rests = false := by
  obtain ⟨out, hout⟩ := unlessAborted_rest (p := q) _ hc
  rw [onValveToUp, hout]
  dsimp only
  split_ifs <;> rfl

lemma onWaitToUp_rests (h : q.state = .waittoup) (hc : q.command ≠ .abort) :
    (q.onWaitToUp i).state.rests
      = (q.timerFinished i && !(q.isValveOpened || q.isSimulate)) := by
  obtain ⟨out, hout⟩ := unlessAborted_rest (p := q) _ hc
  rw [onWaitToUp, hout]
  dsimp only
  split_ifs <;> simp_all [timerFinished_of_not_isStart, ProveState.rests, ProveState.isError,
    or_iff_not_imp_left]

lemma onValveToDown_rests (h : q.state = .valvetodown) (hc : q.command ≠ .abort) :
    (q.onValveToDown i).state.rests = q.timerFinished i := by
  obtain ⟨out, hout⟩ := unlessAborted_rest (p := q) _ hc
  rw [onValveToDown, hout]
  simp only [setWaitD1_eq]
  cases hw : q.way <;> split_ifs <;> simp_all [timerFinished_of_not_isStart, ProveState.rests,
    ProveState.isError, ProveState.waitD1]

lemma onCalculate_rests (h : q.state = .calculate) (hc : q.command ≠ .abort) :
    (q.onCalculate i).state.rests = false := by
  obtain ⟨out, hout⟩ := unlessAborted_rest (p := q) _ hc
  rw [onCalculate, hout]
  split_ifs <;> simp [h, ProveState.rests, ProveState.isError]

lemma onReturnBall_rests (h : q.state = .returnball) (hc : q.command ≠ .abort) :
    (q.onReturnBall i).state.rests = (!q.has ProveSetup.novalve && q.timerFinished i) := by
  obtain ⟨out, hout⟩ := unlessAborted_rest (p := q) _ hc
  rw [onReturnBall, hout]
  dsimp only [onReturnBallNoValve]
  split_ifs <;> simp_all [timerFinished_of_not_isStart, ProveState.rests, ProveState.isError]

lemma onWayComplited_rests : q.onWayComplited.state.rests
    = !(q.has ProveSetup.valve4way && q.way == .forward) := by
  rw [onWayComplited]
  split_ifs with h <;> simp [h, ProveState.rests, ProveState.isError]

/-- What a handler makes of an open measurement: it keeps it, or stops it. -/
lemma dispatch_rests (hm : q.measuring = true) (hs : q.state ≠ .waitd1Reverse)
    (hr : q.state ≠ .waitd2Reverse) :
    (q.dispatch i).state.rests = (q.abandons i || q.measure i == some .stop) := by
  by_cases hw : q.state = .waycomplited
  · simp only [dispatch, hw, onWayComplited_rests, abandons, measure, request]
    simp
  by_cases hc : q.command = .abort
  · rw [dispatch_of_abort hc hm hw]
    simp only [abandons, hc]
    cases hstate : q.state <;> simp_all [ProveState.rests]
  have hc' : (q.command == .abort) = false := by simpa using hc
  unfold dispatch abandons measure request
  rw [measuring] at hm
  cases hstate : q.state <;> simp only [hstate, ProveState.measuring] at hm hs hr hw ⊢ <;>
    simp only [hc', hc, if_false, Bool.false_or]
  case waitd1 =>
    rw [onWaitD1_rests hstate hm hc]
    cases hf : q.timerFinished i <;> simp [hm, ofOut_stop]
  case waitd2 =>
    rw [onWaitD2_rests hstate hc]
    cases hf : q.timerFinished i <;> simp [ofOut_stop]
  case runball => rw [onRunBall_rests hstate hc]; rfl
  case valvetoup => rw [onValveToUp_rests hc]; rfl
  case waittoup => rw [onWaitToUp_rests hstate hc]; simp
  case valvetodown => rw [onValveToDown_rests hstate hc]; simp
  case calculate => rw [onCalculate_rests hstate hc]; rfl
  case returnball => rw [onReturnBall_rests hstate hc]; simp
  all_goals simp_all

/-- What holds of a prover along a run that stops its measurements: the reverse pass comes behind a
forward pass whose start is still open, and does not get past its own start. -/
structure Consistent (p : Prove) : Prop where
  inProgress : p.inProgress = p.state.inProgress
  reverse : p.way = .reverse → p.state.reversePass = true
  waitd1Reverse : p.state = .waitd1Reverse → p.way = .reverse ∧ p.timer.isStart = false
  waitd2Reverse : p.state ≠ .waitd2Reverse

/-- The timer is stopped when the wait for the first detector is entered. -/
lemma dispatch_enters_waitD1 {s : ProveState} (hs : s = .waitd1 ∨ s = .waitd1Reverse)
    (hne : q.state ≠ s) (h : (q.dispatch i).state = s) :
    (q.dispatch i).timer.isStart = false := by
  have hidle : s ≠ .idle := by rcases hs with rfl | rfl <;> simp
  have hedge := (dispatch_follows (p := q) (i := i)).edge
  rcases ProveState.edges_to_waitD1 hedge (by rwa [h]) with hq | hq | hq
  · exact absurd (hq.trans h) hne
  · have hrun : q.dispatch i = q.onRunBall i := by rw [dispatch, hq]
    rw [hrun] at h ⊢
    revert h
    refine unlessAborted_ind (P := fun r => r.state = s → r.timer.isStart = false)
      (fun _ h => absurd h.symm hidle) fun out h => ?_
    simp only [runBallFinished, setWaitD1_eq] at h ⊢
    split_ifs at h ⊢ <;> simp_all
  · have hvalve : q.dispatch i = q.onValveToDown i := by rw [dispatch, hq]
    rw [hvalve] at h ⊢
    revert h
    refine unlessAborted_ind (P := fun r => r.state = s → r.timer.isStart = false)
      (fun _ h => absurd h.symm hidle) fun out h => ?_
    simp only [setWaitD1_eq] at h ⊢
    split_ifs at h ⊢ <;> simp_all

/-- While the wait for the first detector goes on, its timer runs. -/
lemma onWaitD1_timer (h : (q.onWaitD1 i).state = .waitd1) :
    (q.onWaitD1 i).timer.isStart = true := by
  revert h
  refine unlessAborted_ind (P := fun r => r.state = .waitd1 → r.timer.isStart = true)
    (fun _ h => nomatch h) fun out h => ?_
  simp only [ite_errorD1, ite_waitD2] at h ⊢
  split_ifs at h ⊢ with ht hfin
  · simp
  · cases hw : q.way <;> simp [hw, ProveState.errorD1] at h
  · split at h
    · simp at h
    · simpa using ht
    · cases hw : q.way <;> simp [hw, ProveState.waitD2] at h

/-- Only the waits for a detector send commands to the module. -/
lemma measure_eq_none (h₁ : q.state ≠ .waitd1) (h₂ : q.state ≠ .waitd2)
    (h₃ : q.state ≠ .waitd1Reverse) (h₄ : q.state ≠ .waitd2Reverse) : q.measure i = none := by
  rw [measure, request]
  by_cases hc : q.command = .abort
  · rw [if_pos hc, Option.bind_none]
  · rw [if_neg hc]
    cases hs : q.state <;> simp only [hs, ne_eq, not_true_eq_false] at h₁ h₂ h₃ h₄ <;> try rfl
    dsimp only
    split_ifs <;> rfl

/-- With an open measurement, a stop is sent when the timer of the wait is finished. -/
lemma measure_of_measuring (hm : q.measuring = true) (hs : q.state ≠ .waitd1Reverse)
    (hr : q.state ≠ .waitd2Reverse) :
    q.measure i = none ∨ q.measure i = some .stop ∧ q.abandons i = false := by
  by_cases hd : q.state = .waitd1 ∨ q.state = .waitd2
  · rw [measuring] at hm
    rcases hd with hd | hd <;> rw [hd] at hm <;> rw [measure, request, abandons, hd] <;>
      by_cases hc : q.command = .abort <;> cases hf : q.timerFinished i <;>
      simp_all [ProveState.measuring, ofOut_stop]
  · rw [not_or] at hd
    exact .inl (measure_eq_none hd.1 hd.2 hs hr)

/-! ### The handlers -/

/-- Without an open measurement a handler sends nothing to the module, or starts it. -/
lemma dispatch_of_not_measuring (hq : q.Consistent) (hm : q.measuring = false) :
    (q.dispatch i).Consistent ∧
      (q.measure i = none ∧ (q.dispatch i).measuring = false ∨
        q.measure i = some .start ∧ (q.dispatch i).measuring = true) := by
  have hw : q.way = .forward := by
    cases hw : q.way with
    | forward => rfl
    | reverse =>
        have hpass := hq.reverse hw
        revert hm hpass
        rw [measuring, hw]
        cases q.state <;> simp [ProveState.reversePass, ProveState.measuring]
  have hprogress := (dispatch_acts (p := q) (i := i)).inProgress hq.inProgress
  have hedge := (dispatch_follows (p := q) (i := i)).edge
  rw [hw] at hedge
  by_cases hd : q.state = .waitd1
  · have ht : q.timer.isStart = false := by rw [measuring, hd] at hm; exact hm
    have hdispatch : q.dispatch i = q.onWaitD1 i := by rw [dispatch, hd]
    by_cases hc : q.command = .abort
    · have habort : q.dispatch i = (q.event .commandAbort).setState .idle :=
        hdispatch.trans (unlessAborted_abort hc)
      refine ⟨⟨hprogress, ?_, ?_, ?_⟩, .inl ⟨by simp [measure, request, hc], ?_⟩⟩ <;>
        simp [habort, hw, measuring, ProveState.measuring]
    · obtain ⟨out, hout⟩ := unlessAborted_rest (p := q) _ hc
      rw [hdispatch, onWaitD1, hout] at hprogress ⊢
      simp only [withOut_fields, ht, Bool.not_false, if_true] at hprogress ⊢
      refine ⟨⟨hprogress, ?_, ?_, ?_⟩, .inr ⟨?_, ?_⟩⟩ <;>
        simp [hd, hw, hc, ht, measure, request, ofOut_start, measuring, ProveState.measuring]
  · rw [measuring, hw] at hm
    obtain ⟨hway, hr1, hr2, hnext⟩ := ProveState.edges_of_not_measuring hedge hm hd
    refine ⟨⟨hprogress, fun h => ?_, fun h => absurd h hr1, hr2⟩, .inl ⟨?_, ?_⟩⟩
    · rw [hway] at h
      cases h
    · refine measure_eq_none hd ?_ ?_ hq.waitd2Reverse <;> rintro hs <;>
        simp [hs, ProveState.measuring] at hm
    · by_cases hd' : (q.dispatch i).state = .waitd1
      · rw [measuring, hd', dispatch_enters_waitD1 (.inl rfl) hd hd']
        rfl
      · exact hnext hd' _

/-- A handler that does not abandon an open measurement keeps it, or stops it. -/
lemma dispatch_of_keeps (hq : q.Consistent) (hm : q.measuring = true)
    (ha : q.abandons i = false) :
    (q.dispatch i).Consistent ∧
      (q.measure i = none ∧ (q.dispatch i).measuring = true ∨
        q.measure i = some .stop ∧ (q.dispatch i).measuring = false) := by
  have hprogress := (dispatch_acts (p := q) (i := i)).inProgress hq.inProgress
  have hedge := (dispatch_follows (p := q) (i := i)).edge
  have hs1 : q.state ≠ .waitd1Reverse := fun hs => by simp [abandons, hs] at ha
  have hrests := dispatch_rests (i := i) hm hs1 hq.waitd2Reverse
  rw [ha, Bool.false_or] at hrests
  by_cases hstop : q.measure i = some .stop
  · have hr : (q.dispatch i).state.rests = true := by rw [hrests, hstop]; rfl
    have hd : q.state = .waitd1 ∨ q.state = .waitd2 := by
      by_contra hd
      rw [not_or] at hd
      simp [measure_eq_none hd.1 hd.2 hs1 hq.waitd2Reverse] at hstop
    have hw : q.way = .forward := by
      cases hw : q.way with
      | forward => rfl
      | reverse =>
          have hpass := hq.reverse hw
          rcases hd with hd | hd <;> rw [hd] at hpass <;> cases hpass
    have hw' : (q.dispatch i).way = .forward := by
      rw [← hw]
      rcases hd with hd | hd <;>
        exact ProveState.way_of_mem_edges hedge (by simp [hd]) (by simp [hd])
    refine ⟨⟨hprogress, fun h => ?_, fun h => ?_, fun h => ?_⟩,
      .inr ⟨hstop, ProveState.measuring_of_rests hr⟩⟩
    · rw [hw'] at h
      cases h
    all_goals
      rw [h] at hr
      cases hr
  · have hr : (q.dispatch i).state.rests = false := by simpa [hrests] using hstop
    obtain ⟨hrev, hd1, hd2, hwait, hnext⟩ :=
      ProveState.edges_of_measuring hedge hm hq.reverse hs1 hq.waitd2Reverse hr
    refine ⟨⟨hprogress, hrev, fun h => ⟨hd1 h, ?_⟩, hd2⟩, .inl ⟨?_, ?_⟩⟩
    · exact dispatch_enters_waitD1 (.inr rfl) hs1 h
    · exact (measure_of_measuring hm hs1 hq.waitd2Reverse).resolve_right fun h => hstop h.1
    · by_cases hd : (q.dispatch i).state = .waitd1
      · have hdispatch : q.dispatch i = q.onWaitD1 i := by rw [dispatch, hwait hd]
        rw [hdispatch] at hd
        rw [measuring, hdispatch, hd, onWaitD1_timer hd]
        rfl
      · rw [measuring]
        revert hnext hd
        cases (q.dispatch i).state <;> simp [ProveState.measuring]

/-- A handler that abandons an open measurement starts it again, or leaves the prover at rest. -/
lemma dispatch_of_abandons (hq : q.Consistent) (hm : q.measuring = true)
    (ha : q.abandons i = true) :
    q.measure i = some .start ∨ q.measure i = none ∧ (q.dispatch i).state.rests = true := by
  by_cases hs1 : q.state = .waitd1Reverse
  · have ht := (hq.waitd1Reverse hs1).2
    by_cases hc : q.command = .abort
    · right
      rw [dispatch_of_abort hc hm (by simp [hs1])]
      exact ⟨by simp [measure, request, hc], rfl⟩
    · left
      simp [measure, request, hc, hs1, ht, ofOut_start]
  · right
    have hrests := dispatch_rests (i := i) hm hs1 hq.waitd2Reverse
    rw [ha, Bool.true_or] at hrests
    refine ⟨(measure_of_measuring hm hs1 hq.waitd2Reverse).resolve_right fun h => ?_, hrests⟩
    rw [ha] at h
    cases h.2

/-! ### A cycle -/

lemma measures_scan :
    (p.scan i).measures = (p.asksFor i).filterMap (MeasureCommand.ofOut p.moduleName) := by
  obtain ⟨hname, -, -, hreq⟩ := scan_acts (p := p) (i := i)
  have hevent (o : ProveOut) (h : o.isEvent = true) :
      MeasureCommand.ofOut p.moduleName o = none := by
    cases o <;> first | rfl | cases h
  rw [← hreq, measures, hname, requests, List.filterMap_filter]
  refine List.filterMap_congr fun o _ => ?_
  cases ho : o.isEvent
  · rfl
  · exact hevent o ho

lemma SameView.consistent (h : p.SameView q) (hp : p.Consistent) : q.Consistent :=
  ⟨by rw [h.inProgress, h.state, hp.inProgress], by rw [h.way, h.state]; exact hp.reverse,
    by rw [h.way, h.state, h.timer]; exact hp.waitd1Reverse,
    by rw [h.state]; exact hp.waitd2Reverse⟩

lemma SameView.measuring (h : p.SameView q) : q.measuring = p.measuring := by
  rw [Prove.measuring, h.state, h.timer, h.way, Prove.measuring]

/-- The handler finds the prover of the cycle, with the latched detectors. -/
lemma SameView.abandons (h : p.SameView q) (hdet : q.fixDet = p.fixDet) :
    q.abandons i = p.abandons i := by
  have hfirst (first : Bool) : q.checkDetectors first = p.checkDetectors first := by
    unfold checkDetectors
    rw [hdet, h.has, h.way]
  unfold Prove.abandons
  rw [h.state, h.command, h.way, h.timer, h.valve.1, h.valve.2, hfirst, hfirst, h.timerFinished,
    h.has, h.has]

lemma checked_consistent (hp : p.Consistent) :
    (p.checked i).Consistent ∧ (p.checked i).measuring = p.measuring := by
  obtain ⟨hstate, hway, htimer, -, -, -, -, hprogress, -⟩ := checked_sameView (p := p) (i := i)
  refine ⟨⟨?_, ?_, ?_, ?_⟩, by rw [measuring, hstate, htimer, hway, measuring]⟩
  · rw [hprogress, hstate, hp.inProgress]
  · rw [hway, hstate]
    exact hp.reverse
  · rw [hway, hstate, htimer]
    exact hp.waitd1Reverse
  · rw [hstate]
    exact hp.waitd2Reverse

/-- What a handled cycle sends to the module, and what it leaves behind, in terms of a handler. -/
lemma scan_of_reaches_measure (hp : p.Consistent) (h : p.reaches i = true) :
    ∃ q : Prove, q.Consistent ∧ q.measuring = p.measuring ∧
      q.abandons i = (p.handled i).abandons i ∧
      (p.scan i).measures = (q.measure i).toList ∧
      (p.scan i).state = (q.dispatch i).state ∧
      (p.scan i).measuring = (q.dispatch i).measuring ∧
      ((q.dispatch i).Consistent → (p.scan i).Consistent) := by
  obtain ⟨q, hsame, hdet, -, hscan⟩ := scan_of_reaches h
  have hview := handled_sameView.trans hsame
  obtain ⟨hchecked, hmeasuring⟩ := checked_consistent (i := i) hp
  refine ⟨q, hview.consistent hchecked, hview.measuring.trans hmeasuring, hsame.abandons hdet, ?_,
    by rw [hscan], by rw [hscan]; rfl, fun hq => ?_⟩
  · have hname : q.moduleName = p.moduleName :=
      hview.moduleName.trans checked_sameView.2.2.2.2.1
    rw [measures_scan, asksFor, if_pos h, measure, hname, hsame.request]
    cases (p.handled i).request i with
    | none => rfl
    | some o => cases hof : MeasureCommand.ofOut p.moduleName o <;> simp [hof]
  · rw [hscan]
    exact ⟨hq.inProgress, hq.reverse, hq.waitd1Reverse, hq.waitd2Reverse⟩

/-- A cycle that does not reach the handler of its state sends nothing to the module. -/
lemma measures_of_not_reaches (h : p.reaches i = false) : (p.scan i).measures = [] := by
  rw [measures_scan, asksFor, if_neg (by simp [h])]
  split_ifs <;> rfl

/-- A cycle that does not abandon an open measurement sends at most a start without one or a
stop. -/
lemma scan_keeps (hp : p.Consistent) (h : p.KeepsMeasuring i) :
    (p.scan i).Consistent ∧
      ((p.scan i).measures = [] ∧ (p.scan i).measuring = p.measuring ∨
        (p.scan i).measures = [.start] ∧ p.measuring = false ∧ (p.scan i).measuring = true ∨
        (p.scan i).measures = [.stop] ∧ (p.scan i).measuring = false) := by
  by_cases ha : p.answered i = true
  · by_cases hs : p.holdsStream i = true
    · obtain ⟨q, hq, hm, habandon, hmeasures, -, hm', hcons⟩ :=
        scan_of_reaches_measure hp (by rw [reaches, ha, hs]; rfl)
      rw [hmeasures, hm']
      cases hmeasuring : p.measuring with
      | false =>
          rw [hmeasuring] at hm
          obtain ⟨hc, ⟨hnone, hoff⟩ | ⟨hstart, hon⟩⟩ := dispatch_of_not_measuring (i := i) hq hm
          · exact ⟨hcons hc, .inl ⟨by rw [hnone]; rfl, hoff⟩⟩
          · exact ⟨hcons hc, .inr (.inl ⟨by rw [hstart]; rfl, rfl, hon⟩)⟩
      | true =>
          rw [hmeasuring] at hm
          obtain ⟨hc, ⟨hnone, hon⟩ | ⟨hstop, hoff⟩⟩ :=
            dispatch_of_keeps hq hm (habandon.trans (h hmeasuring ha).2)
          · exact ⟨hcons hc, .inl ⟨by rw [hnone]; rfl, hon⟩⟩
          · exact ⟨hcons hc, .inr (.inr ⟨by rw [hstop]; rfl, hoff⟩)⟩
    · -- The stream is lost, with the measurement closed.
      rw [Bool.not_eq_true] at hs
      have hm : p.measuring = false := by
        cases hm : p.measuring with
        | false => rfl
        | true => exact absurd (h hm ha).1 (by simp [hs])
      obtain ⟨hstate, hprogress, hway, -⟩ := scan_of_lost ha hs
      have hrests : (p.scan i).state.rests = true := by
        rcases hstate with hstate | hstate <;> rw [hstate] <;> rfl
      have hforward : p.way = .reverse → False := fun hw => by
        have hpass := hp.reverse hw
        revert hm hpass
        rw [measuring, hw]
        cases p.state <;> simp [ProveState.reversePass, ProveState.measuring]
      refine ⟨⟨?_, fun hw => absurd (hway.symm.trans hw) hforward, fun hd => ?_, fun hd => ?_⟩,
        .inl ⟨measures_of_not_reaches (by rw [reaches, ha, hs]; rfl), ?_⟩⟩
      · rw [hprogress]
        rcases hstate with hstate | hstate <;> rw [hstate] <;> rfl
      · simp [hd] at hstate
      · simp [hd] at hstate
      · rw [hm]
        exact ProveState.measuring_of_rests hrests
  · rw [Bool.not_eq_true] at ha
    obtain ⟨hsame, -⟩ := scan_of_not_answered ha
    obtain ⟨hchecked, hmeasuring⟩ := checked_consistent (i := i) hp
    exact ⟨hsame.consistent hchecked, .inl ⟨measures_of_not_reaches (by rw [reaches, ha]; rfl),
      hsame.measuring.trans hmeasuring⟩⟩

/-- A cycle that abandons an open measurement starts it again, or leaves the prover at rest. -/
lemma scan_abandons (hp : p.Consistent) (h : ¬ p.KeepsMeasuring i) :
    p.measuring = true ∧ ((p.scan i).measures = [.start] ∨
      (p.scan i).measures = [] ∧ (p.scan i).state.rests = true) := by
  simp only [KeepsMeasuring, Classical.not_imp, not_and, Bool.not_eq_false] at h
  obtain ⟨hm, ha, h⟩ := h
  refine ⟨hm, ?_⟩
  by_cases hs : p.holdsStream i = true
  · obtain ⟨q, hq, hmq, habandon, hmeasures, hstate, -⟩ :=
      scan_of_reaches_measure hp (by rw [reaches, ha, hs]; rfl)
    rw [hmeasures, hstate]
    rcases dispatch_of_abandons hq (hmq.trans hm) (habandon.trans (h hs)) with hstart | ⟨hnone, hr⟩
    · exact .inl (by rw [hstart]; rfl)
    · exact .inr ⟨by rw [hnone]; rfl, hr⟩
  · rw [Bool.not_eq_true] at hs
    refine .inr ⟨measures_of_not_reaches (by rw [reaches, ha, hs]; rfl), ?_⟩
    rcases (scan_of_lost ha hs).1 with hstate | hstate <;> rw [hstate] <;> rfl

/-! ### Runs -/

/-- What is known behind a run that stopped its measurements. -/
structure Accounted (p : Prove) (l : List ProveInput) : Prop where
  consistent : (p.run l).Consistent
  alternates : Alternates (· = .start) (· = .stop) (p.measureLog l)
  closed : Closed (· = .start) (· = .stop) (p.measureLog l) ↔ (p.run l).measuring = false

lemma measureLog_concat (l : List ProveInput) :
    p.measureLog (l ++ [i]) = p.measureLog l ++ ((p.run l).scan i).measures :=
  Run.outputs_concat p l i

/-- One more cycle keeps the property if and only if it does not abandon an open measurement. -/
lemma Accounted.concat {l : List ProveInput} (h : p.Accounted l) :
    (p.Stopped (l ++ [i]) ↔ (p.run l).KeepsMeasuring i) ∧
      ((p.run l).KeepsMeasuring i → p.Accounted (l ++ [i])) := by
  have hkeeps (hk : (p.run l).KeepsMeasuring i) : p.Accounted (l ++ [i]) := by
    obtain ⟨hc, hlog⟩ := scan_keeps h.consistent hk
    rw [← run_concat] at hc hlog
    obtain ⟨hm, hon⟩ | ⟨hm, hoff, hon⟩ | ⟨hm, hoff⟩ := hlog
    all_goals
      have hlog := measureLog_concat (p := p) (i := i) l
      rw [← run_concat, hm] at hlog
    · rw [List.append_nil] at hlog
      exact ⟨hc, by rw [hlog]; exact h.alternates, by rw [hlog, hon]; exact h.closed⟩
    · refine ⟨hc, ?_, ?_⟩ <;> rw [hlog]
      · exact Brackets.alternates_concat.mpr ⟨h.alternates, fun _ => h.closed.mpr hoff⟩
      · simp [Brackets.closed_concat, hon]
    · refine ⟨hc, ?_, ?_⟩ <;> rw [hlog]
      · exact Brackets.alternates_concat.mpr ⟨h.alternates, fun hs => nomatch hs⟩
      · simp [Brackets.closed_concat, hoff]
  refine ⟨⟨fun hs => ?_, fun hk => ?_⟩, hkeeps⟩
  · by_contra hk
    obtain ⟨hm, hlog⟩ := scan_abandons h.consistent hk
    have hopen : ¬ Closed (· = .start) (· = .stop) (p.measureLog l) := by simp [h.closed, hm]
    rcases hlog with hstart | ⟨hnone, hrests⟩
    · have halt := hs.alternates
      rw [measureLog_concat, hstart, Brackets.alternates_concat] at halt
      exact hopen (halt.2 rfl)
    · have hclosed := hs.closed (by rwa [run_concat])
      rw [measureLog_concat, hnone, List.append_nil] at hclosed
      exact hopen hclosed
  · have h' := hkeeps hk
    exact ⟨fun hr => h'.closed.mpr (ProveState.measuring_of_rests hr), h'.alternates⟩

/-- In every run from power-on, the starts are followed by stops whenever the prover rests, and
never come twice, if and only if no cycle abandons an open measurement. -/
theorem stopped_iff (moduleNum : UInt8) (moduleName : String) (setup : CmpUINT) (strIdx : UInt16)
    (l : List ProveInput) :
    (∀ pre, pre <+: l → (powerOn moduleNum moduleName setup strIdx).Stopped pre) ↔
      Run.Along scan KeepsMeasuring (powerOn moduleNum moduleName setup strIdx) l := by
  have hstart : (powerOn moduleNum moduleName setup strIdx).Accounted [] := by
    refine ⟨⟨rfl, ?_, ?_, ?_⟩, Brackets.alternates_nil, iff_of_true Brackets.closed_nil rfl⟩ <;>
      simp [run, powerOn]
  have hnil : (powerOn moduleNum moduleName setup strIdx).Stopped [] :=
    ⟨fun _ => Brackets.closed_nil, Brackets.alternates_nil⟩
  exact Run.forall_prefix_iff_along _ ⟨hstart, hnil⟩ (fun _ _ h => h.concat) l

/-- A proving run without a valve and with one detector, up to `FINISH`. -/
def completedPass : List ProveInput :=
  cycleAt oneDetector 0 (some 1) (fun _ => 0) ::
    ([0, 1010, 1020, 6020, 6030].map (quietAt oneDetector) ++
      [cycleAt oneDetector 7000 none ![1, 0, 0, 0], quietAt oneDetector 7010,
        cycleAt oneDetector 9000 none ![0, 0, 1, 0]] ++
      [9010, 17010, 17020, 22020, 22030].map (quietAt oneDetector))

/-- The detectors are passed in time and the ball comes back, and the module still measures. -/
theorem stopped_fails :
    ((powerOn 0 "" {} 0).run completedPass).state = .finish ∧
      ¬ (powerOn 0 "" {} 0).Stopped completedPass := by
  have hlog : (powerOn 0 "" {} 0).measureLog completedPass = [] ++ [.start] := by decide +kernel
  have hstate : ((powerOn 0 "" {} 0).run completedPass).state = .finish := by decide +kernel
  refine ⟨hstate, fun h => ?_⟩
  have hclosed := h.closed (by rw [hstate]; rfl)
  rw [hlog, Brackets.closed_concat] at hclosed
  exact hclosed.1 rfl

end Prove

end Tritonn
