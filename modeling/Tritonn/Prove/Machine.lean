import Tritonn.Data.Stream
import Tritonn.Io.ModuleCRM
import Tritonn.Shared.TickCount

/-!
`src/tritonn/data/prove.cpp`: the state machine of a prover.

* `Prove` is the prover, `ProveInput` what reaches it before a cycle: the writes of the operator,
  the values of its links, the module, the streams of the station and the ticks of the clock;
* the handlers of the states have their names from the source; `unlessAborted` is the call of
  `checkCommand` with which most of them begin;
* `calculate` is `rProve::calculate`, and `scan` one scan of the data manager.

What a cycle sends to the rest of the system is the list `out` of the prover: its events, the
stream that it selects, the snapshots for the module and a halt.  A snapshot takes the mutex of the
variables, which is not part of this model.
-/

namespace Tritonn

/-- `rProve::State`. -/
inductive ProveState where
  | idle
  | start
  | stabilization
  | runball
  | valvetoup
  | waittoup
  | valvetodown
  | waitd1
  | waitd2
  | calculate
  | returnball
  | waitd2Reverse
  | waitd1Reverse
  | waycomplited
  | finish
  | abort
  | errorflow
  | errorstab
  | errortoup
  | errortodown
  | errord1
  | errord2
  | errordetector
  | errorreturn
  | errorstreamid
  | errord2Reverse
  | errord1Reverse
  deriving DecidableEq, Repr

/-- `rProve::Way`. -/
inductive Way where
  | forward
  | reverse
  deriving DecidableEq, Repr

/-- `rProve::Command`; an operator may write any other number, too. -/
inductive ProveCommand where
  | none
  | start
  | abort
  | reset
  | other (value : UInt16)
  deriving DecidableEq, Repr

/-- The command of a written number. -/
def ProveCommand.ofUINT (value : UInt16) : ProveCommand :=
  if value = 0 then .none
  else if value = 1 then .start
  else if value = 2 then .abort
  else if value = 3 then .reset
  else .other value

/-! ### The flags of the setup -/

namespace ProveSetup

/-- `Setup::VALVE_4WAY`. -/
def valve4way : UInt16 := 0x0001

/-- `Setup::STABILIZATION`. -/
def stabilization : UInt16 := 0x0002

/-- `Setup::NOVALVE`. -/
def novalve : UInt16 := 0x0004

/-- `Setup::ONEDETECTOR`. -/
def onedetector : UInt16 := 0x0008

/-- `Setup::BOUNCE`. -/
def bounce : UInt16 := 0x0010

/-- `Setup::NOSELECTSTR`. -/
def noselectstr : UInt16 := 0x0020

/-- `Setup::SIMULATE`. -/
def simulate : UInt16 := 0x0040

end ProveSetup

/-! ### Data -/

/-- The values that are checked for stability. -/
inductive StabValue where
  | temp
  | pres
  | dens
  | freq
  deriving DecidableEq, Repr

/-- The events of a prover, `EID_PROVE_*`, with what is written into them; `newSetup` is
`EID_AI_NEW_SETUP`, `errorStab` the four events of `checkStab` and `state` those of `setState`. -/
inductive ProveEvent where
  | newSetup (value saved : UInt16)
  | cannotModifySetup
  | moduleFault (num : UInt8)
  | badCommand (value : UInt16)
  | commandStart
  | commandAbort
  | commandReset
  | notStarted
  | alreadyStarted
  | notError
  | isError
  | badStreamNumber (strIdx : UInt16)
  | errorStab (q : StabValue) (delta maxstab : LREAL)
  | state (s : ProveState)
  deriving DecidableEq

/-- What a cycle sends: an event, `rStation::setStreamFreqOut`, a variable that a snapshot sets,
`rDataManager::DoHalt` for the reason `HaltReason::RUNTIME`. -/
inductive ProveOut where
  | event (e : ProveEvent)
  | setStreamFreqOut (strid : UInt16)
  | set (var : String) (value : UInt32)
  | doHalt (fault : UInt32)
  deriving DecidableEq

/-- The settings of the timers, in milliseconds. -/
structure ProveTimers where
  tStart : UInt32 := 1000
  tStab : UInt32 := 10000
  tD1 : UInt32 := 8000
  tD2 : UInt32 := 8000
  tVolume : UInt32 := 20000
  tValve : UInt32 := 5000
  tAbort : UInt32 := 5000
  tBounce : UInt32 := 1000

/-- The values of the stabilization: the limits `m_maxStab*`, which are the defaults, or the
references `m_stab*`. -/
structure StabValues where
  temp : LREAL := 0.2
  pres : LREAL := 0.01
  dens : LREAL := 0.5
  freq : LREAL := 10

/-- One of the values of the stabilization. -/
def StabValues.get (s : StabValues) : StabValue → LREAL
  | .temp => s.temp
  | .pres => s.pres
  | .dens => s.dens
  | .freq => s.freq

/-- The input links. -/
structure ProveLink where
  temp : LREAL
  pres : LREAL
  dens : LREAL
  opened : LREAL
  closed : LREAL

/-- The averages of a proving run, `m_prv*` and `m_str*`. -/
structure ProveAverage where
  prvFreq : LREAL := 0
  prvTemp : LREAL := 0
  prvPres : LREAL := 0
  prvDens : LREAL := 0
  strTemp : LREAL := 0
  strPres : LREAL := 0
  strDens : LREAL := 0
  strKf : LREAL := 0
  deriving DecidableEq

/-- `rProve::WayData`. -/
structure WayData where
  count : LREAL := 0
  time : LREAL := 0
  deriving DecidableEq

/-- `rProve::Data`, the results for a pair of detectors. -/
structure VolumeData where
  summ : WayData := {}
  forward : WayData := {}
  reverse : WayData := {}
  deriving DecidableEq

/-- `rProve`, with the values of its output links (`m_open`, `m_close`, `m_inProgress`) and what the
last cycle sent. -/
structure Prove where
  isCalc : Bool := false
  link : ProveLink := ⟨0, 0, 0, 0, 0⟩
  openValve : LREAL := 0
  closeValve : LREAL := 0
  inProgress : LREAL := 0
  command : ProveCommand := .none
  setup : CmpUINT := {}
  strIdx : UInt16 := 0
  average : ProveAverage := {}
  curDet : UInt16 := 0
  fixDet : UInt16 := 0
  state : ProveState := .idle
  way : Way := .forward
  volume131 : VolumeData := {}
  volume242 : VolumeData := {}
  stab : StabValues := ⟨0, 0, 0, 0⟩
  averageCount : UInt32 := 0
  moduleNum : UInt8
  moduleName : String := ""
  moduleFreq : LREAL := 0
  moduleDet : UInt16 := 0
  moduleCount : UInt32 := 0
  timer : TickCount := {}
  timerBounce : TickCount := {}
  out : List ProveOut := []

/-- What reaches a prover before a cycle. The clock is read three times in it: for the timer of the
detectors, at a start of the timer of the states and at the question whether that one is
finished. -/
structure ProveInput where
  command : Option UInt16 := none
  setup : Option UInt16 := none
  timers : ProveTimers := {}
  maxStab : StabValues := {}
  link : ProveLink := ⟨0, 0, 0, 0, 0⟩
  crm : Option ModuleCRM
  streams : List Stream
  tickBounce : UInt32
  tickStart : UInt32
  tickFinish : UInt32

namespace Prove

/-! ### Small functions of the source -/

/-- One more thing is sent. -/
def emit (p : Prove) (o : ProveOut) : Prove := { p with out := p.out ++ [o] }

/-- `rEventManager::add`. -/
def event (p : Prove) (e : ProveEvent) : Prove := p.emit (.event e)

/-- A flag of the setup is set. -/
def has (p : Prove) (flag : UInt16) : Bool := p.setup.value &&& flag != 0

/-- `isValveOpened`. -/
def isValveOpened (p : Prove) : Bool := p.link.opened != 0 && p.link.closed == 0

/-- `isValveClosed`. -/
def isValveClosed (p : Prove) : Bool := p.link.opened == 0 && p.link.closed != 0

/-- `isSimulate`: no other flag is set. -/
def isSimulate (p : Prove) : Bool := p.setup.value == ProveSetup.simulate

/-- `rDataModule::isSetModule`; the prover takes a module without a channel. -/
def isSetModule (p : Prove) : Bool := p.moduleNum != 0xFF

/-- `m_timer.start`. -/
def startTimer (p : Prove) (i : ProveInput) (msec : UInt32) : Prove :=
  { p with timer := .start i.tickStart msec }

/-- `m_timer.stop`. -/
def stopTimer (p : Prove) : Prove := { p with timer := p.timer.stop }

/-- `m_timer.isFinished`. -/
def timerFinished (p : Prove) (i : ProveInput) : Bool := p.timer.isFinished i.tickFinish

end Prove

/-- The value of the output "in progress" in a state. -/
def ProveState.inProgress : ProveState → LREAL
  | .runball | .valvetoup | .waittoup | .valvetodown | .waitd1 | .waitd2 | .calculate
  | .returnball | .waitd1Reverse | .waitd2Reverse | .waycomplited => 1
  | _ => 0

namespace Prove

/-- `rProve::setState`. -/
def setState (p : Prove) (s : ProveState) : Prove :=
  { p with state := s, inProgress := s.inProgress }.event (.state s)

/-- `rProve::moduleStart`. -/
def moduleStart (p : Prove) : Prove :=
  { p with averageCount := p.moduleCount }.emit (.set (p.moduleName ++ ".start") 1)

/-- `rProve::moduleStop`. -/
def moduleStop (p : Prove) : Prove := p.emit (.set (p.moduleName ++ ".stop") 1)

/-- `rProve::clearAverage`. -/
def clearAverage (p : Prove) : Prove :=
  { p with fixDet := 0, average := {}, volume131 := {}, volume242 := {} }

/-- `rProve::connectToLine`; a stream that the station does not have is refused. -/
def connectToLine (i : ProveInput) (p : Prove) : Option Prove :=
  if i.streams.length ≤ p.strIdx.toNat then none
  else if p.has ProveSetup.noselectstr then some p
  else some (p.emit (.setStreamFreqOut p.strIdx))

/-- `rProve::checkCommand`: the state, and whether the command was to abort. -/
def checkCommand (p : Prove) : Prove × Bool :=
  match p.command with
  | .start => (p.event .alreadyStarted, false)
  | .abort => ((p.event .commandAbort).setState .idle, true)
  | .reset => (p.event .notError, false)
  | _ => (p, false)

/-- `if (checkCommand()) return;` before the rest of a handler. -/
def unlessAborted (rest : Prove → Prove) (p : Prove) : Prove :=
  if p.checkCommand.2 then p.checkCommand.1 else rest p.checkCommand.1

/-- `rProve::checkDetectors`; `none` is its result -1. -/
def checkDetectors (first : Bool) (p : Prove) : Option Bool :=
  let det1 := p.fixDet &&& (ModuleCRM.det1 ||| ModuleCRM.det2) != 0
  let det2 := p.fixDet &&& (ModuleCRM.det3 ||| ModuleCRM.det4) != 0
  if p.has ProveSetup.onedetector then some (det1 || det2)
  else
    let (det1, det2) := if p.way = .reverse then (det2, det1) else (det1, det2)
    if first then if det2 then none else some det1
    else if det1 then none else some det2

/-- `rProve::checkStab`: `none` while the value stays within its limit. -/
def checkStab (p : Prove) (q : StabValue) (start present maxstab : LREAL) : Option Prove :=
  if maxstab < |present - start| then
    some ((p.event (.errorStab q |present - start| maxstab)).setState .errorstab)
  else none

/-! ### What the small functions leave as it is -/

section Fields

variable {p : Prove} {i : ProveInput}

/-- The same prover, but for what was sent. -/
def withOut (p : Prove) (out : List ProveOut) : Prove := { p with out := out }

@[simp] lemma withOut_fields (out : List ProveOut) :
    (p.withOut out).state = p.state ∧ (p.withOut out).way = p.way ∧
      (p.withOut out).setup = p.setup ∧ (p.withOut out).strIdx = p.strIdx ∧
      (p.withOut out).fixDet = p.fixDet ∧ (p.withOut out).timer = p.timer ∧
      (p.withOut out).command = p.command :=
  ⟨rfl, rfl, rfl, rfl, rfl, rfl, rfl⟩

@[simp] lemma withOut_has (out : List ProveOut) (flag : UInt16) :
    (p.withOut out).has flag = p.has flag := rfl

@[simp] lemma emit_fields (o : ProveOut) :
    (p.emit o).state = p.state ∧ (p.emit o).way = p.way ∧ (p.emit o).setup = p.setup ∧
      (p.emit o).strIdx = p.strIdx ∧ (p.emit o).fixDet = p.fixDet ∧ (p.emit o).timer = p.timer ∧
      (p.emit o).command = p.command :=
  ⟨rfl, rfl, rfl, rfl, rfl, rfl, rfl⟩

@[simp] lemma event_fields (e : ProveEvent) :
    (p.event e).state = p.state ∧ (p.event e).way = p.way ∧ (p.event e).setup = p.setup ∧
      (p.event e).strIdx = p.strIdx ∧ (p.event e).fixDet = p.fixDet ∧ (p.event e).timer = p.timer ∧
      (p.event e).command = p.command :=
  ⟨rfl, rfl, rfl, rfl, rfl, rfl, rfl⟩

@[simp] lemma setState_fields (s : ProveState) :
    (p.setState s).state = s ∧ (p.setState s).way = p.way ∧ (p.setState s).setup = p.setup ∧
      (p.setState s).strIdx = p.strIdx ∧ (p.setState s).fixDet = p.fixDet ∧
      (p.setState s).timer = p.timer ∧ (p.setState s).command = p.command :=
  ⟨rfl, rfl, rfl, rfl, rfl, rfl, rfl⟩

@[simp] lemma startTimer_fields (ms : UInt32) :
    (p.startTimer i ms).state = p.state ∧ (p.startTimer i ms).way = p.way ∧
      (p.startTimer i ms).setup = p.setup ∧ (p.startTimer i ms).strIdx = p.strIdx ∧
      (p.startTimer i ms).fixDet = p.fixDet ∧ (p.startTimer i ms).timer = .start i.tickStart ms ∧
      (p.startTimer i ms).command = p.command :=
  ⟨rfl, rfl, rfl, rfl, rfl, rfl, rfl⟩

@[simp] lemma stopTimer_fields :
    p.stopTimer.state = p.state ∧ p.stopTimer.way = p.way ∧ p.stopTimer.setup = p.setup ∧
      p.stopTimer.strIdx = p.strIdx ∧ p.stopTimer.fixDet = p.fixDet ∧
      p.stopTimer.timer = p.timer.stop ∧ p.stopTimer.command = p.command :=
  ⟨rfl, rfl, rfl, rfl, rfl, rfl, rfl⟩

@[simp] lemma moduleStart_fields :
    p.moduleStart.state = p.state ∧ p.moduleStart.way = p.way ∧ p.moduleStart.setup = p.setup ∧
      p.moduleStart.strIdx = p.strIdx ∧ p.moduleStart.fixDet = p.fixDet ∧
      p.moduleStart.timer = p.timer ∧ p.moduleStart.command = p.command :=
  ⟨rfl, rfl, rfl, rfl, rfl, rfl, rfl⟩

@[simp] lemma moduleStop_fields :
    p.moduleStop.state = p.state ∧ p.moduleStop.way = p.way ∧ p.moduleStop.setup = p.setup ∧
      p.moduleStop.strIdx = p.strIdx ∧ p.moduleStop.fixDet = p.fixDet ∧
      p.moduleStop.timer = p.timer ∧ p.moduleStop.command = p.command :=
  ⟨rfl, rfl, rfl, rfl, rfl, rfl, rfl⟩

@[simp] lemma clearAverage_fields :
    p.clearAverage.state = p.state ∧ p.clearAverage.way = p.way ∧ p.clearAverage.setup = p.setup ∧
      p.clearAverage.strIdx = p.strIdx ∧ p.clearAverage.fixDet = 0 ∧
      p.clearAverage.timer = p.timer ∧ p.clearAverage.command = p.command :=
  ⟨rfl, rfl, rfl, rfl, rfl, rfl, rfl⟩

end Fields

/-! ### The handlers of the states -/

/-- `rProve::onIdle`. -/
def onIdle (p : Prove) : Prove :=
  match p.command with
  | .start => (p.event .commandStart).setState .start
  | .abort => p.event .notStarted
  | .reset => p.event .commandReset
  | _ => p

/-- `rProve::onStart`. -/
def onStart (i : ProveInput) : Prove → Prove :=
  unlessAborted fun p =>
    if !p.timer.isStart then
      match p.clearAverage.connectToLine i with
      | none => (p.clearAverage.event (.badStreamNumber p.strIdx)).setState .errorstreamid
      | some p => { p.startTimer i i.timers.tStart with way := .forward }
    else if p.timerFinished i then
      let p := p.stopTimer
      if p.moduleFreq < 0.001 then p.setState .errorflow
      else if p.has ProveSetup.stabilization then p.setState .stabilization
      else p.setState .runball
    else p

/-- The end of the wait for the valve or the ball: the first detector comes next. -/
def setWaitD1 (p : Prove) : Prove :=
  p.setState (if p.way = .forward then .waitd1 else .waitd1Reverse)

/-- The end of `rProve::onRunBall`. -/
def runBallFinished (i : ProveInput) (p : Prove) : Prove :=
  if p.timerFinished i then p.stopTimer.setWaitD1 else p

/-- `rProve::onRunBall`; without a valve the timer starts and may be finished at once. -/
def onRunBall (i : ProveInput) : Prove → Prove :=
  unlessAborted fun p =>
    if !p.timer.isStart then
      if p.has ProveSetup.novalve then (p.startTimer i i.timers.tValve).runBallFinished i
      else p.setState .valvetoup
    else p.runBallFinished i

/-- `rProve::onStabilization`. -/
def onStabilization (i : ProveInput) : Prove → Prove :=
  unlessAborted fun p =>
    if !p.timer.isStart then
      { p with stab := ⟨p.link.temp, p.link.pres, p.link.dens, p.moduleFreq⟩ }.startTimer i
        i.timers.tStab
    else if p.timerFinished i then p.stopTimer.setState .runball
    else
      (p.checkStab .temp p.stab.temp p.link.temp i.maxStab.temp <|>
        p.checkStab .pres p.stab.pres p.link.pres i.maxStab.pres <|>
        p.checkStab .dens p.stab.dens p.link.dens i.maxStab.dens <|>
        p.checkStab .freq p.stab.freq p.moduleFreq i.maxStab.freq).getD p

/-- `rProve::onValveToUp`. -/
def onValveToUp : Prove → Prove :=
  unlessAborted fun p =>
    if p.isValveOpened || p.isSimulate then p.setState .valvetodown
    else
      let p := if !p.isSimulate then { p with closeValve := 0, openValve := 1 } else p
      p.setState .waittoup

/-- `rProve::onWaitToUp`. -/
def onWaitToUp (i : ProveInput) : Prove → Prove :=
  unlessAborted fun p =>
    if !p.timer.isStart then
      p.startTimer i (2 * (i.timers.tD1 + i.timers.tD2 + i.timers.tVolume))
    else if p.timerFinished i then
      let p := p.stopTimer
      if p.isValveOpened || p.isSimulate then p.setState .valvetodown
      else p.setState .errortoup
    else p

/-- `rProve::onValveToDown`. -/
def onValveToDown (i : ProveInput) : Prove → Prove :=
  unlessAborted fun p =>
    if !p.timer.isStart then
      let p := if !p.isSimulate then { p with closeValve := 1, openValve := 0 } else p
      p.startTimer i i.timers.tValve
    else if p.timerFinished i then p.stopTimer.setState .errortodown
    else if p.isValveClosed || p.isSimulate then p.stopTimer.setWaitD1
    else p

/-- `rProve::onWaitD1`. -/
def onWaitD1 (i : ProveInput) : Prove → Prove :=
  unlessAborted fun p =>
    if !p.timer.isStart then (p.startTimer i i.timers.tD1).moduleStart
    else if p.timerFinished i then
      p.moduleStop.stopTimer.setState
        (if p.way = .forward then .errord1 else .errord2Reverse)
    else
      match p.checkDetectors true with
      | none => p.stopTimer.setState .errordetector
      | some false => p
      | some true =>
          p.stopTimer.setState (if p.way = .forward then .waitd2 else .waitd2Reverse)

/-- `rProve::onWaitD2`. -/
def onWaitD2 (i : ProveInput) : Prove → Prove :=
  unlessAborted fun p =>
    if !p.timer.isStart then p.startTimer i i.timers.tVolume
    else if p.timerFinished i then
      p.moduleStop.stopTimer.setState
        (if p.way = .forward then .errord2 else .errord1Reverse)
    else
      match p.checkDetectors false with
      | none => p.stopTimer.setState .errordetector
      | some false => p
      | some true => p.stopTimer.setState .calculate

/-- `rProve::onCalculate`. -/
def onCalculate (i : ProveInput) : Prove → Prove :=
  unlessAborted fun p =>
    if !p.timer.isStart then p.startTimer i i.timers.tD2
    else if p.timerFinished i then p.stopTimer.setState .returnball
    else p

/-- `rProve::onReturnBall_NoValve`. -/
def onReturnBallNoValve (i : ProveInput) (p : Prove) : Prove :=
  if !p.timer.isStart then p.startTimer i i.timers.tValve
  else if p.timerFinished i then p.stopTimer.setState .waycomplited
  else p

/-- `rProve::onReturnBall`. -/
def onReturnBall (i : ProveInput) : Prove → Prove :=
  unlessAborted fun p =>
    if p.has ProveSetup.novalve then p.onReturnBallNoValve i
    else if !p.timer.isStart then
      let p := if !p.isSimulate then { p with closeValve := 0, openValve := 1 } else p
      p.startTimer i i.timers.tValve
    else if p.timerFinished i then p.stopTimer.setState .errorreturn
    else if p.isValveOpened || p.isSimulate then p.stopTimer.setState .waycomplited
    else p

/-- `rProve::onWayComplited`; commands are not looked at. -/
def onWayComplited (p : Prove) : Prove :=
  if p.has ProveSetup.valve4way && p.way == .forward then
    { p with way := .reverse }.setState .runball
  else p.setState .finish

/-- `rProve::onAbort`. -/
def onAbort (i : ProveInput) (p : Prove) : Prove :=
  if !p.timer.isStart then p.startTimer i i.timers.tAbort
  else if p.timerFinished i then p.stopTimer.setState .idle
  else p

/-- `rProve::onErrorState`; a reset writes the state without `setState`. -/
def onErrorState (p : Prove) : Prove :=
  match p.command with
  | .start => p.event .isError
  | .abort => p.setState .idle
  | .reset => { p with state := .idle }.event .commandReset
  | _ => p

/-! ### A cycle -/

/-- The comparison of the setup at the beginning of `calculate`: a change in another state than
`IDLE` is taken back. -/
def checkSetup (p : Prove) : Prove :=
  if !p.setup.isDiff then p
  else if p.state = .idle then
    { p.event (.newSetup p.setup.value p.setup.saved) with setup := p.setup.compare }
  else { p.event .cannotModifySetup with setup := p.setup.restore }

/-- The questions to the module. After an error `calculate` returns with it. -/
def readModule (i : ProveInput) (p : Prove) : Except Prove Prove :=
  if !p.isSetModule then .ok p
  else
    match i.crm with
    | none => .error ((p.event (.moduleFault p.moduleNum)).emit (.doHalt realtimeModuleLink))
    | some crm =>
        if crm.isFault then .ok p
        else
          let p := { p with moduleFreq := crm.getFreq, moduleDet := crm.getDetectors }
          match crm.getValue 4 .fi with
          | .ok count => .ok { p with moduleCount := count }
          | .error fault =>
              .error (({ p with moduleCount := 0 }.event (.moduleFault p.moduleNum)).emit
                (.doHalt fault))

/-- `rProve::detectorsProcessing`. -/
def detectorsProcessing (i : ProveInput) (p : Prove) : Prove :=
  if !p.timerBounce.isStart then
    if p.fixDet &&& p.moduleDet ≠ p.moduleDet then
      { p with
        fixDet := p.fixDet ||| p.moduleDet, curDet := p.moduleDet,
        timerBounce :=
          if p.has ProveSetup.bounce then .start i.tickBounce i.timers.tBounce
          else p.timerBounce }
    else p
  else if p.timerBounce.isFinished i.tickBounce then
    { p with timerBounce := p.timerBounce.stop }
  else p

/-- An average of `calcAverage` with the present value `x`; the division is that of the second
summand only. -/
def weigh (p : Prove) (dCount : UInt32) (x avr : LREAL) : LREAL :=
  x * dCount.toNat + avr * p.averageCount.toNat / p.moduleCount.toNat

/-- `rProve::calcAverage`. -/
def calcAverage (i : ProveInput) (p : Prove) : Prove :=
  if p.inProgress = 0 then p
  else
    let dCount := p.moduleCount - p.averageCount
    match i.streams[p.strIdx.toNat]? with
    | none => p.setState .errorstreamid
    | some str =>
        if dCount = 0 then p
        else
          let avr := p.average
          { p with
            average.prvFreq := p.weigh dCount p.moduleFreq avr.prvFreq
            average.prvDens := p.weigh dCount p.link.dens avr.prvDens
            average.prvTemp := p.weigh dCount p.link.temp avr.prvTemp
            average.prvPres := p.weigh dCount p.link.pres avr.prvPres
            average.strDens := p.weigh dCount str.link.dens avr.strDens
            average.strTemp := p.weigh dCount str.link.temp avr.strTemp
            average.strPres := p.weigh dCount str.link.pres avr.strPres
            average.strKf := p.weigh dCount str.curKF
              (p.weigh dCount str.link.pres avr.strPres) }

/-- The event for a command that is not one of the four. -/
def checkBadCommand (p : Prove) : Prove :=
  match p.command with
  | .other value => p.event (.badCommand value)
  | _ => p

/-- The `switch` over the state in `calculate`. -/
def dispatch (i : ProveInput) (p : Prove) : Prove :=
  match p.state with
  | .idle | .finish => p.onIdle
  | .start => p.onStart i
  | .runball => p.onRunBall i
  | .stabilization => p.onStabilization i
  | .valvetoup => p.onValveToUp
  | .waittoup => p.onWaitToUp i
  | .valvetodown => p.onValveToDown i
  | .waitd1 | .waitd1Reverse => p.onWaitD1 i
  | .waitd2 | .waitd2Reverse => p.onWaitD2 i
  | .calculate => p.onCalculate i
  | .returnball => p.onReturnBall i
  | .abort => p.onAbort i
  | .waycomplited => p.onWayComplited
  | .errorflow | .errorstab | .errortoup | .errortodown | .errord1 | .errord2 | .errordetector
  | .errorreturn | .errorstreamid | .errord1Reverse | .errord2Reverse => p.onErrorState

/-- `rProve::calculate` after the questions to the module and before the `switch`. -/
def prepare (i : ProveInput) (p : Prove) : Prove :=
  ((p.detectorsProcessing i).calcAverage i).checkBadCommand

/-- `rProve::calculate`. -/
def calculate (i : ProveInput) (p : Prove) : Prove :=
  if p.isCalc then p
  else
    match ({ p with isCalc := true, link := i.link }.checkSetup).readModule i with
    | .error p => p
    | .ok p => { (p.prepare i).dispatch i with command := .none }

/-- What is done to a prover before a scan: the writes of the operator and
`rSource::preCalculate`. -/
def load (p : Prove) (i : ProveInput) : Prove :=
  { p with
    isCalc := false, out := [],
    command := (i.command.map .ofUINT).getD p.command,
    setup := { p.setup with value := i.setup.getD p.setup.value } }

/-- One scan of the data manager. -/
def scan (p : Prove) (i : ProveInput) : Prove := (p.load i).calculate i

/-- Scans in a row. -/
def run (p : Prove) (l : List ProveInput) : Prove := l.foldl scan p

end Prove

end Tritonn
