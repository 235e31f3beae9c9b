import Tritonn.Data.Stream

/-!
`src/tritonn/data_sampler.cpp`: the sampler of a metering line, which fills a can by grabs.

* `Sampler` is the sampler, `SamplerInput` what reaches it before a cycle: the writes of the
  operator, the values of its links, the totals of its source and the clock;
* the handlers of the states have their names from the source; `calculate` is `rSampler::calculate`
  and `scan` one scan of the data manager.

A cycle is an `Option`: a division of two `UDINT` by zero stops the process.  A division of an
`LREAL` by zero is an `Interval` that is no number.  `m_reserve`, `m_setup`, the output `m_selected`
and the links for the fault and the weight of a can are not read by these functions.
-/

namespace Tritonn

/-- `rSampler::State`. -/
inductive SamplerState where
  | idle
  | test
  | worktime
  | workvolume
  | workmass
  | pause
  | finish
  | error
  deriving DecidableEq, Repr

/-- The states in which grabs are taken. -/
def SamplerState.isWork : SamplerState → Bool
  | .test | .worktime | .workvolume | .workmass => true
  | _ => false

/-- `rSampler::Method`; an operator may write any other number, too. -/
inductive SamplerMethod where
  | period
  | mass
  | volume
  | other (value : UInt16)
  deriving DecidableEq, Repr

/-- The method of a written number. -/
def SamplerMethod.ofUINT (value : UInt16) : SamplerMethod :=
  if value = 0 then .period
  else if value = 1 then .mass
  else if value = 2 then .volume
  else .other value

/-- `rSampler::Command`; an operator may write any other number, too. -/
inductive SamplerCommand where
  | none
  | start
  | stop
  | test
  | confirm
  | pause
  | resume
  | other (value : UInt16)
  deriving DecidableEq, Repr

/-- The command of a written number. -/
def SamplerCommand.ofUINT (value : UInt16) : SamplerCommand :=
  if value = 0 then .none
  else if value = 1 then .start
  else if value = 2 then .stop
  else if value = 3 then .test
  else if value = 4 then .confirm
  else if value = 122 then .pause
  else if value = 145 then .resume
  else .other value

/-- The events of a sampler, `EID_SAMPLER_*`, with what is written into them. -/
inductive SamplerEvent where
  | startPeriod
  | startVolume
  | startMass
  | startTest
  | stop
  | dontStop
  | finish
  | confirm
  | modeFault (method : SamplerMethod)
  | commandFault (command : SamplerCommand)
  | selectFault
  | startFault
  deriving DecidableEq, Repr

/-! ### The interval -/

/-- An `LREAL` that may come from a division by zero. -/
inductive Interval where
  | value (x : LREAL)
  | infinite (negative : Bool)
  | nan
  deriving DecidableEq

namespace Interval

/-- The division of an `LREAL` by a `UDINT`. -/
def div (x : LREAL) (n : UInt32) : Interval :=
  if n ≠ 0 then .value (x / n.toNat)
  else if x = 0 then .nan
  else .infinite (decide (x < 0))

/-- `base + interval < x`. -/
def addLt (base : LREAL) (x : LREAL) : Interval → Bool
  | .value v => base + v < x
  | .infinite negative => negative
  | .nan => false

/-- `base + interval ≤ x`. -/
def addLe (base : LREAL) (x : LREAL) : Interval → Bool
  | .value v => base + v ≤ x
  | .infinite negative => negative
  | .nan => false

/-- `static_cast<UDINT>`, which has no meaning for what is no number. -/
def toUDINT : Interval → UInt32
  | .value v => Tritonn.toUDINT v
  | _ => 0

/-- The comparison of `checkInterval`. -/
def exceedsSecond : Interval → Bool
  | .value v => 1000 < v
  | .infinite negative => !negative
  | .nan => false

end Interval

/-- A division of two `UDINT`, which traps for the divisor zero. -/
def divUDINT (a b : UInt32) : Option UInt32 := if b = 0 then none else some (a / b)

/-! ### Data -/

/-- `rSampler`, with the value of its output link `m_grab`, the two bits of `m_lockErr` for the
inputs and what the last cycle sent. -/
structure Sampler where
  isCalc : Bool := false
  command : SamplerCommand := .none
  method : SamplerMethod
  grabVol : LREAL := 1
  noflow : Bool := false
  interval : Interval := .value 0
  canPresent : LREAL := 0
  canRemain : LREAL := 0
  timeRemain : UInt32 := 0
  grabPresent : UInt32 := 0
  grabRemain : UInt32 := 0
  grabCount : UInt32 := 0
  timeStart : UInt32 := 0
  state : SamplerState := .idle
  lastRawTotal : BaseTotal := .clear
  timerInterval : UInt32 := 0
  resumeState : SamplerState := .idle
  lockStart : Bool := false
  lockStop : Bool := false
  grab : LREAL := 0
  out : List SamplerEvent := []

/-- What an operator may write at any time: the selected can, what is to be taken, and the volumes
of the cans. The array has two cans, and an index behind it reads what lies there. -/
structure SamplerSettings where
  select : UInt16 := 0
  probePeriod : UInt32 := 43200
  probeVolume : LREAL
  probeMass : LREAL
  probeTest : UInt32 := 100
  canVolume : LREAL
  can : UInt16 → LREAL

/-- What reaches a sampler before a cycle. A link without a source has no value. -/
structure SamplerInput where
  command : Option UInt16 := none
  method : Option UInt16 := none
  set : SamplerSettings
  ioStart : Option LREAL := none
  ioStop : Option LREAL := none
  overflow : UInt16 → Option LREAL := fun _ => none
  total : Total
  sysTick : UInt32
  unixTime : UInt32

namespace Sampler

/-- `rEventManager::add`. -/
def event (s : Sampler) (e : SamplerEvent) : Sampler := { s with out := s.out ++ [e] }

/-- `rSampler::isCanOverflow`. -/
def isCanOverflow (i : SamplerInput) : Bool :=
  decide (i.set.select < 2) && (i.overflow i.set.select).any (0 < ·)

/-- `rSampler::checkInterval`. -/
def checkInterval (s : Sampler) : Sampler × Bool :=
  if s.interval.exceedsSecond then (s, true) else (s.event .startFault, false)

/-- `rSampler::recalcInterval`. -/
def recalcInterval (s : Sampler) : Option Sampler := do
  let interval ← divUDINT s.timeRemain s.grabRemain
  let (s, ok) := { s with interval := .value interval.toNat }.checkInterval
  some (if ok then s else { s with state := .idle })

/-! ### Start and stop -/

/-- The counters at the beginning of `rSampler::onStart`. -/
def clear (s : Sampler) : Sampler :=
  { s with
    interval := .value 0, grabCount := 0, grabPresent := 0, grabRemain := 0, timeRemain := 0,
    canRemain := 0, canPresent := 0, noflow := false, timeStart := 0, timerInterval := 0 }

/-- `static_cast<UDINT>(m_canVolume / m_grabVol + 0.5)`. -/
def grabs (s : Sampler) (i : SamplerInput) : UInt32 :=
  toUDINT (i.set.canVolume / s.grabVol + 1 / 2)

/-- The end of `rSampler::onStart`. -/
def startCount (i : SamplerInput) (s : Sampler) : Sampler :=
  { s with
    lastRawTotal := i.total.raw, grabRemain := s.grabCount, canRemain := i.set.can i.set.select,
    timeStart := i.unixTime, timerInterval := i.sysTick }

/-- `rSampler::onStart`: the interval is divided by `m_grabRemain`, which was just set to zero. -/
def onStart (i : SamplerInput) (s : Sampler) : Option Sampler :=
  let s := s.clear
  if 2 ≤ i.set.select then some ({ s with state := .error }.event .selectFault)
  else
    match s.method with
    | .period => do
        let interval ← divUDINT i.set.probePeriod s.grabRemain
        let (s, ok) :=
          { s with grabCount := s.grabs i, interval := .value interval.toNat }.checkInterval
        let s := if ok then { s with state := .worktime }.event .startPeriod else s
        some (s.startCount i)
    | .volume =>
        some (({ s with
          grabCount := s.grabs i, interval := .div i.set.probeVolume s.grabRemain,
          state := .workvolume }.event .startVolume).startCount i)
    | .mass =>
        some (({ s with
          grabCount := s.grabs i, interval := .div i.set.probeMass s.grabRemain,
          state := .workmass }.event .startMass).startCount i)
    | .other method =>
        some { s.event (.modeFault (.other method)) with method := .period, state := .error }

/-- `rSampler::onStop`. -/
def onStop (s : Sampler) : Sampler := { s with state := .idle }.event .stop

/-- `rSampler::onStartTest`; `m_canPresent` keeps its value. -/
def onStartTest (i : SamplerInput) (s : Sampler) : Sampler :=
  { s with
    noflow := false, interval := .value (2000 * i.set.probeTest).toNat, state := .test,
    lastRawTotal := i.total.raw, grabCount := i.set.probeTest, grabRemain := i.set.probeTest,
    grabPresent := 0, canRemain := i.set.can i.set.select, timeRemain := 0,
    timeStart := i.unixTime, timerInterval := i.sysTick }.event .startTest

/-- `rSampler::onPause`. -/
def onPause (s : Sampler) : Sampler := { s with resumeState := s.state, state := .pause }

/-- `rSampler::onResume`, which no function calls. -/
def onResume (s : Sampler) : Sampler := { s with state := s.resumeState, resumeState := .idle }

/-! ### The handlers of the states -/

/-- `rSampler::onIdle`. -/
def onIdle (i : SamplerInput) (s : Sampler) : Option Sampler :=
  match s.command with
  | .start => s.onStart i
  | .stop => some s.onStop
  | .test => some (s.onStartTest i)
  | .other value => some (s.event (.commandFault (.other value)))
  | .none | .confirm | .pause | .resume => some s

/-- The commands in the states in which grabs are taken, before the rest of the handler. -/
def unlessStopped (rest : Sampler → Option Sampler) (s : Sampler) : Option Sampler :=
  match s.command with
  | .none => rest s
  | .stop => some ({ s with state := .finish }.event .stop)
  | .pause => some s.onPause
  | _ => rest (s.event .dontStop)

/-- One grab is taken. -/
def takeGrab (i : SamplerInput) (s : Sampler) : Sampler :=
  { s with
    grab := 1, canPresent := s.canPresent + s.grabVol, canRemain := s.canRemain - s.grabVol,
    lastRawTotal := i.total.raw, grabPresent := s.grabPresent + 1, grabRemain := s.grabRemain - 1 }

/-- The question for the flow in `rSampler::onWorkTimer`. -/
def checkFlow (i : SamplerInput) (s : Sampler) : Option Sampler :=
  if i.total.inc.qty .volume < 1 / 100000 then some { s with noflow := true }
  else if s.noflow then s.recalcInterval.map ({ · with noflow := false })
  else some s

/-- The grab of `rSampler::onWorkTimer`, when its time has come. -/
def grabByTime (i : SamplerInput) (s : Sampler) : Sampler :=
  if s.interval.addLe s.timerInterval.toNat i.sysTick.toNat then
    { s.takeGrab i with
      timeRemain := s.timeRemain - s.interval.toUDINT
      timerInterval := s.timerInterval + s.interval.toUDINT }
  else s

/-- The end of a work. -/
def finish (s : Sampler) : Sampler := { s.event .finish with state := .finish }

/-- `rSampler::onWorkTimer`. -/
def onWorkTimer (checkflow : Bool) (i : SamplerInput) : Sampler → Option Sampler :=
  unlessStopped fun s => do
    let s ← if checkflow then s.checkFlow i else some s
    if checkflow && s.noflow then some s
    else
      let s := s.grabByTime i
      if s.timeStart + i.set.probePeriod < i.unixTime ∨ s.grabRemain = 0 ∨ isCanOverflow i then
        some s.finish
      else some s

/-- The grab of `rSampler::onWorkVolume`, when the volume or the mass has passed. -/
def grabByTotal (ch : Channel) (i : SamplerInput) (s : Sampler) : Sampler :=
  if s.interval.addLt (s.lastRawTotal.qty ch) (i.total.raw.qty ch) then s.takeGrab i else s

/-- `rSampler::onWorkVolume`. -/
def onWorkVolume (isMass : Bool) (i : SamplerInput) : Sampler → Option Sampler :=
  unlessStopped fun s =>
    let s := s.grabByTotal (if isMass then .mass else .volume) i
    if s.grabRemain = 0 ∨ isCanOverflow i then some s.finish else some s

/-- `rSampler::onWorkError`. -/
def onWorkError (s : Sampler) : Sampler :=
  match s.command with
  | .none => s
  | .confirm => { s.event .confirm with state := .idle }
  | command => s.event (.commandFault command)

/-! ### A cycle -/

/-- `static_cast<DINT>(value) == 0`. -/
def truncatesToZero (value : LREAL) : Bool := decide (-1 < value) && decide (value < 1)

/-- The part of `rSampler::checkIO` for the input that stops; the second result is that it ends the
function. -/
def checkStop (i : SamplerInput) (s : Sampler) : Sampler × Bool :=
  match i.ioStop with
  | none => (s, false)
  | some value =>
      let rises := decide (0 < value) && !s.lockStop
      let s₁ := if rises then { s with lockStop := true } else s
      if rises && !s.lockStart then (s₁.onStop, true)
      else
        (if truncatesToZero value && s₁.lockStop then { s₁ with lockStop := false } else s₁, false)

/-- The part of `rSampler::checkIO` for the input that starts. -/
def checkStart (i : SamplerInput) (s : Sampler) : Option Sampler :=
  match i.ioStart with
  | none => some s
  | some value =>
      let rises := decide (0 < value) && !s.lockStart
      let s₁ := if rises then { s with lockStart := true } else s
      if rises && !s.lockStop then s₁.onStart i
      else
        some (if truncatesToZero value && s₁.lockStart then { s₁ with lockStart := false } else s₁)

/-- `rSampler::checkIO`. -/
def checkIO (i : SamplerInput) (s : Sampler) : Option Sampler :=
  let (s, stopped) := s.checkStop i
  if stopped then some s else s.checkStart i

/-- The `switch` over the state in `calculate`; there is no handler for `PAUSE`. -/
def dispatch (i : SamplerInput) (s : Sampler) : Option Sampler :=
  match s.state with
  | .idle | .finish => s.onIdle i
  | .test => s.onWorkTimer false i
  | .worktime => s.onWorkTimer true i
  | .workvolume => s.onWorkVolume false i
  | .workmass => s.onWorkVolume true i
  | .pause => some s
  | .error => some s.onWorkError

/-- `rSampler::calculate`. -/
def calculate (i : SamplerInput) (s : Sampler) : Option Sampler :=
  let s := { s with grab := 0 }
  if s.isCalc then some s
  else do
    let s ← checkIO i { s with isCalc := true }
    let s ← s.dispatch i
    some { s with command := .none }

/-- What is done to a sampler before a scan: the writes of the operator and
`rSource::preCalculate`. -/
def load (s : Sampler) (i : SamplerInput) : Sampler :=
  { s with
    isCalc := false, out := [],
    command := (i.command.map .ofUINT).getD s.command,
    method := (i.method.map .ofUINT).getD s.method }

/-- One scan of the data manager. -/
def scan (s : Sampler) (i : SamplerInput) : Option Sampler := (s.load i).calculate i

/-- Scans in a row; `none` is a run that stopped the process. -/
def run (s : Sampler) (l : List SamplerInput) : Option Sampler :=
  l.foldl (fun s i => s.bind (scan · i)) (some s)

end Sampler

end Tritonn
