import Tritonn.Lib.Extended
import Tritonn.Totals.Total
import Tritonn.Shared.Units

/-!
`src/tritonn/data/stream.cpp`: a metering line.

* `calcualateKF` is the K-factor of the present frequency, from the keypad or interpolated over
  the twelve points;
* `calcTotal` turns the pulses of the scan into the increments of the totals;
* `calcRates` are the flow rates as `LREAL` has them, which may be infinite or no numbers, and
  `calcFlow` the same in `ℚ`, for reference densities that are not zero;
* `calculate` is one cycle, which does nothing when it already ran in this scan;
* `increment` names the increment of a cycle as a function of the state before it, and
  `calculate_total` says that a cycle is one cycle of the totals with that increment.
-/

namespace Tritonn

/-- `rStream::Type`. -/
inductive FlowMeter where
  | coriolis
  | turbine
  | ultrasonic
  deriving DecidableEq, Repr

/-- `rFactorPoint`. -/
structure FactorPoint where
  hz : LREAL
  kf : LREAL

/-- `rFlowFactor`, with its `MAXPOINTS` points. -/
structure FlowFactor where
  keypadKF : LREAL
  keypadMF : LREAL
  point : Fin 12 → FactorPoint

/-- The first point of the table. -/
def FlowFactor.first (f : FlowFactor) : FactorPoint := f.point 0

/-- The values of the input links of a stream. -/
structure StreamLink where
  counter : LREAL
  freq : LREAL
  temp : LREAL
  pres : LREAL
  dens : LREAL
  dens15 : LREAL
  dens20 : LREAL

/-- The outputs of a stream that a station averages over its streams. -/
inductive Param where
  | temp
  | pres
  | dens
  deriving DecidableEq, Repr

/-- `rStream`, with the units of its temperature, pressure and density. -/
structure Stream where
  isCalc : Bool
  link : StreamLink
  paramUnit : Param → UInt32
  flow : Channel → LREAL
  flowmeter : FlowMeter
  maintenance : Bool
  linearization : Bool
  resetTotals : Bool
  acceptKF : Bool
  curFactor : FlowFactor
  setFactor : FlowFactor
  curKF : LREAL
  total : Total

/-- What reaches a stream before a scan: the operator's writes and the values of the links. -/
structure StreamInput where
  link : StreamLink
  maintenance : Bool
  linearization : Bool
  resetTotals : Bool
  acceptKF : Bool
  setFactor : FlowFactor

/-- `static_cast<UDINT>` of a link value. -/
def toUDINT (value : LREAL) : UInt32 := UInt32.ofNat ⌊value⌋₊

/-- A count that went through a link comes back. -/
@[simp] lemma toUDINT_toNat (u : UInt32) : toUDINT (u.toNat : LREAL) = u := by
  rw [toUDINT, Nat.floor_natCast, UInt32.ofNat_toNat]

@[simp] lemma toUDINT_zero : toUDINT 0 = 0 := by simp [toUDINT]

namespace Stream

/-! ### The functions of the source -/

/-- The loop of `calcualateKF` over the points behind `prev`. -/
def findKF (freq : LREAL) (prev : FactorPoint) : List FactorPoint → LREAL
  | [] => prev.kf
  | p :: ps =>
      if p.hz ≤ 0 then prev.kf
      else if freq < p.hz then
        prev.kf + (p.kf - prev.kf) / (p.hz - prev.hz) * (freq - prev.hz)
      else findKF freq p ps

/-- `rStream::calcualateKF`. -/
def calcualateKF (s : Stream) : LREAL :=
  if s.link.freq ≤ 0 then 0
  else if !s.linearization then s.curFactor.keypadKF
  else if s.link.freq < (s.curFactor.point 0).hz then (s.curFactor.point 0).kf
  else findKF s.link.freq (s.curFactor.point 0) (List.ofFn s.curFactor.point).tail

/-- The values that `calcTotal` divides by are all valid. -/
def delimsValid (s : Stream) : Bool :=
  isValidDelim s.curKF && isValidDelim s.link.dens && isValidDelim s.link.dens15 &&
    isValidDelim s.link.dens20

/-- The increments of a Coriolis meter, whose pulses are a mass. -/
def massInc (s : Stream) (count : UInt32) : Channel → LREAL :=
  let mass := count.toNat / s.curKF * s.curFactor.keypadMF
  fun
  | .mass => mass
  | .volume => mass / s.link.dens * 1000
  | .volume15 => mass / s.link.dens15 * 1000
  | .volume20 => mass / s.link.dens20 * 1000

/-- The increments of the other meters, whose pulses are a volume. -/
def volumeInc (s : Stream) (count : UInt32) : Channel → LREAL :=
  let volume := count.toNat / s.curKF * s.curFactor.keypadMF
  fun
  | .mass => volume * s.link.dens / 1000
  | .volume => volume
  | .volume15 => volume * s.link.dens / s.link.dens15 / 1000
  | .volume20 => volume * s.link.dens / s.link.dens20 / 1000

/-- `rStream::calcTotal` up to the call of `rTotal::calculate`. -/
def calcInc (s : Stream) : Total :=
  if s.maintenance then s.total.setInc 0
  else
    let t := s.total.setInc (toUDINT s.link.counter)
    if s.delimsValid then
      match s.flowmeter with
      | .coriolis => { t with inc := { t.inc with qty := s.massInc t.inc.count } }
      | _ => { t with inc := { t.inc with qty := s.volumeInc t.inc.count } }
    else t

/-- `rStream::calcTotal`. -/
def calcTotal (env : Env) (unit : ObjUnit) (s : Stream) : Stream :=
  { s with total := (s.calcInc.calculate env unit).1 }

/-- The flow rates at the end of `rStream::calculate`; without a valid divisor the old ones stay.
The reference densities are not checked: by a zero the rate is infinite, or no number. -/
def calcRates (s : Stream) (rates : Channel → Extended LREAL) : Channel → Extended LREAL :=
  let freq : Extended LREAL := s.link.freq
  let dens : Extended LREAL := s.link.dens
  let dens15 : Extended LREAL := s.link.dens15
  let dens20 : Extended LREAL := s.link.dens20
  let curKF : Extended LREAL := s.curKF
  let keypadMF : Extended LREAL := s.curFactor.keypadMF
  let sec : Extended LREAL := (3600 : LREAL)
  let thousand : Extended LREAL := (1000 : LREAL)
  match s.flowmeter with
  | .coriolis =>
      if isValidDelim s.curKF && isValidDelim s.link.dens then
        let mass := freq / curKF * sec * keypadMF
        fun
        | .mass => mass
        | .volume => mass / dens * thousand * keypadMF
        | .volume15 => mass / dens15 * thousand * keypadMF
        | .volume20 => mass / dens20 * thousand * keypadMF
      else rates
  | _ =>
      if isValidDelim s.curKF then
        let volume := freq / curKF * sec * keypadMF
        fun
        | .mass => volume * dens / thousand * keypadMF
        | .volume => volume
        | .volume15 => volume * dens / dens15 / thousand
        | .volume20 => volume * dens / dens20 / thousand
      else rates

/-- The flow rates of `calcRates` in `ℚ`: those which are divided by a zero reference density, and
are no numbers there, are zero here. -/
def calcFlow (s : Stream) : Channel → LREAL :=
  match s.flowmeter with
  | .coriolis =>
      if isValidDelim s.curKF && isValidDelim s.link.dens then
        let mass := s.link.freq / s.curKF * 3600 * s.curFactor.keypadMF
        fun
        | .mass => mass
        | .volume => mass / s.link.dens * 1000 * s.curFactor.keypadMF
        | .volume15 => mass / s.link.dens15 * 1000 * s.curFactor.keypadMF
        | .volume20 => mass / s.link.dens20 * 1000 * s.curFactor.keypadMF
      else s.flow
  | _ =>
      if isValidDelim s.curKF then
        let volume := s.link.freq / s.curKF * 3600 * s.curFactor.keypadMF
        fun
        | .mass => volume * s.link.dens / 1000 * s.curFactor.keypadMF
        | .volume => volume
        | .volume15 => volume * s.link.dens / s.link.dens15 / 1000
        | .volume20 => volume * s.link.dens / s.link.dens20 / 1000
      else s.flow

/-- The commands at the start of a cycle: the factors set are accepted, the totals reset. -/
def commands (s : Stream) : Stream :=
  let s₁ := if s.acceptKF then { s with curFactor := s.setFactor, acceptKF := false } else s
  if s₁.resetTotals then { s₁ with total := s₁.total.reset, resetTotals := false } else s₁

/-- The commands and the K-factor of a cycle, before `calcTotal`. -/
def prepare (s : Stream) : Stream :=
  let s₁ := s.commands
  { s₁ with curKF := s₁.calcualateKF }

/-- `rStream::calculate`. -/
def calculate (env : Env) (unit : ObjUnit) (s : Stream) : Stream :=
  if s.isCalc then s
  else
    let s₁ := ({ s with isCalc := true }.prepare).calcTotal env unit
    { s₁ with flow := s₁.calcFlow }

/-- The value of the output link of a parameter. -/
def param (s : Stream) : Param → LREAL
  | .temp => s.link.temp
  | .pres => s.link.pres
  | .dens => s.link.dens

/-- `rSource::getValue` of a stream that is calculated, in the unit asked for. -/
def getValue (units : UnitsTable) (s : Stream) (p : Param) (unit : UInt32) : LREAL :=
  (convertValue units (s.param p) (s.paramUnit p) unit).1

/-- `rSource::preCalculate`, the operator's writes and the values of the links of a scan. -/
def load (s : Stream) (inp : StreamInput) : Stream :=
  { s with
    isCalc := false, link := inp.link, maintenance := inp.maintenance,
    linearization := inp.linearization, resetTotals := inp.resetTotals,
    acceptKF := inp.acceptKF, setFactor := inp.setFactor }

/-! ### What one cycle does to the totals -/

/-- The increment that the cycle from `s` adds to the totals. -/
def increment (s : Stream) : BaseTotal := s.prepare.calcInc.inc

variable (env : Env) (unit : ObjUnit) (s : Stream)

@[simp] lemma commands_maintenance : s.commands.maintenance = s.maintenance := by
  simp only [commands]; split_ifs <;> rfl

@[simp] lemma commands_link : s.commands.link = s.link := by
  simp only [commands]; split_ifs <;> rfl

@[simp] lemma commands_linearization : s.commands.linearization = s.linearization := by
  simp only [commands]; split_ifs <;> rfl

@[simp] lemma prepare_maintenance : s.prepare.maintenance = s.maintenance := by
  simp [prepare]

lemma prepare_total (h : s.resetTotals = false) : s.prepare.total = s.total := by
  cases ha : s.acceptKF <;> simp [prepare, commands, h, ha]

lemma prepare_isCalc (b : Bool) :
    ({ s with isCalc := b } : Stream).prepare = { s.prepare with isCalc := b } := by
  cases ha : s.acceptKF <;> cases hr : s.resetTotals <;>
    simp [prepare, commands, ha, hr, calcualateKF]

lemma calcInc_eq : s.calcInc = { s.total with inc := s.calcInc.inc } := by
  rw [calcInc]
  split_ifs
  · rfl
  · cases s.flowmeter <;> rfl
  · rfl

/-- The totals of a cycle without a reset: one cycle of the totals with the increment. -/
lemma calculate_total (hc : s.isCalc = false) (hr : s.resetTotals = false) :
    (s.calculate env unit).total
      = (({ s.total with inc := s.increment } : Total).calculate env unit).1 := by
  have h : ({ s.prepare with isCalc := true } : Stream).calcInc
      = { s.total with inc := s.increment } := by
    rw [← prepare_total s hr]
    exact calcInc_eq s.prepare
  rw [calculate, if_neg (by simp [hc])]
  simp only [calcTotal, prepare_isCalc, h]

lemma calcInc_count (hm : s.maintenance = false) :
    s.calcInc.inc.count = toUDINT s.link.counter := by
  rw [calcInc, if_neg (by simp [hm])]
  split_ifs
  · cases s.flowmeter <;> rfl
  · rfl

@[simp] lemma prepare_link : s.prepare.link = s.link := by
  simp only [prepare, commands]; split_ifs <;> rfl

/-- A stream in accounting takes the pulses of its counter link. -/
lemma calculate_count (hc : s.isCalc = false) (hm : s.maintenance = false) :
    (s.calculate env unit).total.inc.count = toUDINT s.link.counter := by
  have h := calcInc_count ({ s with isCalc := true } : Stream).prepare (by simpa using hm)
  rw [prepare_link] at h
  rw [calculate, if_neg (by simp [hc])]
  exact h

@[simp] lemma calculate_maintenance : (s.calculate env unit).maintenance = s.maintenance := by
  rw [calculate]
  split_ifs
  · rfl
  · simp [calcTotal]

end Stream

end Tritonn
