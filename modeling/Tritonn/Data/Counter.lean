import Tritonn.Io.ModuleFI4
import Tritonn.Data.Stream

/-!
`src/tritonn/data/counter.cpp`: a pulse counter over a channel of a frequency module.

`calculate` takes the pulses since the last scan into `impulse` when the polling number of the
module is new, and keeps the value of the last scan otherwise.
-/

namespace Tritonn

/-- `rCounter`. -/
structure Counter where
  isCalc : Bool
  isOff : Bool
  isSetModule : Bool
  channel : UInt8
  freq : LREAL
  period : LREAL
  impulse : LREAL
  count : UInt32
  isInit : Bool
  countPrev : UInt32
  pullingCount : UInt32

namespace Counter

/-! ### The functions of the source -/

/-- `rCounter::getPeriod`. -/
def getPeriod (freq : LREAL) : LREAL := if 1 / 100 < freq then 1000000 / freq else 0

/-- `rCounter::clear`. -/
def clear (c : Counter) : Counter := { c with freq := 0, period := 0, impulse := 0 }

/-- The end of `calculate`, with the pulse count and the polling number of the module. -/
def takePulses (c : Counter) (count curpulling : UInt32) : Counter :=
  if !c.isInit then { c with impulse := 0, countPrev := count, isInit := true }
  else if c.pullingCount ≠ curpulling then
    { c with
      impulse := (count - c.countPrev).toNat, countPrev := count, pullingCount := curpulling }
  else c

/-- `rCounter::calculate`, where `none` is a module without the interface of frequency inputs.
The second result is the error with which the scan is halted. -/
def calculate (c : Counter) (interface : Option FIRead) : Counter × Option RealtimeError :=
  if c.isCalc then (c, none)
  else
    let c := { c with isCalc := true }
    if c.isOff then
      ({ c with count := 0, isInit := false, freq := 0, period := 0, impulse := 0 }, none)
    else if !c.isSetModule then (c, none)
    else
      match interface with
      | none => (c.clear, some .moduleLink)
      | some fi =>
          if fi.isFault then (c.clear, none)
          else if fi.fault.isSome then (c.clear, fi.fault)
          else
            ({ c with freq := fi.freq, period := getPeriod fi.freq }.takePulses fi.value
              fi.pulling, none)

/-- `rSource::preCalculate`. -/
def preCalculate (c : Counter) : Counter := { c with isCalc := false }

variable {c : Counter}

/-- The first count is only remembered. -/
lemma takePulses_init (h : c.isInit = false) (count pulling : UInt32) :
    c.takePulses count pulling = { c with impulse := 0, countPrev := count, isInit := true } := by
  simp [takePulses, h]

/-- A new polling number takes the pulses since the last one. -/
lemma takePulses_new (h : c.isInit = true) {count pulling : UInt32}
    (hp : c.pullingCount ≠ pulling) :
    c.takePulses count pulling
      = { c with
          impulse := (count - c.countPrev).toNat
          countPrev := count
          pullingCount := pulling } := by
  simp [takePulses, h, hp]

/-- Under the same polling number the pulses of the last scan stay. -/
lemma takePulses_same (h : c.isInit = true) {count pulling : UInt32}
    (hp : c.pullingCount = pulling) : c.takePulses count pulling = c := by
  simp [takePulses, h, hp]

/-! ### A counter linked to a channel -/

/-- A counter in use: the signal is on and linked to a channel of the module. -/
structure Linked (c : Counter) : Prop where
  isOff : c.isOff = false
  isSetModule : c.isSetModule = true
  channel : c.channel.toNat < 4

variable (m : ModuleFI4) (ps₀ ps₁ : List FIPoll)

/-- The counter after a scan, over the module as the scan sees it. -/
def scan (c : Counter) (m : ModuleFI4) (ps₀ ps₁ : List FIPoll) : Counter :=
  (c.preCalculate.calculate (some (.ofModule m c.channel ps₀ ps₁))).1

/-- A scan of a faulty module clears the outputs. -/
lemma scan_fault (h : c.Linked) (hm : m.isFault = true) :
    c.scan m ps₀ ps₁ = { c with isCalc := true, freq := 0, period := 0, impulse := 0 } := by
  simp [scan, preCalculate, calculate, FIRead.ofModule, h.isOff, h.isSetModule, hm, clear]

/-- A scan of a module in work takes the pulses. -/
lemma scan_work (h : c.Linked) (hm : m.isFault = false) :
    ∃ freq period, c.scan m ps₀ ps₁
      = ({ c with isCalc := true, freq := freq, period := period } : Counter).takePulses
          ((m.polls ps₀).getValue c.channel) ((m.polls ps₀).polls ps₁).pulling := by
  have hch : ModuleFI4.checkChannelAccess c.channel = none := by
    simp [ModuleFI4.checkChannelAccess, h.channel]
  exact ⟨_, _, by
    simp [scan, preCalculate, calculate, FIRead.ofModule, h.isOff, h.isSetModule, hm, hch]; rfl⟩

/-- The pulses after a scan of a module in work. -/
lemma scan_pulses (h : c.Linked) (hm : m.isFault = false) :
    let c' := c.takePulses ((m.polls ps₀).getValue c.channel) ((m.polls ps₀).polls ps₁).pulling
    (c.scan m ps₀ ps₁).isInit = c'.isInit ∧ (c.scan m ps₀ ps₁).impulse = c'.impulse ∧
      (c.scan m ps₀ ps₁).countPrev = c'.countPrev := by
  obtain ⟨freq, period, hs⟩ := scan_work m ps₀ ps₁ h hm
  rw [hs, takePulses, takePulses]
  split_ifs <;> exact ⟨rfl, rfl, rfl⟩

/-- A scan leaves the configuration of the counter. -/
lemma scan_linked (h : c.Linked) :
    (c.scan m ps₀ ps₁).Linked ∧ (c.scan m ps₀ ps₁).channel = c.channel := by
  cases hm : m.isFault with
  | true => rw [scan_fault m ps₀ ps₁ h hm]; exact ⟨⟨h.1, h.2, h.3⟩, rfl⟩
  | false =>
      obtain ⟨freq, period, hs⟩ := scan_work m ps₀ ps₁ h hm
      rw [hs, takePulses]
      split_ifs <;> exact ⟨⟨h.1, h.2, h.3⟩, rfl⟩

end Counter

end Tritonn
