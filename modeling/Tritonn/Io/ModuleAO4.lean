import Tritonn.Io.ModuleFI4

/-!
`src/tritonn/io/ao_channel.cpp` and `src/tritonn/io/module_ao4.cpp`: a module of four analogue
outputs.

A poll copies the codes of the channels into the data for the hardware and then limits them to
their range, so that a code is sent as it was set (`processing_setValue`).
-/

namespace Tritonn

/-- `rIOAOChannel`; the code is `m_ADC` in the source. -/
structure AOChannel where
  adc : UInt16 := 0
  regime : UInt16 := 0
  deriving DecidableEq, Repr

namespace AOChannel

/-- `Regime::REDUCED_DAC`. -/
def reducedDAC : UInt16 := 0

/-- `rIOAOChannel::getMinValue`. -/
def getMinValue (c : AOChannel) : UInt16 := if c.regime = reducedDAC then 0 else 4000

/-- `rIOAOChannel::getMaxValue`. -/
def getMaxValue (c : AOChannel) : UInt16 := if c.regime = reducedDAC then 65535 else 24000

/-- `rIOAOChannel::getRange`. -/
def getRange (c : AOChannel) : UInt16 := c.getMaxValue - c.getMinValue

/-- The first check of `processing`. -/
def limitMax (c : AOChannel) : AOChannel :=
  if c.getMaxValue < c.adc then { c with adc := c.getMaxValue } else c

/-- The second one. -/
def limitMin (c : AOChannel) : AOChannel :=
  if c.adc < c.getMinValue then { c with adc := c.getMinValue } else c

/-- `rIOAOChannel::processing`. -/
def processing (c : AOChannel) : AOChannel := c.limitMax.limitMin

/-- The two ranges of codes. -/
lemma range_cases (c : AOChannel) :
    c.getMinValue = 0 ∧ c.getRange = 65535 ∨ c.getMinValue = 4000 ∧ c.getRange = 20000 := by
  by_cases h : c.regime = reducedDAC
  · left
    rw [getRange, getMinValue, getMaxValue, if_pos h, if_pos h]
    decide
  · right
    rw [getRange, getMinValue, getMaxValue, if_neg h, if_neg h]
    decide

lemma getRange_pos (c : AOChannel) : 0 < c.getRange.toNat := by
  rcases c.range_cases with ⟨-, h⟩ | ⟨-, h⟩
  · rw [h]
    decide
  · rw [h]
    decide

end AOChannel

/-- `rModuleAO4`; `data` is `m_data.Write.Data`, which the next poll exchanges with the hardware. -/
structure ModuleAO4 where
  isFault : Bool
  channel : Fin 4 → AOChannel
  data : Fin 4 → UInt16

namespace ModuleAO4

/-- `rModuleAO4::checkChannelAccess`; all channels are analogue outputs. -/
def checkChannelAccess (num : UInt8) : Option RealtimeError :=
  if 4 ≤ num.toNat then some .channelLink else none

/-- The channel of a number. -/
def channel? (m : ModuleAO4) (num : UInt8) : Option AOChannel :=
  if h : num.toNat < 4 then some (m.channel ⟨num.toNat, h⟩) else none

/-- `rModuleAO4::setValue`. -/
def setValue (m : ModuleAO4) (num : UInt8) (value : UInt16) : ModuleAO4 :=
  if h : num.toNat < 4 then
    { m with
      channel := Function.update m.channel ⟨num.toNat, h⟩
        { m.channel ⟨num.toNat, h⟩ with adc := value } }
  else m

/-- `rModuleAO4::processing` with the hardware. -/
def processing (m : ModuleAO4) (inWork : Bool) : ModuleAO4 where
  isFault := !inWork
  channel i := if inWork then (m.channel i).processing else m.channel i
  data i := if inWork then (m.channel i).adc else m.data i

/-- The next poll copies a code that was set, whether it is in the range or not. -/
theorem processing_setValue (m : ModuleAO4) (num : Fin 4) (value : UInt16) :
    ((m.setValue (.ofNat num) value).processing true).data num = value := by
  have hnum : (UInt8.ofNat num).toNat = num := by
    rw [UInt8.toNat_ofNat']
    omega
  have hlt : (UInt8.ofNat num).toNat < 4 := by rw [hnum]; exact num.isLt
  have hfin : (⟨(UInt8.ofNat num).toNat, hlt⟩ : Fin 4) = num := Fin.ext hnum
  rw [setValue, dif_pos hlt, hfin]
  simp [processing]

end ModuleAO4

end Tritonn
