import Tritonn.Io.ModuleFI4

/-!
`src/tritonn/io/module_crm.cpp`: the module of a prover, with four detectors and the frequency of
the line.

`getDetectors` shifts the bit of a detector by the value of its flag in `Detector`;
`getDetectors_eq` says where the four detectors stand in the result.
-/

namespace Tritonn

/-- `rIOBaseChannel::Type`, as far as the module has such channels. -/
inductive ChannelType where
  | di
  | fi
  deriving DecidableEq, Repr

/-- `DATACFGERR_REALTIME_MODULELINK`. -/
def realtimeModuleLink : UInt32 := 197

/-- `DATACFGERR_REALTIME_CHANNELLINK`. -/
def realtimeChannelLink : UInt32 := 198

/-- `DATACFGERR_REALTIME_WRONGCHANNEL`. -/
def realtimeWrongChannel : UInt32 := 199

/-- `rModuleCRM`, as the poll leaves it. -/
structure ModuleCRM where
  isFault : Bool
  channelDI : Fin 4 → UInt8
  channelFI : FIChannel

namespace ModuleCRM

/-- `Detector::Det1`. -/
def det1 : UInt16 := 0x0001

/-- `Detector::Det2`. -/
def det2 : UInt16 := 0x0002

/-- `Detector::Det3`. -/
def det3 : UInt16 := 0x0004

/-- `Detector::Det4`. -/
def det4 : UInt16 := 0x0008

/-- `rModuleCRM::getFreq`. -/
def getFreq (m : ModuleCRM) : LREAL := m.channelFI.freq

/-- The part of one channel in `getDetectors`. -/
def detectorBit (value : UInt8) (det : UInt16) : UInt16 := (if value ≠ 0 then 1 else 0) <<< det

/-- `rModuleCRM::getDetectors`. -/
def getDetectors (m : ModuleCRM) : UInt16 :=
  detectorBit (m.channelDI 0) det1 ||| detectorBit (m.channelDI 1) det2 |||
    detectorBit (m.channelDI 2) det3 ||| detectorBit (m.channelDI 3) det4

/-- `rModuleCRM::getValue`: the value or the fault. -/
def getValue (m : ModuleCRM) (num : ℕ) (type : ChannelType) : Except UInt32 UInt32 :=
  if 5 ≤ num then .error realtimeChannelLink
  else if h : num < 4 then
    if type = .di then .ok (m.channelDI ⟨num, h⟩).toUInt32 else .error realtimeWrongChannel
  else if type = .fi then .ok m.channelFI.counter else .error realtimeWrongChannel

/-- The detectors are the bits 1, 2, 4 and 8 of the result, not its bits 0 to 3. -/
lemma getDetectors_eq (m : ModuleCRM) :
    m.getDetectors = (if m.channelDI 0 ≠ 0 then 2 else 0) ||| (if m.channelDI 1 ≠ 0 then 4 else 0)
      ||| (if m.channelDI 2 ≠ 0 then 16 else 0) ||| (if m.channelDI 3 ≠ 0 then 256 else 0) := by
  have hbit (value : UInt8) {det : UInt16} (h : 0 <<< det = 0) :
      detectorBit value det = if value ≠ 0 then 1 <<< det else 0 := by
    rw [detectorBit]
    split_ifs
    · rfl
    · exact h
  simp only [getDetectors, hbit _ (show 0 <<< det1 = 0 from rfl),
    hbit _ (show 0 <<< det2 = 0 from rfl), hbit _ (show 0 <<< det3 = 0 from rfl),
    hbit _ (show 0 <<< det4 = 0 from rfl)]
  rfl

@[simp] lemma getValue_four (m : ModuleCRM) : m.getValue 4 .fi = .ok m.channelFI.counter := rfl

end ModuleCRM

end Tritonn
