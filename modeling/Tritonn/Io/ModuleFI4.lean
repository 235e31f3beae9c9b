import Tritonn.Shared.Common

/-!
`src/tritonn/io/basemodule.cpp` and `src/tritonn/io/module_fi4.cpp`: a module of four frequency
inputs.

`processing` is one poll of the module by the thread of the I/O manager.  The other threads hold a
pointer to the module and ask it while polls go on, so that two questions of one scan can be
answered by two states of the module: `FIRead.ofModule` collects the answers.
-/

namespace Tritonn

/-- The errors of an access to a module, `DATACFGERR_REALTIME_*`. -/
inductive RealtimeError where
  | moduleLink
  | channelLink
  deriving DecidableEq, Repr

/-- `rIOFIChannel`, a channel as the poll leaves it. -/
structure FIChannel where
  freq : LREAL
  counter : UInt32

/-- `rModuleFI4`. -/
structure ModuleFI4 where
  isFault : Bool
  pulling : UInt32
  channel : Fin 4 → FIChannel

/-- What the hardware answers to a poll: whether the module is in work, and its channels. -/
structure FIPoll where
  inWork : Bool
  channel : Fin 4 → FIChannel

namespace ModuleFI4

/-- `rModuleFI4::processing`. -/
def processing (m : ModuleFI4) (p : FIPoll) : ModuleFI4 where
  isFault := !p.inWork
  pulling := if p.inWork then m.pulling + 1 else m.pulling
  channel := p.channel

/-- Several polls in a row. -/
def polls (m : ModuleFI4) (ps : List FIPoll) : ModuleFI4 := ps.foldl processing m

@[simp] lemma polls_nil (m : ModuleFI4) : m.polls [] = m := rfl

/-- `rModuleFI4::checkChannelAccess`; all channels are frequency inputs. -/
def checkChannelAccess (num : UInt8) : Option RealtimeError :=
  if 4 ≤ num.toNat then some .channelLink else none

/-- `rModuleFI4::getValue`. -/
def getValue (m : ModuleFI4) (num : UInt8) : UInt32 :=
  if h : num.toNat < 4 then (m.channel ⟨num.toNat, h⟩).counter else 1

/-- `rModuleFI4::getFreq`. -/
def getFreq (m : ModuleFI4) (num : UInt8) : LREAL :=
  if h : num.toNat < 4 then (m.channel ⟨num.toNat, h⟩).freq else 0

end ModuleFI4

/-- The answers of a module to the questions of `rCounter::calculate`. -/
structure FIRead where
  isFault : Bool
  value : UInt32
  freq : LREAL
  fault : Option RealtimeError
  pulling : UInt32

/-- The answers of the module `m` when `ps₀` is polled behind the first question and `ps₁` before
the last one. -/
def FIRead.ofModule (m : ModuleFI4) (num : UInt8) (ps₀ ps₁ : List FIPoll) : FIRead where
  isFault := m.isFault
  value := (m.polls ps₀).getValue num
  freq := (m.polls ps₀).getFreq num
  fault := ModuleFI4.checkChannelAccess num
  pulling := ((m.polls ps₀).polls ps₁).pulling

end Tritonn
