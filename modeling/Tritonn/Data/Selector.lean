import Tritonn.Shared.TickCount

/-!
`src/tritonn/data_selector.cpp`: the selector, which passes one of its inputs on.

* `Selector` is the selector, single or multi, `SelectorInput` what reaches it before a cycle: the
  writes of the operator and the values of its links;
* `loadInputs` is the part of `loadFromXML` that counts the inputs;
* `calculate` is `rSelector::calculate`, and `scan` one scan of the data manager.

The arrays of the inputs have four places, of which a loaded selector uses two or three
(`lt_of_loadInputs`), so that an index one past the last input still lies in them: `valueIn` is
total there, and no fault is counted for the places behind the inputs.
-/

namespace Tritonn

/-- `rSelector::MAX_INPUTS`. -/
def maxInputs : ℕ := 4

namespace SelectorSetup

/-- `Setup::OFF`. -/
def off : UInt16 := 0x0001

end SelectorSetup

namespace SelectorMode

/-- `Mode::NOCHANGE`. -/
def noChange : UInt16 := 1

/-- `Mode::TOERROR`. -/
def toError : UInt16 := 2

/-- `Mode::CHANGEPREV`. -/
def changePrev : UInt16 := 3

/-- `Mode::CHANGENEXT`. -/
def changeNext : UInt16 := 4

end SelectorMode

/-- The events of a selector, `EID_SELECTOR_*`, with what is written into them. -/
inductive SelectorEvent where
  | selected (value saved : ℤ)
  | mode (value saved : UInt16)
  | error (select : ℤ)
  | noChange (select : ℤ)
  | clearError (select : ℤ)
  | toFault (select : ℤ)
  | nothingNext (select : ℤ)
  | toNext (select : ℤ)
  deriving DecidableEq, Repr

/-- `rCmpINT`. -/
structure CmpINT where
  value : ℤ
  saved : ℤ
  deriving DecidableEq, Repr

/-- `rCompared::Init`. -/
def CmpINT.init (value : ℤ) : CmpINT := ⟨value, value⟩

/-- What `rCompared::Compare` leaves behind. -/
def CmpINT.compare (c : CmpINT) : CmpINT := .init c.value

/-- An output of a selector: its value and its unit. -/
structure SelectorOut where
  value : LREAL
  unit : UInt32

/-- `rSelector`, with the bit `SELECTOR_LE_NOCHANGE` of `m_lockErr` and what the last cycle sent. -/
structure Selector where
  isCalc : Bool := false
  fault : ℕ := 0
  lockNoChange : Bool := false
  keypad : ℕ → SelectorOut
  valueOut : ℕ → SelectorOut
  setup : UInt16 := 0
  mode : CmpUINT := ⟨SelectorMode.changeNext, SelectorMode.changeNext⟩
  select : CmpINT := .init (-1)
  countInputs : ℕ
  countGroups : ℕ := 1
  out : List SelectorEvent := []

/-- What reaches a selector before a cycle: the variables that an operator wrote, the values and
units of the inputs and the values of their fault links, by the place and the group. -/
structure SelectorInput where
  select : Option Int16 := none
  mode : Option UInt16 := none
  keypad : Option (ℕ → LREAL) := none
  valueIn : ℕ → ℕ → SelectorOut
  faultIn : ℕ → ℕ → LREAL

/-! ### The configuration -/

/-- The loop over the inputs in `loadFromXML`, with those that can be loaded; the limit is looked at
behind the count. -/
def loadInputs : List Bool → ℕ → Option ℕ
  | [], ii => if ii < 2 then none else some ii
  | ok :: l, ii =>
      if !ok then none
      else if maxInputs ≤ ii + 1 then none
      else loadInputs l (ii + 1)

/-- A loaded selector has two or three inputs. -/
lemma lt_of_loadInputs {l : List Bool} {ii n : ℕ} (hii : ii < maxInputs)
    (h : loadInputs l ii = some n) : 2 ≤ n ∧ n < maxInputs := by
  induction l generalizing ii with
  | nil =>
      rw [loadInputs] at h
      split_ifs at h with hlt
      cases h
      exact ⟨not_lt.mp hlt, hii⟩
  | cons ok l ih =>
      rw [loadInputs] at h
      split_ifs at h with hok hmax
      exact ih (not_le.mp hmax) h

namespace Selector

/-! ### A cycle -/

/-- `rEventManager::add`. -/
def event (s : Selector) (e : SelectorEvent) : Selector := { s with out := s.out ++ [e] }

/-- `faultGrp`: the number of the faults of an input over the groups. -/
def faultGrp (s : Selector) (i : SelectorInput) (ii : ℕ) : ℕ :=
  if ii < s.countInputs then (List.range s.countGroups).countP fun grp => i.faultIn ii grp != 0
  else 0

/-- The comparisons with the values of the last cycle. -/
def compare (s : Selector) : Selector :=
  let s₁ :=
    if s.select.value ≠ s.select.saved then s.event (.selected s.select.value s.select.saved) else s
  let s₂ := if s.mode.isDiff then s₁.event (.mode s.mode.value s.mode.saved) else s₁
  { s₂ with select := s.select.compare, mode := s.mode.compare }

/-- A selection that is no input is an error. -/
def checkSelect (s : Selector) : Selector :=
  if (s.countInputs : ℤ) ≤ s.select.value ∨ s.select.value < -1 then
    { s.event (.error s.select.value) with select := .init (-1), fault := 1 }
  else s

/-- One step of the loop over the inputs, with its wrap at both ends. -/
def stepSelect (s : Selector) (v : ℤ) : ℤ :=
  let v := v + if s.mode.value = SelectorMode.changeNext then 1 else -1
  let v := if v < 0 then (s.countInputs : ℤ) - 1 else v
  if (s.countInputs : ℤ) < v then 0 else v

/-- The `do` loop over the inputs, with the number of steps that may follow the first one. -/
def walk (s : Selector) (i : SelectorInput) : ℕ → ℤ → ℤ
  | 0, v => s.stepSelect v
  | count + 1, v =>
      let v := s.stepSelect v
      if s.faultGrp i v.toNat ≠ 0 then s.walk i count v else v

/-- The value of the selection is written. -/
def setSelect (s : Selector) (v : ℤ) : Selector := { s with select.value := v }

/-- The branch `default` of the `switch` over the mode. The loop goes on while its count is below
`CountInputs - 2`. -/
def change (i : SelectorInput) (s : Selector) : Selector :=
  let s := { s with lockNoChange := false }
  let v := s.walk i (s.countInputs - 3) s.select.value
  if s.faultGrp i v.toNat ≠ 0 then (s.event (.nothingNext v)).setSelect (-1)
  else (s.setSelect v).event (.toNext v)

/-- The `switch` over the mode when the selected input is at fault. The branch of `TOERROR` goes on
into the branch `default`. -/
def failover (i : SelectorInput) (s : Selector) : Selector :=
  if s.mode.value = SelectorMode.noChange then
    if s.lockNoChange then s
    else { s.event (.noChange s.select.value) with lockNoChange := true }
  else if s.mode.value = SelectorMode.toError then
    { (s.event (.toFault s.select.value)).setSelect (-1) with fault := 1 }.change i
  else s.change i

/-- The automatic changes of the selection. -/
def transitions (i : SelectorInput) (s : Selector) : Selector :=
  if s.select.value = -1 then s
  else if s.faultGrp i s.select.value.toNat ≠ 0 then s.failover i
  else if s.lockNoChange then
    { s.event (.clearError s.select.value) with lockNoChange := false }
  else s

/-- The outputs are written from the selected input, and the fault with them. -/
def output (i : SelectorInput) (s : Selector) : Selector :=
  { s with
    valueOut := fun grp =>
      if grp < s.countGroups then
        if s.select.value = -1 then s.keypad grp else i.valueIn s.select.value.toNat grp
      else s.valueOut grp
    fault := if s.select.value = -1 then 1 else s.faultGrp i s.select.value.toNat }

/-- The selector is switched off. -/
def isOff (s : Selector) : Bool := s.setup &&& SelectorSetup.off != 0

/-- `rSelector::calculate`. -/
def calculate (i : SelectorInput) (s : Selector) : Selector :=
  if s.isCalc then s
  else
    let s := { s with isCalc := true, fault := 0 }
    if s.isOff then s else (s.compare.checkSelect.transitions i).output i

/-- What is done to a selector before a scan: the writes of the operator and
`rSource::preCalculate`. -/
def load (s : Selector) (i : SelectorInput) : Selector :=
  { s with
    isCalc := false, out := [],
    select.value := (i.select.map Int16.toInt).getD s.select.value
    mode.value := i.mode.getD s.mode.value
    keypad := fun grp =>
      { s.keypad grp with value := (i.keypad.map (· grp)).getD (s.keypad grp).value } }

/-- One scan of the data manager. -/
def scan (s : Selector) (i : SelectorInput) : Selector := (s.load i).calculate i

end Selector

end Tritonn
