import Tritonn.Shared.Hex
import Tritonn.Store.Access

/-!
Values as texts: `rSnapshotItem(var, string)` and `getValueString` of
`src/tritonn/data_snapshot_item.cpp`, and `rVariable::valueToString`.

`TextNumbers` keeps the conversions of the standard library that they use.
-/

namespace Tritonn

/-- The conversions between texts and numbers of the standard library: `none` stands for an
exception, the sixty-four bits for the number that `std::stoul` or `std::stol` returns, and the
bytes for a number in the memory. -/
structure TextNumbers where
  stoul : List UInt8 → Option UInt64
  stol : List UInt8 → Option UInt64
  stof : List UInt8 → Option (List UInt8)
  stod : List UInt8 → Option (List UInt8)
  /-- `static_cast<REAL>` of a `UDINT`. -/
  toReal : UInt32 → List UInt8
  /-- `String_format` with the format of the type. -/
  format : VType → List UInt8 → String

namespace SnapshotItem

/-- An item that is in `Status::ERROR`, with its data cleared. -/
def cleared (v : Variable) : SnapshotItem := ⟨some v, .error, List.replicate 8 0⟩

/-- The number of a hexadecimal text in the memory of a type. -/
def hexData (text : TextNumbers) (type : VType) (number : UInt32) : Option (List UInt8) :=
  match type with
  | .undef => none
  | .real => some (text.toReal number)
  | .lreal => some (leBytes 8 (floatBits 52 1023 number.toNat))
  | type => some (leBytes (getTypeSize type) number.toNat)

/-- The number of a decimal text in the memory of a type. -/
def decimalData (text : TextNumbers) (type : VType) (val : List UInt8) : Option (List UInt8) :=
  match type with
  | .undef => none
  | .usint | .uint | .udint | .strid =>
      (text.stoul val).map fun n => leBytes (getTypeSize type) n.toNat
  | .sint | .int | .dint => (text.stol val).map fun n => leBytes (getTypeSize type) n.toNat
  | .real => text.stof val
  | .lreal => text.stod val

/-- The bytes of `m_data`, which held `raw`, after the assignment of a value through a pointer to
its type. The number of a `STRID`, whose class has a virtual destructor, does not lie in them. -/
def assignData (raw : SnapshotItem) (type : VType) (data : List UInt8) : List UInt8 :=
  if type = .strid then raw.data.take (getTypeSize type) else data

/-- `rSnapshotItem(var, string)`, in a memory that held `raw`. -/
def ofString (text : TextNumbers) (raw : SnapshotItem) (var : Option Variable)
    (val : List UInt8) : SnapshotItem :=
  match var with
  | none => raw
  | some v =>
      if 3 ≤ val.length ∧ val[0]? = some 0x30 ∧ (val[1]? = some 0x78 ∨ val[1]? = some 0x58) then
        match isValidHex (val.drop 2) with
        | some number =>
            match hexData text v.type number with
            | some data => ⟨some v, .towrite, assignData raw v.type data⟩
            | none => cleared v
        -- The data of the item stays what the memory held.
        | none => ⟨some v, .towrite, raw.data.take (getTypeSize v.type)⟩
      else
        match decimalData text v.type (val.takeWhile (· ≠ 0)) with
        | some data => ⟨some v, .towrite, assignData raw v.type data⟩
        | none => cleared v

/-- `rSnapshotItem(var)`, in a memory that held `raw`. -/
def ofVar (raw : SnapshotItem) (var : Option Variable) : SnapshotItem :=
  ⟨var, .toassign, raw.data⟩

/-- `getValueString`: the text of the present value of the variable, not of the data of the
item. -/
def getValueString (text : TextNumbers) (st : VarStore) (item : SnapshotItem) : String :=
  match item.var with
  | none => ""
  | some v =>
      if item.status ≠ .assigned ∧ item.status ≠ .writed then ""
      else if v.type = .undef then ""
      else text.format v.type (st.value v)

end SnapshotItem

end Tritonn
