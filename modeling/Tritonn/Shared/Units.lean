import Tritonn.Shared.Common

/-!
`src/tritonn/units.cpp`: units of measurement and the conversion between them.

A unit is the number of its name; the low four bits select it within a group, and the unit with
zero there is the base of the group.  The table gives for each unit its value as `A + B * base`.
-/

namespace Tritonn

/-- `U_any`, which is converted to and from everything unchanged. -/
def uAny : UInt32 := 0

/-- `U_DIMLESS`, the first number that is no unit of a group, and the length of the table. -/
def uDimless : UInt32 := 512

/-- `rUnits::rUnitsAB`, where `none` is NaN: the mark of a number that is no unit. -/
structure UnitsAB where
  A : Option LREAL
  B : Option LREAL

/-- `rUnits::UnitsTable`, with whatever lies behind it. -/
abbrev UnitsTable := UInt32 → UnitsAB

/-- `rUnits::Error`. -/
inductive UnitsError where
  | none
  | isnan
  | incompatibility
  deriving DecidableEq, Repr

/-- `rUnits::ConvertValue`.  The value is converted from its unit or to the other one; where both
units differ from the base only the second conversion remains, as in the source. -/
def convertValue (table : UnitsTable) (srcVal : LREAL) (srcUnit dstUnit : UInt32) :
    LREAL × UnitsError :=
  if srcUnit = dstUnit ∨ srcUnit = uAny ∨ dstUnit = uAny then (srcVal, .none)
  else
    match (table srcUnit).A, (table srcUnit).B, (table dstUnit).A, (table dstUnit).B with
    | some srcA, some srcB, some dstA, some dstB =>
        if uDimless ≤ srcUnit ∨ uDimless ≤ dstUnit ∨ srcUnit >>> 4 ≠ dstUnit >>> 4 then
          (srcVal, .incompatibility)
        else if dstUnit &&& 0x0F ≠ 0 then (dstA + srcVal * dstB, .none)
        else ((srcVal - srcA) / srcB, .none)
    | _, _, _, _ => (srcVal, .isnan)

end Tritonn
