import Tritonn.Lib.Wrap

/-!
`src/shared/def.h`, `src/shared/common.cpp` and `src/tritonn/precision.cpp`: the constants, the
rounding of totals and the table of display precisions.

`LREAL` is the rationals: the quantities of the program are computed exactly, so that a statement
is about the formulas and not about binary floating point.  `round` is `Round`, whose table has
six multipliers while its index is capped at six: the entry behind the table is a parameter of
the model (`Env.mulEnd`), the number that happens to lie there.
-/

namespace Tritonn

open Wrap (roundHalf roundHalf_zero)

/-- The type `LREAL`, read as the exact rationals. -/
abbrev LREAL := ℚ

/-- The number of an event, `EID_*`; zero is `EID_UNDEF`. -/
abbrev EID := UInt32

/-- `MAX_TOTAL_LIMIT`, the limit at which a total starts again from zero. -/
def maxTotalLimit : LREAL := 9999999999.99999

/-- `COMPARE_LREAL_PREC`. -/
def compareLrealPrec : LREAL := 1 / 10 ^ 10

/-- `isValidDelim`: the values that may stand under a division. -/
def isValidDelim (value : LREAL) : Bool := compareLrealPrec < |value|

/-- `rPrecision`: the display precision of each of the 512 units and the default. -/
structure Precision where
  unitPrec : Fin 512 → UInt8
  defPrec : UInt8

/-- `rPrecision::get`. -/
def Precision.get (p : Precision) (unit : UInt32) : UInt8 :=
  if h : unit.toNat < 512 then p.unitPrec ⟨unit.toNat, h⟩ else p.defPrec

/-- What rounding depends on besides its arguments: the table of display precisions and the
number behind the table of multipliers. -/
structure Env where
  precision : Precision
  mulEnd : LREAL

/-- The table `mul` of `Round`. -/
def mul : List LREAL := [1, 10, 100, 1000, 10000, 100000]

/-- The index into the table: the precision, capped at six. -/
def mulIndex (prec : UInt8) : ℕ := if 6 < prec then 6 else prec.toNat

/-- `Round`: to the nearest multiple of `10 ^ (-prec)`, halves away from zero. -/
def round (env : Env) (val : LREAL) (prec : UInt8) : LREAL :=
  let m := mul.getD (mulIndex prec) env.mulEnd
  if val = 0 then val
  else (if val < 0 then (⌈val * m - 1 / 2⌉ : LREAL) else (⌊val * m + 1 / 2⌋ : LREAL)) / m

/-- Five digits behind the point, the grid on which totals are kept. -/
lemma round_five (env : Env) {val : LREAL} (h : 0 ≤ val) :
    round env val 5 = roundHalf 100000 val := by
  have hm : mul.getD (mulIndex 5) env.mulEnd = 100000 := rfl
  rcases eq_or_ne val 0 with rfl | h0
  · rw [round, if_pos rfl, roundHalf_zero]
  · simp only [round, hm, if_neg h0, if_neg (not_lt.mpr h), roundHalf]

lemma maxTotalLimit_pos : 0 < maxTotalLimit := by norm_num [maxTotalLimit]

/-- The limit is itself a multiple of `0.00001`. -/
lemma maxTotalLimit_mem : maxTotalLimit ∈ AddSubgroup.zmultiples (1 / 100000 : LREAL) :=
  AddSubgroup.mem_zmultiples_iff.mpr ⟨999999999999999, by norm_num [maxTotalLimit]⟩

end Tritonn
