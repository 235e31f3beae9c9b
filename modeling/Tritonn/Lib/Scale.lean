import Mathlib

/-!
Affine scales of one quantity.

A `Scale` gives a value of the base scale as `offset + base * factor`.  `fromBase` and `toBase` go
from the base to the scale and back, and `convert` from one scale to another through the base; such
conversions compose, and each is undone by the one in the other direction.
-/

/-- A scale of a quantity; the factor is not zero. -/
structure Scale (K : Type*) [Zero K] where
  offset : K
  factor : K
  factor_ne_zero : factor ≠ 0

namespace Scale

variable {K : Type*} [Field K] (u v w : Scale K) (x y : K)

/-- The value on the scale of a value on the base. -/
def fromBase : K := u.offset + x * u.factor

/-- The value on the base of a value on the scale. -/
def toBase : K := (x - u.offset) / u.factor

variable (K) in
/-- The base as a scale of its own. -/
def base : Scale K := ⟨0, 1, one_ne_zero⟩

@[simp] lemma fromBase_base : (base K).fromBase x = x := by simp [base, fromBase]

@[simp] lemma toBase_base : (base K).toBase x = x := by simp [base, toBase]

@[simp] lemma toBase_fromBase : u.toBase (u.fromBase x) = x := by
  rw [toBase, fromBase, add_sub_cancel_left, mul_div_cancel_right₀ x u.factor_ne_zero]

@[simp] lemma fromBase_toBase : u.fromBase (u.toBase x) = x := by
  rw [fromBase, toBase, div_mul_cancel₀ _ u.factor_ne_zero, add_sub_cancel]

lemma fromBase_inj {x y : K} : u.fromBase x = u.fromBase y ↔ x = y :=
  ⟨fun h => by rw [← u.toBase_fromBase x, h, toBase_fromBase], fun h => h ▸ rfl⟩

/-- From one scale to another. -/
def convert : K := v.fromBase (u.toBase x)

@[simp] lemma convert_self : u.convert u x = x := u.fromBase_toBase x

@[simp] lemma toBase_convert : v.toBase (u.convert v x) = u.toBase x := v.toBase_fromBase _

/-- Two conversions in a row are one. -/
lemma convert_convert : v.convert w (u.convert v x) = u.convert w x := by
  rw [convert, toBase_convert, convert]

/-- A conversion is undone by the one back. -/
lemma convert_symm : v.convert u (u.convert v x) = x := by
  rw [convert_convert, convert_self]

end Scale
