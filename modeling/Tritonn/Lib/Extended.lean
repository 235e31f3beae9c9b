import Mathlib

/-!
The exact numbers of a field with two infinities and a value that is no number.

The operations and the comparisons are those of floating point without its rounding: what is no
number is neither less than, nor equal to, nor greater than anything (`not_nan_lt`, `not_lt_nan`),
an infinity less another one is no number, and zero has no sign.  Between two values that are
numbers or infinities the order is total (`not_lt_iff_le`).  The sums are those of a commutative
monoid, and zero divided by zero is no number (`zero_div_zero`).
-/

/-- A number, an infinity with its sign, or no number. -/
inductive Extended (K : Type*) where
  | nan
  | inf (neg : Bool)
  | fin (x : K)
  deriving DecidableEq, Repr

namespace Extended

variable {K : Type*}

instance : Coe K (Extended K) := ⟨fin⟩

/-- The value is not a number, nor an infinity. -/
def isNan : Extended K → Bool
  | nan => true
  | _ => false

@[simp] lemma isNan_nan : (nan : Extended K).isNan = true := rfl

@[simp] lemma isNan_inf (s : Bool) : (inf s : Extended K).isNan = false := rfl

@[simp] lemma isNan_fin (x : K) : (fin x).isNan = false := rfl

/-! ### The order -/

section Order

variable [LinearOrder K] {a b : Extended K} {x y : K}

/-- The comparison as a truth value. -/
def blt : Extended K → Extended K → Bool
  | fin x, fin y => x < y
  | fin _, inf t => !t
  | inf s, fin _ => s
  | inf s, inf t => s && !t
  | _, _ => false

instance : LT (Extended K) := ⟨fun a b => blt a b = true⟩

instance : LE (Extended K) := ⟨fun a b => blt a b = true ∨ a = b ∧ a.isNan = false⟩

instance (a b : Extended K) : Decidable (a < b) := inferInstanceAs (Decidable (_ = true))

instance (a b : Extended K) : Decidable (a ≤ b) := inferInstanceAs (Decidable (_ ∨ _))

lemma lt_def : a < b ↔ blt a b = true := Iff.rfl

lemma le_def : a ≤ b ↔ a < b ∨ a = b ∧ a.isNan = false := Iff.rfl

lemma not_nan_lt : ¬ (nan : Extended K) < a := by simp [lt_def, blt]

lemma not_lt_nan : ¬ a < (nan : Extended K) := by cases a <;> simp [lt_def, blt]

@[simp] lemma fin_lt_fin : fin x < fin y ↔ x < y := by simp [lt_def, blt]

@[simp] lemma fin_le_fin : fin x ≤ fin y ↔ x ≤ y := by
  rw [le_def, fin_lt_fin, le_iff_lt_or_eq]
  simp

@[simp] lemma inf_lt_fin (s : Bool) : (inf s : Extended K) < fin y ↔ s = true := by
  simp [lt_def, blt]

@[simp] lemma fin_lt_inf (t : Bool) : fin x < (inf t : Extended K) ↔ t = false := by
  simp [lt_def, blt]

@[simp] lemma inf_lt_inf (s t : Bool) :
    (inf s : Extended K) < inf t ↔ s = true ∧ t = false := by
  simp [lt_def, blt]

lemma isNan_of_lt (h : a < b) : a.isNan = false ∧ b.isNan = false := by
  cases a with
  | nan => exact absurd h not_nan_lt
  | inf s =>
      cases b with
      | nan => exact absurd h not_lt_nan
      | inf t => exact ⟨rfl, rfl⟩
      | fin y => exact ⟨rfl, rfl⟩
  | fin x =>
      cases b with
      | nan => exact absurd h not_lt_nan
      | inf t => exact ⟨rfl, rfl⟩
      | fin y => exact ⟨rfl, rfl⟩

lemma isNan_of_le (h : a ≤ b) : a.isNan = false ∧ b.isNan = false := by
  rcases le_def.mp h with hlt | ⟨rfl, hnan⟩
  · exact isNan_of_lt hlt
  · exact ⟨hnan, hnan⟩

/-- Between what is a number or infinite the order is total. -/
theorem not_lt_iff_le (ha : a.isNan = false) (hb : b.isNan = false) : ¬ a < b ↔ b ≤ a := by
  cases a with
  | nan => simp at ha
  | inf s =>
      cases b with
      | nan => simp at hb
      | inf t => cases s <;> cases t <;> simp [le_def]
      | fin y => cases s <;> simp [le_def]
  | fin x =>
      cases b with
      | nan => simp at hb
      | inf t => cases t <;> simp [le_def]
      | fin y => simp

protected theorem lt_trans {c : Extended K} (hab : a < b) (hbc : b < c) : a < c := by
  cases b with
  | nan => exact absurd hab not_lt_nan
  | inf t => cases a <;> cases c <;> simp_all [lt_def, blt]
  | fin y =>
      cases a with
      | nan => exact absurd hab not_nan_lt
      | inf s => cases c <;> simp_all [lt_def, blt]
      | fin x =>
          cases c with
          | nan => exact absurd hbc not_lt_nan
          | inf t => simp_all [lt_def, blt]
          | fin z => exact fin_lt_fin.mpr ((fin_lt_fin.mp hab).trans (fin_lt_fin.mp hbc))

end Order

/-! ### The operations -/

section Additive

variable [Field K] {a : Extended K}

instance : Neg (Extended K) where
  neg
    | nan => nan
    | inf s => inf (!s)
    | fin x => fin (-x)

instance : Add (Extended K) where
  add
    | fin x, fin y => fin (x + y)
    | fin _, inf t => inf t
    | inf s, fin _ => inf s
    | inf s, inf t => if s = t then inf s else nan
    | _, _ => nan

instance : Sub (Extended K) where
  sub a b := a + -b

instance : Zero (Extended K) := ⟨fin 0⟩

lemma zero_def : (0 : Extended K) = fin 0 := rfl

@[simp] lemma fin_eq_zero {x : K} : (fin x : Extended K) = 0 ↔ x = 0 := by
  rw [zero_def, fin.injEq]

@[simp] lemma fin_add_fin (x y : K) : (fin x + fin y : Extended K) = fin (x + y) := rfl

@[simp] lemma add_nan : a + (nan : Extended K) = nan := by cases a <;> rfl

@[simp] lemma nan_add : (nan : Extended K) + a = nan := by cases a <;> rfl

@[simp] lemma inf_add_fin (s : Bool) (y : K) : (inf s + fin y : Extended K) = inf s := rfl

@[simp] lemma fin_add_inf (x : K) (t : Bool) : (fin x + inf t : Extended K) = inf t := rfl

@[simp] lemma inf_add_inf (s t : Bool) :
    (inf s + inf t : Extended K) = if s = t then inf s else nan := rfl

instance : AddCommMonoid (Extended K) where
  add_assoc a b c := by
    cases a with
    | nan => simp
    | fin x =>
        cases b with
        | nan => simp
        | fin y => cases c <;> simp [add_assoc]
        | inf t =>
            cases c with
            | inf u => cases t <;> cases u <;> simp
            | _ => simp
    | inf s =>
        cases b with
        | nan => simp
        | fin y => cases c <;> simp
        | inf t =>
            cases c with
            | inf u => cases s <;> cases t <;> cases u <;> simp
            | _ => cases s <;> cases t <;> simp
  zero_add a := by cases a <;> simp [zero_def]
  add_zero a := by cases a <;> simp [zero_def]
  add_comm a b := by
    cases a with
    | nan => simp
    | fin x => cases b <;> simp [add_comm]
    | inf s =>
        cases b with
        | inf t => cases s <;> cases t <;> simp
        | _ => simp
  nsmul := nsmulRec

@[simp] lemma nan_sub : (nan : Extended K) - a = nan := by cases a <;> rfl

@[simp] lemma sub_nan : a - (nan : Extended K) = nan := by cases a <;> rfl

@[simp] lemma fin_sub_inf (x : K) (t : Bool) : fin x - inf t = inf (!t) := rfl

@[simp] lemma inf_sub_inf (s t : Bool) :
    (inf s : Extended K) - inf t = if s = !t then inf s else nan := rfl

end Additive

section Multiplicative

variable [Field K] [LinearOrder K] {a : Extended K}

/-- An infinity by a number. -/
def scaleInf (s : Bool) (x : K) : Extended K := if x = 0 then nan else inf (s != decide (x < 0))

instance : Mul (Extended K) where
  mul
    | fin x, fin y => fin (x * y)
    | fin x, inf t => scaleInf t x
    | inf s, fin y => scaleInf s y
    | inf s, inf t => inf (s != t)
    | _, _ => nan

instance : Div (Extended K) where
  div
    | fin x, fin y => if y = 0 then scaleInf false x else fin (x / y)
    | fin _, inf _ => fin 0
    | inf s, fin y => inf (s != decide (y < 0))
    | _, _ => nan

@[simp] lemma fin_mul_fin (x y : K) : (fin x * fin y : Extended K) = fin (x * y) := rfl

lemma fin_div_fin {x y : K} (hy : y ≠ 0) : (fin x / fin y : Extended K) = fin (x / y) :=
  if_neg hy

/-- Zero divided by zero is no number. -/
@[simp] lemma zero_div_zero : (fin 0 / fin 0 : Extended K) = nan := by
  have h : (fin 0 / fin 0 : Extended K) = if (0 : K) = 0 then scaleInf false 0 else fin (0 / 0) :=
    rfl
  rw [h, if_pos rfl, scaleInf, if_pos rfl]

@[simp] lemma nan_mul : (nan : Extended K) * a = nan := by cases a <;> rfl

@[simp] lemma mul_nan : a * (nan : Extended K) = nan := by cases a <;> rfl

@[simp] lemma nan_div : (nan : Extended K) / a = nan := by cases a <;> rfl

/-- An infinity times a positive number. -/
lemma fin_mul_inf {x : K} (hx : 0 < x) (t : Bool) : fin x * inf t = inf t := by
  have h : fin x * inf t = scaleInf t x := rfl
  rw [h, scaleInf, if_neg hx.ne', decide_eq_false hx.not_gt, Bool.bne_false]

/-- An infinity by a positive number. -/
lemma inf_div_fin {y : K} (hy : 0 < y) (s : Bool) : inf s / fin y = inf s := by
  have h : inf s / fin y = inf (s != decide (y < 0)) := rfl
  rw [h, decide_eq_false hy.not_gt, Bool.bne_false]

end Multiplicative

end Extended
