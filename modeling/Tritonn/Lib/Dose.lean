import Mathlib

/-!
Doses of a growing quantity.

`crossed I V` is the number of the positive multiples of `I` below `V`, the doses that a quantity
has crossed on its way from zero to `V`.  `lt_crossed_iff` determines it; a growth by less than a
dose crosses at most one of them (`crossed_add_le`), and a number of doses that is not above it is
within one of `V / I` if and only if it is that number (`abs_sub_le_one_iff`).
-/

namespace Dose

variable {K : Type*} [Field K] [LinearOrder K] [IsStrictOrderedRing K] [FloorSemiring K] {I V d : K}
  {n : ℕ}

/-- The number of the positive multiples of `I` below `V`. -/
def crossed (I V : K) : ℕ := ⌈V / I⌉₊ - 1

lemma lt_crossed_iff (hI : 0 < I) : n < crossed I V ↔ (n + 1) * I < V := by
  rw [crossed, Nat.lt_sub_iff_add_lt, Nat.lt_ceil, lt_div_iff₀ hI]
  push_cast
  rfl

lemma crossed_le_iff (hI : 0 < I) : crossed I V ≤ n ↔ V ≤ (n + 1) * I := by
  rw [← not_lt, lt_crossed_iff hI, not_lt]

lemma crossed_zero (hI : 0 < I) : crossed I 0 = 0 := by
  have h : crossed I (0 : K) ≤ 0 := (crossed_le_iff hI).mpr (by simpa using hI.le)
  exact Nat.le_zero.mp h

lemma crossed_mono (hI : 0 < I) (hd : 0 ≤ d) : crossed I V ≤ crossed I (V + d) := by
  rw [crossed_le_iff hI]
  have h : V + d ≤ (crossed I (V + d) + 1) * I := (crossed_le_iff hI).mp le_rfl
  linarith

/-- A growth by less than a dose crosses at most one. -/
lemma crossed_add_le (hI : 0 < I) (hd : d < I) : crossed I (V + d) ≤ crossed I V + 1 := by
  rw [crossed_le_iff hI]
  have h : V ≤ (crossed I V + 1) * I := (crossed_le_iff hI).mp le_rfl
  push_cast
  linarith

/-- The doses that were crossed are not more than the quantity. -/
lemma crossed_mul_le (hI : 0 < I) (hV : 0 ≤ V) : crossed I V * I ≤ V := by
  rcases Nat.eq_zero_or_pos (crossed I V) with h | h
  · simpa [h] using hV
  · obtain ⟨n, hn⟩ := Nat.exists_eq_add_one.mpr h
    have hlt : (n + 1) * I < V := (lt_crossed_iff hI).mp (by omega)
    rw [hn]
    push_cast
    exact hlt.le

/-- A number of doses that is not above the crossed ones is within one of the quotient if and only
if it is their number. -/
theorem abs_sub_le_one_iff (hI : 0 < I) (hV : 0 ≤ V) (hn : n ≤ crossed I V) :
    |(n : K) - V / I| ≤ 1 ↔ n = crossed I V := by
  have hupper : (n : K) ≤ V / I := by
    rw [le_div_iff₀ hI]
    calc (n : K) * I ≤ crossed I V * I := by gcongr
      _ ≤ V := crossed_mul_le hI hV
  rw [abs_sub_comm, abs_of_nonneg (sub_nonneg.mpr hupper), sub_le_iff_le_add', div_le_iff₀ hI,
    ← crossed_le_iff hI]
  exact ⟨fun h => le_antisymm hn h, fun h => h.ge⟩

end Dose
