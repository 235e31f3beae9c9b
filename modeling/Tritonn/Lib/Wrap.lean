import Mathlib

/-!
Accumulators that wrap at a limit, over a linearly ordered field with a floor.

* `wrap L s` is the remainder of `s` by `L` in `[0, L)`, and `eq_wrap` says that it is the only
  one: a representation `s = r + k·L` with `0 ≤ r < L` determines both `r` and `k`.
* `carry L x` is one step of such an accumulator: subtract the limit once if it is reached.
  `carry_lt` says that one subtraction is enough below `2L`.
* `roundHalf m x` rounds to the nearest multiple of `1/m`, halves upwards.  Rounding is exact on
  the grid (`roundHalf_of_mem`) and commutes with a shift by a grid element (`roundHalf_add`), so
  that an accumulator that rounds in every step gains the rounded increments
  (`carry_round_modEq`).
-/

namespace Wrap

open AddSubgroup (zmultiples mem_zmultiples_iff)

variable {K : Type*} [Field K] [LinearOrder K] {L m s d r x g : K}

/-! ### The remainder -/

section Remainder

variable [FloorRing K]

/-- The remainder of `s` by `L`, in `[0, L)`. -/
def wrap (L s : K) : K := s - ⌊s / L⌋ * L

variable [IsStrictOrderedRing K]

/-- A remainder in `[0, L)` and its quotient are unique. -/
theorem eq_wrap (hL : 0 < L) (hr0 : 0 ≤ r) (hrL : r < L) {k : ℤ} (hs : s = r + k * L) :
    r = wrap L s ∧ k = ⌊s / L⌋ := by
  have hk : k = ⌊s / L⌋ := by
    symm
    rw [Int.floor_eq_iff, le_div_iff₀ hL, div_lt_iff₀ hL]
    constructor <;> nlinarith
  refine ⟨?_, hk⟩
  rw [wrap, ← hk]
  linarith

end Remainder

/-! ### One step of an accumulator -/

/-- Subtract the limit once if it is reached, and count the subtraction. -/
def carry (L x : K) : K × ℕ := if L ≤ x then (x - L, 1) else (x, 0)

@[simp] lemma carry_of_le (h : L ≤ x) : carry L x = (x - L, 1) := if_pos h

@[simp] lemma carry_of_lt (h : x < L) : carry L x = (x, 0) := if_neg (not_le.mpr h)

/-- The step loses nothing: what is subtracted is counted. -/
lemma carry_add (L x : K) : (carry L x).1 + (carry L x).2 * L = x := by
  rcases le_or_gt L x with h | h <;> simp [h]

lemma carry_modEq (L x : K) : AddCommGroup.ModEq L (carry L x).1 x := by
  refine ⟨(carry L x).2, 0, ?_⟩
  rw [nsmul_eq_mul, zero_nsmul, zero_add, add_comm]
  exact carry_add L x

lemma carry_mem {H : AddSubgroup K} (hL : L ∈ H) (hx : x ∈ H) : (carry L x).1 ∈ H := by
  rcases le_or_gt L x with h | h
  · simpa [h] using H.sub_mem hx hL
  · simpa [h] using hx

omit [LinearOrder K] in
/-- Congruent summands have congruent sums. -/
lemma modEq_sum {ι : Type*} (t : Finset ι) {f g : ι → K}
    (h : ∀ i ∈ t, AddCommGroup.ModEq L (f i) (g i)) :
    AddCommGroup.ModEq L (∑ i ∈ t, f i) (∑ i ∈ t, g i) := by
  classical
  induction t using Finset.induction_on with
  | empty => simp
  | insert i t hi ih =>
      rw [Finset.sum_insert hi, Finset.sum_insert hi]
      exact (h i (Finset.mem_insert_self i t)).add
        (ih fun j hj => h j (Finset.mem_insert_of_mem hj))

variable [IsStrictOrderedRing K]

lemma carry_nonneg (hx : 0 ≤ x) : 0 ≤ (carry L x).1 := by
  rcases le_or_gt L x with h | h
  · simp [h]
  · simpa [h] using hx

lemma carry_le (hL : 0 ≤ L) (x : K) : (carry L x).1 ≤ x := by
  rcases le_or_gt L x with h | h
  · simpa [h] using hL
  · simp [h]

/-- Below twice the limit one subtraction brings the accumulator back under it. -/
lemma carry_lt (hx : x < 2 * L) : (carry L x).1 < L := by
  rcases le_or_gt L x with h | h
  · simp only [carry_of_le h]; linarith
  · simp [h]

/-! ### Rounding to a grid -/

variable [FloorRing K]

/-- The nearest multiple of `1/m`, halves upwards. -/
def roundHalf (m x : K) : K := ⌊x * m + 1 / 2⌋ / m

omit [IsStrictOrderedRing K] in
lemma roundHalf_mem (m x : K) : roundHalf m x ∈ zmultiples (1 / m) :=
  mem_zmultiples_iff.mpr ⟨⌊x * m + 1 / 2⌋, by rw [roundHalf, zsmul_eq_mul, mul_one_div]⟩

lemma roundHalf_nonneg (hm : 0 < m) (hx : 0 ≤ x) : 0 ≤ roundHalf m x := by
  have h : (0 : ℤ) ≤ ⌊x * m + 1 / 2⌋ := Int.floor_nonneg.mpr (by positivity)
  exact div_nonneg (by exact_mod_cast h) hm.le

/-- Rounding commutes with a shift by an element of the grid. -/
lemma roundHalf_add (hm : 0 < m) (hg : g ∈ zmultiples (1 / m)) :
    roundHalf m (g + x) = g + roundHalf m x := by
  obtain ⟨n, rfl⟩ := mem_zmultiples_iff.mp hg
  have hn : (n • (1 / m) + x) * m + 1 / 2 = (x * m + 1 / 2) + n := by
    rw [zsmul_eq_mul]; field_simp; ring
  rw [roundHalf, roundHalf, hn, Int.floor_add_intCast, Int.cast_add, zsmul_eq_mul]
  field_simp
  ring

lemma roundHalf_zero (m : K) : roundHalf m 0 = 0 := by
  have h : ⌊(1 / 2 : K)⌋ = 0 := by rw [Int.floor_eq_zero_iff]; constructor <;> norm_num
  rw [roundHalf, zero_mul, zero_add, h, Int.cast_zero, zero_div]

/-- Rounding is exact on the grid. -/
lemma roundHalf_of_mem (hm : 0 < m) (hx : x ∈ zmultiples (1 / m)) : roundHalf m x = x := by
  have h := roundHalf_add (x := 0) hm hx
  rwa [add_zero, roundHalf_zero, add_zero] at h

/-- An accumulator on the grid that rounds and wraps in every step gains, modulo the limit, the
rounded increment. -/
theorem carry_round_modEq (hm : 0 < m) (hr : r ∈ zmultiples (1 / m)) :
    AddCommGroup.ModEq L (carry L (roundHalf m (r + d))).1 (r + roundHalf m d) := by
  rw [← roundHalf_add hm hr]
  exact carry_modEq L _

end Wrap
