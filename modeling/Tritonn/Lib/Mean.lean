import Mathlib

/-!
Weighted means that are kept incrementally, over a field.

A sum of moments `s` over a mass `m` has the mean `s / m`, which is zero while there is no mass.
`join` is the step of the mean when the mass `d` with the value `x` is added, and `swapped_iff`
says when the step with the two weights exchanged gives the same mean.  `misplaced_iff` does so for
a step that adds the whole mass with its value and divides the old part by another mass.

`weighted` is the mean of a list of values with their weights, and `weighted_concat` the step by
which it grows.
-/

namespace Mean

variable {K : Type*} [Field K] {s m d x a : K}

/-- The mean of a mass `m` with the mean `a` and a mass `d` with the value `x`. -/
def joined (m a d x : K) : K := (a * m + x * d) / (m + d)

/-- The joined mean is the mean of the sums. -/
theorem join (hs : m = 0 → s = 0) : joined m (s / m) d x = (s + d * x) / (m + d) := by
  rcases eq_or_ne m 0 with rfl | hm
  · rw [joined, hs rfl, zero_div, mul_comm d x, zero_mul]
  · rw [joined, div_mul_cancel₀ s hm, mul_comm d x]

/-- Without a new mass the mean stays. -/
lemma joined_zero (hm : m ≠ 0) : joined m a 0 x = a := by
  rw [joined, mul_zero, add_zero, add_zero, mul_div_cancel_right₀ a hm]

/-- The first mass gives its value, whatever the mean was. -/
lemma joined_first (a b : K) : joined 0 a d x = joined 0 b d x := by
  simp only [joined, mul_zero]

/-- With the weights exchanged the result is the joined mean only when the values or the masses are
equal. -/
theorem swapped_iff (hm : m + d ≠ 0) :
    (a * d + x * m) / (m + d) = joined m a d x ↔ x = a ∨ d = m := by
  have key : a * d + x * m - (a * m + x * d) = -((x - a) * (d - m)) := by ring
  rw [joined, div_left_inj' hm, ← sub_eq_zero, key, neg_eq_zero, mul_eq_zero, sub_eq_zero,
    sub_eq_zero]

/-- The value taken with the whole mass, and the average before with the quotient of two others. -/
theorem misplaced_iff {b c e : K} (hc : c ≠ 0) (hm : m + d ≠ 0) :
    x * (m + d) + b * e / c = joined m a d x ↔
      x * c * ((m + d) ^ 2 - d) = a * m * c - b * e * (m + d) := by
  have key : (x * (m + d) + b * e / c) * (c * (m + d)) - (a * m + x * d) * c
      = x * c * ((m + d) ^ 2 - d) - (a * m * c - b * e * (m + d)) := by
    field_simp
    ring
  rw [joined, eq_div_iff hm, ← mul_left_inj' hc, mul_assoc, mul_comm (m + d) c, ← sub_eq_zero, key,
    sub_eq_zero]

/-! ### Lists of weighted values -/

/-- The mass of a list of values, each behind its weight. -/
def mass (l : List (K × K)) : K := (l.map Prod.fst).sum

/-- The sum of the values with their weights. -/
def moment (l : List (K × K)) : K := (l.map fun e => e.1 * e.2).sum

/-- The mean of a list. -/
def weighted (l : List (K × K)) : K := moment l / mass l

lemma mass_concat (l : List (K × K)) (d x : K) : mass (l ++ [(d, x)]) = mass l + d := by
  simp [mass]

lemma moment_concat (l : List (K × K)) (d x : K) :
    moment (l ++ [(d, x)]) = moment l + d * x := by
  simp [moment]

/-- The mean of a longer list. -/
theorem weighted_concat {l : List (K × K)} (h : mass l = 0 → moment l = 0) (d x : K) :
    weighted (l ++ [(d, x)]) = joined (mass l) (weighted l) d x := by
  rw [weighted, weighted, mass_concat, moment_concat, join h]

/-- Without weight there is no moment. -/
lemma moment_eq_zero [LinearOrder K] [IsStrictOrderedRing K] {l : List (K × K)}
    (h : ∀ e ∈ l, 0 ≤ e.1) (hm : mass l = 0) : moment l = 0 := by
  have hweights : ∀ d ∈ l.map Prod.fst, 0 ≤ d := by simpa using h
  refine List.sum_eq_zero fun y hy => ?_
  obtain ⟨e, he, rfl⟩ := List.mem_map.mp hy
  rw [List.all_zero_of_le_zero_le_of_sum_eq_zero hweights hm (List.mem_map_of_mem he), zero_mul]

end Mean
