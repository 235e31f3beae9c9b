import Mathlib

/-!
The last values of a sequence, in a list that is trimmed at its front.

`trim` takes the front off a list while it is too long, which leaves the last values of it
(`trim_eq_rtake`), and `rtake_rtake_concat` is the list behind one more value.  `sum_div_rtake_iff`
and `mean_rtake_iff` say when the mean of `n + 1` last values is that of `n`, in natural numbers and
in a field.
-/

namespace Window

variable {α : Type*}

/-- The front is taken off while there are more than `n` values. -/
def trim (n : ℕ) : List α → List α
  | [] => []
  | x :: l => if n < (x :: l).length then trim n l else x :: l

theorem trim_eq_rtake (n : ℕ) (l : List α) : trim n l = l.rtake n := by
  induction l with
  | nil => rw [trim, List.rtake_nil]
  | cons x l ih =>
      rw [trim]
      split_ifs with h
      · rw [ih, List.rtake, List.rtake, List.length_cons,
          Nat.succ_sub (Nat.lt_succ_iff.mp h), List.drop_succ_cons]
      · rw [List.rtake, Nat.sub_eq_zero_of_le (not_lt.mp h), List.drop_zero]

lemma length_rtake (n : ℕ) (l : List α) : (l.rtake n).length = min n l.length := by
  rw [List.rtake, List.length_drop]
  omega

lemma rtake_of_length_le {n : ℕ} {l : List α} (h : l.length ≤ n) : l.rtake n = l := by
  rw [List.rtake, Nat.sub_eq_zero_of_le h, List.drop_zero]

/-- Of the last values with one more behind them the last ones are those of the sequence. -/
lemma rtake_rtake_concat (n : ℕ) (l : List α) (x : α) :
    (l.rtake n ++ [x]).rtake n = (l ++ [x]).rtake n := by
  cases n with
  | zero => rw [List.rtake_zero, List.rtake_zero]
  | succ n =>
      rw [List.rtake_concat_succ, List.rtake_concat_succ]
      congr 1
      rw [List.rtake, List.rtake, List.rtake, List.length_drop, List.drop_drop]
      congr 1
      omega

/-- A sequence with more than `n` values has one in front of the last `n`. -/
lemma rtake_succ_eq_cons {n : ℕ} {l : List α} (h : n < l.length) (d : α) :
    l.rtake (n + 1) = l.getD (l.length - (n + 1)) d :: l.rtake n := by
  have hlt : l.length - (n + 1) < l.length := by omega
  have hnext : l.length - (n + 1) + 1 = l.length - n := by omega
  rw [List.rtake, List.rtake, List.drop_eq_getElem_cons hlt, hnext, List.getD_eq_getElem l d hlt]

/-! ### Means -/

/-- One more value leaves the quotient of a sum alone if and only if it is near to it. -/
lemma div_cons_iff {n : ℕ} (hn : 0 < n) (x s : ℕ) :
    (x + s) / (n + 1) = s / n ↔ s / n ≤ x + s % n ∧ x + s % n ≤ s / n + n := by
  have hdiv : n * (s / n) + s % n = s := Nat.div_add_mod s n
  have hlow : s / n * (n + 1) = n * (s / n) + s / n := by ring
  rw [Nat.div_eq_iff (Nat.succ_pos n), hlow]
  omega

/-- One more value leaves the mean alone if and only if it is the mean. -/
lemma mean_cons_iff {K : Type*} [Field K] [CharZero K] {n : ℕ} (hn : 0 < n) (x s : K) :
    (x + s) / (n + 1 : ℕ) = s / n ↔ x = s / n := by
  have h0 : (n : K) ≠ 0 := Nat.cast_ne_zero.mpr hn.ne'
  have h1 : ((n + 1 : ℕ) : K) ≠ 0 := Nat.cast_ne_zero.mpr (Nat.succ_ne_zero n)
  rw [div_eq_div_iff h1 h0, eq_div_iff h0, Nat.cast_succ]
  constructor
  · intro h
    linear_combination h
  · intro h
    linear_combination h

/-- The value in front of the last `n` ones, with the remainder of their sum, lies between the
quotient of the sum and `n` more. -/
def NearQuotient (n : ℕ) (l : List ℕ) : Prop :=
  (l.rtake n).sum / n ≤ l.getD (l.length - (n + 1)) 0 + (l.rtake n).sum % n ∧
    l.getD (l.length - (n + 1)) 0 + (l.rtake n).sum % n ≤ (l.rtake n).sum / n + n

instance (n : ℕ) (l : List ℕ) : Decidable (NearQuotient n l) := inferInstanceAs (Decidable (_ ∧ _))

/-- The quotient for the last `n + 1` values is that for the last `n` if and only if there are no
more than these or the one more is near to it. -/
theorem sum_div_rtake_iff {n : ℕ} (hn : 0 < n) (l : List ℕ) :
    (l.rtake (n + 1)).sum / min (n + 1) l.length = (l.rtake n).sum / min n l.length ↔
      l.length ≤ n ∨ NearQuotient n l := by
  rcases le_or_gt l.length n with h | h
  · rw [rtake_of_length_le h, rtake_of_length_le (h.trans (Nat.le_succ n)), min_eq_right h,
      min_eq_right (h.trans (Nat.le_succ n))]
    exact iff_of_true rfl (.inl h)
  · rw [rtake_succ_eq_cons h 0, List.sum_cons, min_eq_left h, min_eq_left h.le, div_cons_iff hn,
      NearQuotient, or_iff_right (not_le.mpr h)]

/-- In a field the one more has to be the mean. -/
theorem mean_rtake_iff {K : Type*} [Field K] [CharZero K] {n : ℕ} (hn : 0 < n) (l : List K) :
    (l.rtake (n + 1)).sum / (min (n + 1) l.length : ℕ) =
        (l.rtake n).sum / (min n l.length : ℕ) ↔
      l.length ≤ n ∨ l.getD (l.length - (n + 1)) 0 = (l.rtake n).sum / n := by
  rcases le_or_gt l.length n with h | h
  · rw [rtake_of_length_le h, rtake_of_length_le (h.trans (Nat.le_succ n)), min_eq_right h,
      min_eq_right (h.trans (Nat.le_succ n))]
    exact iff_of_true rfl (.inl h)
  · rw [rtake_succ_eq_cons h 0, List.sum_cons, min_eq_left h, min_eq_left h.le, mean_cons_iff hn,
      or_iff_right (not_le.mpr h)]

end Window
