import Mathlib

/-!
Piecewise linear interpolation in a list of points, read from the left.

A point is a pair of an argument and a value.  `lookup x p qs` goes through the points behind `p`
until one lies to the right of `x`, and interpolates between it and its predecessor; behind the
last point the value stays.  `eval` is constant to the left of the first point, too.

* `bracket` is the pair of neighbours that `lookup` interpolates between, and
  `bracket_eq_some_iff` says which one it is, whatever the order of the points;
* `segment_mem_uIcc`: between two points the value lies between theirs;
* `eval_eq_of_mem` and `continuous_eval`: for increasing arguments the interpolation takes the value
  of each point and is continuous.
-/

namespace Interpolation

variable {K : Type*}

/-! ### The bracket -/

section Bracket

variable [LinearOrder K] {x : K} {p a b : K × K} {qs : List (K × K)}

/-- The neighbours that `x` falls between. -/
def bracket (x : K) (p : K × K) : List (K × K) → Option ((K × K) × (K × K))
  | [] => none
  | q :: qs => if x < q.1 then some (p, q) else bracket x q qs

/-- The bracket is the first pair of neighbours of which the second one lies to the right. -/
lemma bracket_eq_some_iff (hp : p.1 ≤ x) :
    bracket x p qs = some (a, b) ↔
      ∃ k, (p :: qs)[k]? = some a ∧ (p :: qs)[k + 1]? = some b ∧
        (∀ j ≤ k, ∀ q, (p :: qs)[j]? = some q → q.1 ≤ x) ∧ x < b.1 := by
  induction qs generalizing p with
  | nil => simp [bracket]
  | cons q qs ih =>
      rw [bracket]
      split_ifs with hx
      · constructor
        · intro h
          obtain ⟨rfl, rfl⟩ := Prod.mk.inj (Option.some.inj h)
          refine ⟨0, rfl, rfl, fun j hj r hr => ?_, hx⟩
          obtain rfl := Nat.le_zero.mp hj
          obtain rfl := Option.some.inj hr
          exact hp
        · rintro ⟨k, ha, hb, hle, -⟩
          cases k with
          | zero =>
              obtain rfl := Option.some.inj ha
              obtain rfl := Option.some.inj hb
              rfl
          | succ k => exact absurd (hle 1 (by omega) q rfl) (not_le.mpr hx)
      · rw [ih (not_lt.mp hx)]
        constructor
        · rintro ⟨k, ha, hb, hle, hlt⟩
          refine ⟨k + 1, ha, hb, fun j hj r hr => ?_, hlt⟩
          cases j with
          | zero =>
              obtain rfl := Option.some.inj hr
              exact hp
          | succ j => exact hle j (by omega) r hr
        · rintro ⟨k, ha, hb, hle, hlt⟩
          cases k with
          | zero =>
              obtain rfl := Option.some.inj hb
              exact absurd hlt hx
          | succ k =>
              exact ⟨k, ha, hb, fun j hj r hr => hle (j + 1) (by omega) r hr, hlt⟩

/-- A bracket holds the argument and is not empty. -/
lemma bracket_bounds (hp : p.1 ≤ x) (h : bracket x p qs = some (a, b)) : a.1 ≤ x ∧ x < b.1 := by
  obtain ⟨k, ha, -, hle, hlt⟩ := (bracket_eq_some_iff hp).mp h
  exact ⟨hle k le_rfl a ha, hlt⟩

end Bracket

/-! ### Segments -/

section Segment

variable [Field K]

/-- The line through two points. -/
def segment (p q : K × K) (x : K) : K := p.2 + (q.2 - p.2) / (q.1 - p.1) * (x - p.1)

lemma segment_left (p q : K × K) : segment p q p.1 = p.2 := by
  rw [segment, sub_self, mul_zero, add_zero]

lemma segment_right {p q : K × K} (h : p.1 ≠ q.1) : segment p q q.1 = q.2 := by
  rw [segment, div_mul_cancel₀ _ (sub_ne_zero.mpr h.symm), add_sub_cancel]

end Segment

/-! ### The value of a point -/

variable [Field K] [LinearOrder K] {x : K} {p a b : K × K} {qs : List (K × K)}

/-- The value at `x`, by the points behind `p`. -/
def lookup (x : K) (p : K × K) : List (K × K) → K
  | [] => p.2
  | q :: qs => if x < q.1 then segment p q x else lookup x q qs

/-- The interpolation through a list of points, constant outside. -/
def eval (p : K × K) (qs : List (K × K)) (x : K) : K := if x < p.1 then p.2 else lookup x p qs

lemma lookup_of_bracket (h : bracket x p qs = some (a, b)) : lookup x p qs = segment a b x := by
  induction qs generalizing p with
  | nil => exact absurd h (by simp [bracket])
  | cons q qs ih =>
      rw [bracket] at h
      rw [lookup]
      split_ifs at h ⊢ with hx
      · obtain ⟨rfl, rfl⟩ := Prod.mk.inj (Option.some.inj h)
        rfl
      · exact ih h

/-- Without a bracket the value is the one of the last point. -/
lemma lookup_of_none (h : bracket x p qs = none) : ∃ q ∈ p :: qs, lookup x p qs = q.2 := by
  induction qs generalizing p with
  | nil => exact ⟨p, List.mem_singleton_self p, rfl⟩
  | cons q qs ih =>
      rw [bracket] at h
      split_ifs at h with hx
      obtain ⟨r, hr, heq⟩ := ih h
      rw [lookup, if_neg hx]
      exact ⟨r, List.mem_cons_of_mem p hr, heq⟩

/-- The arguments of the points increase. -/
def Increasing (l : List (K × K)) : Prop := l.Pairwise fun p q => p.1 < q.1

lemma lookup_self (h : Increasing (p :: qs)) : lookup p.1 p qs = p.2 := by
  cases qs with
  | nil => rfl
  | cons q qs =>
      have hlt : p.1 < q.1 := List.rel_of_pairwise_cons h List.mem_cons_self
      rw [lookup, if_pos hlt, segment_left]

lemma lookup_eq_of_mem (h : Increasing (p :: qs)) {q : K × K} (hq : q ∈ p :: qs) :
    lookup q.1 p qs = q.2 := by
  induction qs generalizing p with
  | nil =>
      obtain rfl := List.mem_singleton.mp hq
      rfl
  | cons r qs ih =>
      rcases List.mem_cons.mp hq with rfl | hq
      · exact lookup_self h
      · have htail : Increasing (r :: qs) := List.Pairwise.of_cons h
        have hle : ¬ q.1 < r.1 := by
          rcases List.mem_cons.mp hq with rfl | hq
          · exact lt_irrefl _
          · exact not_lt.mpr (List.rel_of_pairwise_cons htail hq).le
        rw [lookup, if_neg hle]
        exact ih htail hq

/-- The interpolation takes the value of each point. -/
theorem eval_eq_of_mem (h : Increasing (p :: qs)) {q : K × K} (hq : q ∈ p :: qs) :
    eval p qs q.1 = q.2 := by
  have hle : ¬ q.1 < p.1 := by
    rcases List.mem_cons.mp hq with rfl | hq
    · exact lt_irrefl _
    · exact not_lt.mpr (List.rel_of_pairwise_cons h hq).le
  rw [eval, if_neg hle, lookup_eq_of_mem h hq]

/-! ### Values in between -/

variable [IsStrictOrderedRing K]

/-- Between two points the line stays between their values. -/
lemma segment_mem_uIcc (hp : a.1 ≤ x) (hq : x < b.1) : segment a b x ∈ Set.uIcc a.2 b.2 := by
  have hpos : 0 < b.1 - a.1 := sub_pos.mpr (hp.trans_lt hq)
  have hfrac : (x - a.1) / (b.1 - a.1) ∈ Set.Icc (0 : K) 1 :=
    ⟨div_nonneg (sub_nonneg.mpr hp) hpos.le, (div_le_one hpos).mpr (by linarith)⟩
  have heq : segment a b x = a.2 + (x - a.1) / (b.1 - a.1) * (b.2 - a.2) := by
    rw [segment]
    ring
  rw [heq, Set.mem_uIcc]
  rcases le_total a.2 b.2 with h | h
  · have hlow := mul_nonneg hfrac.1 (sub_nonneg.mpr h)
    have hhigh := mul_le_of_le_one_left (sub_nonneg.mpr h) hfrac.2
    exact .inl ⟨by linarith only [hlow], by linarith only [hhigh]⟩
  · have hlow := mul_nonneg hfrac.1 (sub_nonneg.mpr h)
    have hhigh := mul_le_of_le_one_left (sub_nonneg.mpr h) hfrac.2
    rw [← neg_sub a.2 b.2, mul_neg]
    exact .inr ⟨by linarith only [hhigh], by linarith only [hlow]⟩

variable [TopologicalSpace K] [OrderTopology K]

lemma continuous_segment (p q : K × K) : Continuous (segment p q) := by
  change Continuous fun x => p.2 + (q.2 - p.2) / (q.1 - p.1) * (x - p.1)
  fun_prop

/-- To the left of the first point `lookup` goes on with the first segment, so that it is continuous
everywhere. -/
lemma continuous_lookup (h : Increasing (p :: qs)) : Continuous fun x => lookup x p qs := by
  induction qs generalizing p with
  | nil => exact continuous_const
  | cons q qs ih =>
      have hlt : p.1 < q.1 := List.rel_of_pairwise_cons h List.mem_cons_self
      have htail : Increasing (q :: qs) := List.Pairwise.of_cons h
      have heq : (fun x => lookup x p (q :: qs))
          = fun x => if q.1 ≤ x then lookup x q qs else segment p q x := by
        funext x
        rw [lookup]
        rcases lt_or_ge x q.1 with hx | hx
        · rw [if_pos hx, if_neg (not_le.mpr hx)]
        · rw [if_neg (not_lt.mpr hx), if_pos hx]
      rw [heq]
      refine Continuous.if_le (ih htail) (continuous_segment p q) continuous_const continuous_id
        fun x hx => ?_
      rw [← hx, lookup_self htail, segment_right hlt.ne]

/-- The interpolation is continuous. -/
theorem continuous_eval (h : Increasing (p :: qs)) : Continuous (eval p qs) := by
  have heq : eval p qs = fun x => if p.1 ≤ x then lookup x p qs else p.2 := by
    funext x
    rw [eval]
    rcases lt_or_ge x p.1 with hx | hx
    · rw [if_pos hx, if_neg (not_le.mpr hx)]
    · rw [if_neg (not_lt.mpr hx), if_pos hx]
  rw [heq]
  refine Continuous.if_le (continuous_lookup h) continuous_const continuous_const continuous_id
    fun x hx => ?_
  rw [← hx, lookup_self h]

end Interpolation
