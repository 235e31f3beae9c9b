import Mathlib

/-!
Time cut into cells, such as minutes, days or months.

`Cells g` are consecutive cells of which each is longer than `g`, so that a clock that goes forward
by at most `g` at a time leaves out none.

* `cell_add`: a step of at most `g` stays in its cell or goes to the next one;
* `exists_start_iff`: a cell of a kind begins within a step if and only if the step ends in a new
  cell, which is of the kind;
* `crossing_iff` says the same of moments, for a clock that does not show the cell itself but
  something that differs between neighbours;
* `isLeast_start` is the next cell of a kind;
* `scale` and `group` make cells of other cells.
-/

/-- Consecutive cells that begin at zero, each longer than `g`. -/
structure Cells (g : ℕ) where
  start : ℕ → ℕ
  cell : ℕ → ℕ
  start_le : ∀ t, start (cell t) ≤ t
  lt_start : ∀ t, t < start (cell t + 1)
  gap : ∀ c, start c + g < start (c + 1)

namespace Cells

variable {g : ℕ} (C : Cells g) {c t e : ℕ}

lemma start_strictMono : StrictMono C.start :=
  strictMono_nat_of_lt_succ fun c => (Nat.le_add_right _ _).trans_lt (C.gap c)

variable {C} in
lemma cell_eq (h : C.start c ≤ t) (h' : t < C.start (c + 1)) : C.cell t = c := by
  have hle : C.start c < C.start (C.cell t + 1) := h.trans_lt (C.lt_start t)
  have hge : C.start (C.cell t) < C.start (c + 1) := (C.start_le t).trans_lt h'
  rw [C.start_strictMono.lt_iff_lt] at hle hge
  omega

@[simp] lemma cell_start (c : ℕ) : C.cell (C.start c) = c :=
  cell_eq le_rfl (C.start_strictMono (Nat.lt_succ_self c))

lemma cell_mono : Monotone C.cell := fun s t h => by
  have hlt : C.start (C.cell s) < C.start (C.cell t + 1) :=
    ((C.start_le s).trans h).trans_lt (C.lt_start t)
  rw [C.start_strictMono.lt_iff_lt] at hlt
  omega

/-- A step stays in its cell or goes to the next one. -/
lemma cell_add (h : e ≤ g) (t : ℕ) : C.cell (t + e) = C.cell t ∨ C.cell (t + e) = C.cell t + 1 := by
  have hmono : C.cell t ≤ C.cell (t + e) := C.cell_mono (Nat.le_add_right t e)
  have hlt : C.start (C.cell (t + e)) < C.start (C.cell t + 1 + 1) := by
    have := C.start_le (t + e)
    have := C.lt_start t
    have := C.gap (C.cell t + 1)
    omega
  rw [C.start_strictMono.lt_iff_lt] at hlt
  omega

/-- A cell of a kind begins within a step if and only if the step ends in a new cell, which is of
the kind. -/
theorem exists_start_iff (Q : ℕ → Prop) (h : e ≤ g) (t : ℕ) :
    (∃ c, Q c ∧ t < C.start c ∧ C.start c ≤ t + e) ↔
      C.cell t ≠ C.cell (t + e) ∧ Q (C.cell (t + e)) := by
  constructor
  · rintro ⟨c, hQ, hlt, hle⟩
    have hbefore : C.cell t < c := by
      have := (C.start_le t).trans_lt hlt
      rwa [C.start_strictMono.lt_iff_lt] at this
    have hafter : c ≤ C.cell (t + e) := by
      have := C.cell_mono hle
      rwa [cell_start] at this
    rcases C.cell_add h t with hc | hc
    · omega
    · obtain rfl : C.cell (t + e) = c := by omega
      exact ⟨hbefore.ne, hQ⟩
  · rintro ⟨hne, hQ⟩
    have hc := (C.cell_add h t).resolve_left (Ne.symm hne)
    refine ⟨_, hQ, ?_, C.start_le (t + e)⟩
    rw [hc]
    exact C.lt_start t

/-- A moment of a kind at which a cell begins lies within a step if and only if the step changes
what a clock shows that differs between neighbouring cells, and ends at a moment of the kind. -/
theorem crossing_iff {β : Type*} {A R : ℕ → Prop} (clock : ℕ → β) {f : ℕ → β}
    (hA : ∀ b, A b ↔ ∃ c, C.start c = b) (hR : ∀ s t, C.cell s = C.cell t → (R s ↔ R t))
    (hclock : ∀ t, clock t = f (C.cell t)) (hf : ∀ c, f c ≠ f (c + 1)) (h : e ≤ g) (t : ℕ) :
    (∃ b, (A b ∧ R b) ∧ t < b ∧ b ≤ t + e) ↔ clock t ≠ clock (t + e) ∧ R (t + e) := by
  have hstart : (∃ b, (A b ∧ R b) ∧ t < b ∧ b ≤ t + e) ↔
      ∃ c, R (C.start c) ∧ t < C.start c ∧ C.start c ≤ t + e := by
    constructor
    · rintro ⟨b, ⟨hb, hRb⟩, hlt, hle⟩
      obtain ⟨c, rfl⟩ := (hA b).mp hb
      exact ⟨c, hRb, hlt, hle⟩
    · rintro ⟨c, hRc, hlt, hle⟩
      exact ⟨C.start c, ⟨(hA _).mpr ⟨c, rfl⟩, hRc⟩, hlt, hle⟩
  rw [hstart, exists_start_iff C (fun c => R (C.start c)) h t, hclock, hclock,
    hR (C.start (C.cell (t + e))) (t + e) (by simp)]
  refine and_congr_left fun _ => ?_
  rcases C.cell_add h t with hc | hc
  · simp [hc]
  · simp [hc, hf]

/-- Two cells that begin within one step are the same. -/
lemma start_unique {c' : ℕ} (h : e ≤ g) (hc : t < C.start c) (hce : C.start c ≤ t + e)
    (hc' : t < C.start c') (hce' : C.start c' ≤ t + e) : c = c' := by
  have hgap : ∀ i j, i < j → C.start i + g < C.start j := fun i j hij =>
    (C.gap i).trans_le (C.start_strictMono.monotone hij)
  rcases lt_trichotomy c c' with hlt | rfl | hlt
  · have := hgap c c' hlt
    omega
  · rfl
  · have := hgap c' c hlt
    omega

lemma start_zero : C.start 0 = 0 :=
  Nat.le_zero.mp ((C.start_strictMono.monotone (Nat.zero_le _)).trans (C.start_le 0))

lemma start_pos_iff : 0 < C.start c ↔ 0 < c := by
  rw [← C.start_strictMono.lt_iff_lt (a := 0) (b := c), start_zero]

/-- The next cell of a kind is the first of the following ones that is of the kind. -/
theorem isLeast_start {Q : ℕ → Prop} {n : ℕ} (hn : 0 < n) (hQ : Q (c + n))
    (hnone : ∀ i, 0 < i → i < n → ¬ Q (c + i)) :
    IsLeast {x | (∃ k, C.start k = x ∧ Q k) ∧ C.start c < x} (C.start (c + n)) := by
  refine ⟨⟨⟨c + n, rfl, hQ⟩, C.start_strictMono (Nat.lt_add_of_pos_right hn)⟩, ?_⟩
  rintro x ⟨⟨k, rfl, hk⟩, hlt⟩
  rw [C.start_strictMono.lt_iff_lt] at hlt
  refine C.start_strictMono.monotone ?_
  by_contra! hbefore
  refine hnone (k - c) (by omega) (by omega) ?_
  rwa [Nat.add_sub_cancel' hlt.le]

/-- The cells of length one. -/
def unit : Cells 0 where
  start := id
  cell := id
  start_le _ := le_rfl
  lt_start _ := Nat.lt_succ_self _
  gap _ := Nat.lt_succ_self _

/-- Cells of cells of length `n`, each longer than `g`. -/
def scale (D : Cells 0) {n : ℕ} (hn : g < n) : Cells g where
  start c := n * D.start c
  cell t := D.cell (t / n)
  start_le t := (Nat.mul_le_mul_left n (D.start_le (t / n))).trans (Nat.mul_div_le t n)
  lt_start t := by
    have hlt : n * (t / n + 1) ≤ n * D.start (D.cell (t / n) + 1) :=
      Nat.mul_le_mul_left n (D.lt_start (t / n))
    exact (Nat.lt_mul_div_succ t (Nat.zero_lt_of_lt hn)).trans_le hlt
  gap c := by
    have hle : n * (D.start c + 1) ≤ n * D.start (c + 1) := Nat.mul_le_mul_left n (D.gap c)
    rw [Nat.mul_add, Nat.mul_one] at hle
    omega

/-- Cells of `k` neighbouring cells each. -/
def group (D : Cells 0) (k : ℕ) [NeZero k] : Cells 0 where
  start c := D.start (k * c)
  cell t := D.cell t / k
  start_le t := (D.start_strictMono.monotone (Nat.mul_div_le _ k)).trans (D.start_le t)
  lt_start t := (D.lt_start t).trans_le
    (D.start_strictMono.monotone (Nat.lt_mul_div_succ _ (Nat.pos_of_neZero k)))
  gap c := D.start_strictMono (Nat.mul_lt_mul_of_pos_left (Nat.lt_succ_self c)
    (Nat.pos_of_neZero k))

end Cells
