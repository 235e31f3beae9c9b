import Mathlib

/-!
Exchanging positions of a list in place.

* `exchange` swaps two positions, which must both exist; `exchanges` performs a list of swaps in
  turn and fails at the first position that does not exist.
* `source l k` is the position from which the exchanges `l` bring what they leave at `k`:
  `exchanges_spec` says so, and `exchanges_ok_iff` says when they succeed (`Within`).
* `pairs n` swaps the neighbours `(0, 1), (2, 3), ...` of `2n` positions, `widen w l` performs the
  swaps `l` on blocks of `w` positions, and `shift` moves exchanges by an offset; `source_pairs`,
  `source_widen` and `source_shift` compute their sources.
-/

namespace Exchange

variable {α : Type*}

/-! ### Exchanges -/

/-- Swap two positions of a list; the error is the position that does not exist. -/
def exchange (b : List α) (p : ℕ × ℕ) : Except ℕ (List α) :=
  match b[p.1]?, b[p.2]? with
  | some x, some y => .ok ((b.set p.1 y).set p.2 x)
  | none, _ => .error p.1
  | some _, none => .error p.2

/-- Perform the swaps of a list in turn. -/
def exchanges (l : List (ℕ × ℕ)) (b : List α) : Except ℕ (List α) := l.foldlM exchange b

/-- The position from which the exchanges bring what they leave at `k`. -/
def source (l : List (ℕ × ℕ)) (k : ℕ) : ℕ := l.foldr (fun p k => Equiv.swap p.1 p.2 k) k

/-- All positions of the exchanges are below `m`. -/
def Within (m : ℕ) (l : List (ℕ × ℕ)) : Prop := ∀ p ∈ l, p.1 < m ∧ p.2 < m

@[simp] lemma source_nil (k : ℕ) : source [] k = k := rfl

@[simp] lemma source_cons (p : ℕ × ℕ) (l : List (ℕ × ℕ)) (k : ℕ) :
    source (p :: l) k = Equiv.swap p.1 p.2 (source l k) := rfl

lemma source_append (l₁ l₂ : List (ℕ × ℕ)) (k : ℕ) :
    source (l₁ ++ l₂) k = source l₁ (source l₂ k) := by
  rw [source, List.foldr_append, source, source]

@[simp] lemma within_nil (m : ℕ) : Within m [] := by simp [Within]

lemma within_append {m : ℕ} {l₁ l₂ : List (ℕ × ℕ)} :
    Within m (l₁ ++ l₂) ↔ Within m l₁ ∧ Within m l₂ := List.forall_mem_append

/-- An exchange of two positions that exist. -/
lemma exchange_of_lt {b : List α} {p : ℕ × ℕ} (h : p.1 < b.length ∧ p.2 < b.length) :
    exchange b p = .ok ((b.set p.1 b[p.2]).set p.2 b[p.1]) := by
  simp [exchange, h.1, h.2]

lemma exchange_error {b : List α} {p : ℕ × ℕ} (h : ¬ (p.1 < b.length ∧ p.2 < b.length)) :
    ∃ i, exchange b p = .error i := by
  rw [exchange]
  by_cases h1 : p.1 < b.length
  · have h2 : b.length ≤ p.2 := not_lt.mp fun h2 => h ⟨h1, h2⟩
    exact ⟨p.2, by simp [h1, h2]⟩
  · exact ⟨p.1, by simp [not_lt.mp h1]⟩

/-- What an exchange leaves at each position. -/
lemma exchange_spec {b b' : List α} {p : ℕ × ℕ} (h : exchange b p = .ok b') :
    b'.length = b.length ∧ ∀ k, b'[k]? = b[Equiv.swap p.1 p.2 k]? := by
  by_cases hp : p.1 < b.length ∧ p.2 < b.length
  · rw [exchange_of_lt hp] at h
    cases h
    refine ⟨by simp, fun k => ?_⟩
    rw [Equiv.swap_apply_def]
    split_ifs with h1 h2
    · subst h1
      by_cases h12 : p.1 = p.2
      · simp [h12, hp.2]
      · simp [Ne.symm h12, hp.1, hp.2]
    · subst h2
      simp [hp.1, hp.2]
    · simp [Ne.symm h1, Ne.symm h2]
  · obtain ⟨i, hi⟩ := exchange_error hp
    rw [hi] at h
    cases h

/-- What the exchanges leave at each position. -/
theorem exchanges_spec {l : List (ℕ × ℕ)} {b b' : List α} (h : exchanges l b = .ok b') :
    b'.length = b.length ∧ ∀ k, b'[k]? = b[source l k]? := by
  induction l generalizing b with
  | nil =>
      cases h
      exact ⟨rfl, fun _ => rfl⟩
  | cons p l ih =>
      rw [exchanges, List.foldlM_cons] at h
      cases he : exchange b p with
      | error i => rw [he] at h; cases h
      | ok c =>
          rw [he] at h
          obtain ⟨hlen, hget⟩ := exchange_spec he
          obtain ⟨hlen', hget'⟩ := ih h
          exact ⟨hlen'.trans hlen, fun k => by rw [hget', hget, source_cons]⟩

/-- The exchanges succeed if and only if all their positions exist. -/
theorem exchanges_ok_iff (l : List (ℕ × ℕ)) (b : List α) :
    (∃ b', exchanges l b = .ok b') ↔ Within b.length l := by
  induction l generalizing b with
  | nil => simp [exchanges, pure, Except.pure]
  | cons p l ih =>
      rw [exchanges, List.foldlM_cons]
      by_cases hp : p.1 < b.length ∧ p.2 < b.length
      · have hlen := (exchange_spec (exchange_of_lt hp)).1
        rw [exchange_of_lt hp]
        refine (ih _).trans ?_
        rw [hlen]
        simp [Within, hp]
      · obtain ⟨i, hi⟩ := exchange_error hp
        rw [hi]
        simp only [Within, List.mem_cons, forall_eq_or_imp, hp, false_and, iff_false]
        rintro ⟨b', hb'⟩
        cases hb'

/-- Exchanges that fail name a position that does not exist. -/
lemma exchanges_error {l : List (ℕ × ℕ)} {b : List α} (h : ¬ Within b.length l) :
    ∃ i, exchanges l b = .error i := by
  cases he : exchanges l b with
  | error i => exact ⟨i, rfl⟩
  | ok b' => exact absurd ((exchanges_ok_iff l b).mp ⟨b', he⟩) h

/-! ### Offsets -/

/-- The exchanges `l` from the position `base` on. -/
def shift (base : ℕ) (l : List (ℕ × ℕ)) : List (ℕ × ℕ) :=
  l.map fun p => (base + p.1, base + p.2)

lemma source_shift (base : ℕ) (l : List (ℕ × ℕ)) (k : ℕ) :
    source (shift base l) (base + k) = base + source l k := by
  induction l with
  | nil => rfl
  | cons p l ih =>
      simp only [shift, List.map_cons, source_cons] at ih ⊢
      rw [ih, Equiv.swap_apply_def, Equiv.swap_apply_def]
      simp only [Nat.add_left_cancel_iff]
      split_ifs <;> rfl

/-- What lies in front of the offset stays. -/
lemma source_shift_of_lt {base k : ℕ} (h : k < base) (l : List (ℕ × ℕ)) :
    source (shift base l) k = k := by
  induction l with
  | nil => rfl
  | cons p l ih =>
      rw [shift, List.map_cons, source_cons, ← shift, ih,
        Equiv.swap_apply_of_ne_of_ne (by omega) (by omega)]

lemma within_shift {base m : ℕ} {l : List (ℕ × ℕ)} :
    Within m (shift base l) ↔ Within (m - base) l := by
  simp only [Within, shift, List.mem_map, forall_exists_index, and_imp,
    forall_apply_eq_imp_iff₂]
  refine forall₂_congr fun p _ => ?_
  omega

/-! ### Neighbours -/

/-- The swaps `(0, 1), (2, 3), ...` of the first `2n` positions. -/
def pairs (n : ℕ) : List (ℕ × ℕ) := (List.range n).map fun i => (2 * i, 2 * i + 1)

/-- The neighbour of a position in its pair. -/
def partner (k : ℕ) : ℕ := if k % 2 = 0 then k + 1 else k - 1

lemma source_pairs (n k : ℕ) : source (pairs n) k = if k < 2 * n then partner k else k := by
  induction n generalizing k with
  | zero => rfl
  | succ n ih =>
      rw [pairs, List.range_succ, List.map_append, source_append, ← pairs, List.map_cons,
        List.map_nil, source_cons, source_nil, Equiv.swap_apply_def]
      simp only [partner] at ih ⊢
      split_ifs with h1 h2 <;> rw [ih] <;> split_ifs <;> omega

lemma within_pairs {m n : ℕ} : Within m (pairs n) ↔ 2 * n ≤ m := by
  simp only [Within, pairs, List.mem_map, List.mem_range, forall_exists_index, and_imp,
    forall_apply_eq_imp_iff₂]
  constructor
  · intro h
    cases n with
    | zero => omega
    | succ n => have := h n (by omega); omega
  · intro h i hi
    omega

/-! ### Blocks -/

/-- The swaps `l` on blocks of `w` positions. -/
def widen (w : ℕ) (l : List (ℕ × ℕ)) : List (ℕ × ℕ) :=
  l.flatMap fun p => (List.range w).map fun k => (w * p.1 + k, w * p.2 + k)

/-- A position determines its block and its place in it. -/
lemma block_inj {w a b c d : ℕ} (hc : c < w) (hd : d < w) :
    w * a + c = w * b + d ↔ a = b ∧ c = d := by
  constructor
  · intro h
    have hw : 0 < w := by omega
    have hdiv := congrArg (· / w) h
    have hmod := congrArg (· % w) h
    simp only [Nat.mul_add_div hw, Nat.mul_add_mod, Nat.div_eq_of_lt hc, Nat.div_eq_of_lt hd,
      Nat.mod_eq_of_lt hc, Nat.mod_eq_of_lt hd, add_zero] at hdiv hmod
    exact ⟨hdiv, hmod⟩
  · rintro ⟨rfl, rfl⟩
    rfl

/-- The first `m` positions of two blocks swapped. -/
lemma source_block {w m i j r t : ℕ} (hm : m ≤ w) (ht : t < w) :
    source ((List.range m).map fun k => (w * i + k, w * j + k)) (w * r + t)
      = if t < m then w * Equiv.swap i j r + t else w * r + t := by
  induction m generalizing r with
  | zero => simp
  | succ m ih =>
      rw [List.range_succ, List.map_append, source_append, List.map_cons, List.map_nil,
        source_cons, source_nil, Equiv.swap_apply_def]
      simp only [block_inj ht (show m < w by omega)]
      by_cases htm : t = m
      · subst htm
        -- The last swap moves this position, the earlier ones leave it.
        simp only [and_true]
        rw [if_pos (Nat.lt_succ_self t), Equiv.swap_apply_def]
        split_ifs <;> rw [ih (by omega), if_neg (lt_irrefl t)]
      · simp only [htm, and_false, if_false]
        rw [ih (by omega)]
        simp only [show t < m + 1 ↔ t < m by omega]

lemma source_widen {w t : ℕ} (l : List (ℕ × ℕ)) (r : ℕ) (ht : t < w) :
    source (widen w l) (w * r + t) = w * source l r + t := by
  induction l with
  | nil => rfl
  | cons p l ih =>
      rw [widen, List.flatMap_cons, source_append, ← widen, ih, source_block le_rfl ht, if_pos ht,
        source_cons]

lemma within_widen {w m : ℕ} (hw : 0 < w) {l : List (ℕ × ℕ)} :
    Within m (widen w l) ↔ ∀ p ∈ l, w * p.1 + w ≤ m ∧ w * p.2 + w ≤ m := by
  simp only [Within, widen, List.mem_flatMap, List.mem_map, List.mem_range]
  constructor
  · intro h p hp
    have hlast := h (w * p.1 + (w - 1), w * p.2 + (w - 1)) ⟨p, hp, w - 1, by omega, rfl⟩
    omega
  · rintro h q ⟨p, hp, k, hk, rfl⟩
    have hp := h p hp
    omega

end Exchange
