import Mathlib

/-!
Texts in which a quoted value follows a marker.

`search` is the place of the next letter `c`, and `firstOf` that of the first occurrence of a word.
`Parts` are the parts of a text with a marker: what is in front of it, the gaps around the
separator, the value between two quotes and what is behind.  They are `Valid` when the marker is its
first occurrence and the separator and the quotes are the next ones.

`exists_front` finds what is in front of the marker, and `head_unique` says that the parts in front
of the value can be read off every text that begins with them, whatever follows; by `text_unique`
all of them can.
-/

namespace Quoted

variable {α : Type*} [DecidableEq α]

/-! ### The next letter -/

/-- The place of the next `c` from `pos` on, or the end of the text. -/
def search (c : α) (text : List α) (pos : ℕ) : ℕ :=
  pos + ((text.drop pos).takeWhile (· ≠ c)).length

lemma le_search (c : α) (text : List α) (pos : ℕ) : pos ≤ search c text pos := Nat.le_add_right _ _

lemma search_length (c : α) (text : List α) : search c text text.length = text.length := by
  rw [search, List.drop_length, List.takeWhile_nil, List.length_nil, Nat.add_zero]

lemma search_of_eq {c : α} {text : List α} {pos : ℕ} (h : pos < text.length) (hc : text[pos] = c) :
    search c text pos = pos := by
  rw [search, List.drop_eq_getElem_cons h, hc]
  simp

lemma search_of_ne {c : α} {text : List α} {pos : ℕ} (h : pos < text.length) (hc : text[pos] ≠ c) :
    search c text pos = search c text (pos + 1) := by
  have htake : (text[pos] :: text.drop (pos + 1)).takeWhile (· ≠ c) =
      text[pos] :: (text.drop (pos + 1)).takeWhile (· ≠ c) :=
    List.takeWhile_cons_of_pos (decide_eq_true hc)
  rw [search, search, List.drop_eq_getElem_cons h, htake, List.length_cons]
  omega

/-- The letters before the next `c` are others. -/
lemma search_append {c : α} {b : List α} (h : c ∉ b) (a d : List α) :
    search c (a ++ (b ++ c :: d)) a.length = a.length + b.length := by
  have hpos : ∀ x ∈ b, decide (x ≠ c) = true := fun x hx =>
    decide_eq_true fun heq => h (heq ▸ hx)
  rw [search, List.drop_left, List.takeWhile_append_of_pos hpos,
    List.takeWhile_cons_of_neg (by simp), List.append_nil]

/-- A search that stops before the end has found its letter. -/
lemma exists_of_search_lt {c : α} {a b : List α}
    (h : search c (a ++ b) a.length < (a ++ b).length) :
    ∃ gap rest, c ∉ gap ∧ b = gap ++ c :: rest := by
  rw [search, List.drop_left, List.length_append] at h
  have hsplit := List.takeWhile_append_dropWhile (p := (· ≠ c)) (l := b)
  cases hback : b.dropWhile (· ≠ c) with
  | nil =>
      rw [hback, List.append_nil] at hsplit
      rw [hsplit] at h
      exact absurd h (lt_irrefl _)
  | cons d rest =>
      have hd : d = c := by
        have hhead := List.head?_dropWhile_not (· ≠ c) b
        rw [hback] at hhead
        simpa using hhead
      rw [hback, hd] at hsplit
      refine ⟨_, rest, fun hmem => ?_, hsplit.symm⟩
      simpa using List.mem_takeWhile_imp hmem

/-- The letters in front of the first `c` are determined. -/
lemma append_cons_inj {c : α} {a b u v : List α} (ha : c ∉ a) (hb : c ∉ b)
    (h : a ++ c :: u = b ++ c :: v) : a = b ∧ u = v := by
  have hlength := search_append ha [] u
  rw [List.nil_append, h, ← List.nil_append (b ++ c :: v), search_append hb [] v] at hlength
  obtain ⟨hab, huv⟩ := List.append_inj h (by omega)
  exact ⟨hab, List.tail_eq_of_cons_eq huv⟩

/-! ### The first occurrence -/

/-- The place of the first occurrence of a word. -/
def firstOf (marker : List α) : List α → Option ℕ
  | [] => if marker = [] then some 0 else none
  | a :: text =>
      if marker <+: a :: text then some 0 else (firstOf marker text).map (· + 1)

lemma firstOf_eq_some_iff {marker text : List α} {i : ℕ} :
    firstOf marker text = some i ↔
      marker <+: text.drop i ∧ ∀ j < i, ¬marker <+: text.drop j := by
  induction text generalizing i with
  | nil =>
      simp only [firstOf, List.drop_nil, List.prefix_nil]
      split_ifs with h
      · rw [Option.some.injEq]
        constructor
        · rintro rfl
          exact ⟨h, fun j hj => absurd hj (Nat.not_lt_zero j)⟩
        · rintro ⟨-, hall⟩
          by_contra hi
          exact hall 0 (Nat.pos_of_ne_zero (Ne.symm hi)) h
      · simp [h]
  | cons a text ih =>
      rw [firstOf]
      split_ifs with h
      · rw [Option.some.injEq]
        constructor
        · rintro rfl
          exact ⟨h, fun j hj => absurd hj (Nat.not_lt_zero j)⟩
        · rintro ⟨-, hall⟩
          by_contra hi
          exact hall 0 (Nat.pos_of_ne_zero (Ne.symm hi)) h
      · cases i with
        | zero => simp [h]
        | succ i =>
            rw [Option.map_eq_some_iff]
            simp only [Nat.add_right_cancel_iff, exists_eq_right, ih, List.drop_succ_cons]
            refine and_congr_right fun _ => ⟨fun hall j hj => ?_, fun hall j hj => ?_⟩
            · cases j with
              | zero => exact h
              | succ j => exact hall j (by omega)
            · exact hall (j + 1) (by omega)

/-- A word that occurs splits the text, and has no earlier occurrence in front. -/
lemma exists_front {marker text : List α} {i : ℕ} (h : firstOf marker text = some i) :
    ∃ front x, text = front ++ (marker ++ x) ∧ front.length = i ∧
      ∀ j < i, ¬marker <+: (front ++ marker).drop j := by
  obtain ⟨⟨x, hx⟩, hfirst⟩ := firstOf_eq_some_iff.mp h
  by_cases hi : i ≤ text.length
  case neg =>
    -- behind the end there is only the empty word, which occurs at the beginning
    rw [List.drop_eq_nil_of_le (not_le.mp hi).le] at hx
    rw [(List.append_eq_nil_iff.mp hx).1] at hfirst
    exact absurd (List.nil_prefix) (hfirst 0 (by omega))
  have hlength : (text.take i).length = i := List.length_take_of_le hi
  have htext : text = text.take i ++ (marker ++ x) := by rw [hx, List.take_append_drop]
  refine ⟨text.take i, x, htext, hlength, fun j hj hprefix => hfirst j hj ?_⟩
  rw [htext, ← List.append_assoc, List.drop_append_of_le_length
    (by rw [List.length_append]; omega)]
  exact hprefix.trans (List.prefix_append _ _)

/-! ### The parts -/

/-- A text with a marker and a value. -/
structure Parts (α : Type*) where
  front : List α
  gap : List α
  gap' : List α
  value : List α
  back : List α

namespace Parts

variable (marker : List α) (sep quote : α)

/-- What is in front of the value. -/
def head (p : Parts α) : List α := p.front ++ (marker ++ (p.gap ++ sep :: (p.gap' ++ [quote])))

/-- The whole text. -/
def text (p : Parts α) : List α := p.head marker sep quote ++ (p.value ++ quote :: p.back)

/-- The marker is its first occurrence, and the separator and the quotes are the next ones. -/
structure Valid (p : Parts α) : Prop where
  first : ∀ i < p.front.length, ¬marker <+: (p.front ++ marker).drop i
  gap : sep ∉ p.gap
  gap' : quote ∉ p.gap'
  value : quote ∉ p.value

variable {marker sep quote} {p q : Parts α}

omit [DecidableEq α] in
/-- What follows the marker has no part in its first occurrence. -/
lemma Valid.not_prefix (h : p.Valid marker sep quote) (x : List α) {i : ℕ}
    (hi : i < p.front.length) : ¬marker <+: (p.front ++ (marker ++ x)).drop i := by
  intro hprefix
  rw [← List.append_assoc, List.drop_append_of_le_length
    (by rw [List.length_append]; omega)] at hprefix
  refine h.first i hi (List.prefix_of_prefix_length_le hprefix (List.prefix_append _ _) ?_)
  rw [List.length_drop, List.length_append]
  omega

lemma Valid.firstOf (h : p.Valid marker sep quote) (x : List α) :
    firstOf marker (p.front ++ (marker ++ x)) = some p.front.length := by
  rw [firstOf_eq_some_iff, List.drop_left]
  exact ⟨List.prefix_append _ _, fun _ => h.not_prefix x⟩

/-- The parts in front of the value can be read off a text that begins with them. -/
theorem head_unique (hp : p.Valid marker sep quote) (hq : q.Valid marker sep quote) {x y : List α}
    (h : p.head marker sep quote ++ x = q.head marker sep quote ++ y) :
    p.front = q.front ∧ p.gap = q.gap ∧ p.gap' = q.gap' ∧ x = y := by
  simp only [head, List.append_assoc, List.cons_append, List.nil_append] at h
  have hlength : p.front.length = q.front.length := by
    have hfirst := hp.firstOf (p.gap ++ sep :: (p.gap' ++ quote :: x))
    rw [h, hq.firstOf, Option.some.injEq] at hfirst
    exact hfirst.symm
  obtain ⟨hfront, h⟩ := List.append_inj h hlength
  have h := List.append_cancel_left h
  obtain ⟨hgap, h⟩ := append_cons_inj hp.gap hq.gap h
  obtain ⟨hgap', h⟩ := append_cons_inj hp.gap' hq.gap' h
  exact ⟨hfront, hgap, hgap', h⟩

/-- All of the parts can be read off the text. -/
theorem text_unique (hp : p.Valid marker sep quote) (hq : q.Valid marker sep quote)
    (h : p.text marker sep quote = q.text marker sep quote) : p = q := by
  obtain ⟨hfront, hgap, hgap', hrest⟩ := head_unique hp hq h
  obtain ⟨hvalue, hback⟩ := append_cons_inj hp.value hq.value hrest
  cases p
  cases q
  simp_all only

end Parts

end Quoted
