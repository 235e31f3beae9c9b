import Mathlib

/-!
Records that follow each other, each a tag and a value whose length the tag gives.

`find` walks over the first `n` places of a memory and gives the place of the record with a number;
it is undefined if it has to read behind the memory.  If what is walked over is a concatenation of
records, `find_flatten` says that each record is found at the end of those in front of it, and that
there are no others.  `find_isSome` says that the walk stays inside whatever the memory holds, as
long as the places are.
-/

namespace Tagged

variable {α : Type*} (len : α → ℕ)

/-- A record: a tag and a value of the length of the tag. -/
def Record (b : List α) : Prop := ∃ t v, b = t :: v ∧ v.length = len t

/-- The place of the record with the number `i` among those in the places from `pos` to `n`. -/
def find (m : List α) (n : ℕ) : ℕ → ℕ → Option (Option ℕ)
  | 0, pos =>
      if pos < n then
        match m[pos]? with
        | none => none
        | some _ => some (some pos)
      else some none
  | i + 1, pos =>
      if pos < n then
        match m[pos]? with
        | none => none
        | some t => find m n i (pos + 1 + len t)
      else some none

variable {len}

lemma find_zero {m : List α} {n pos : ℕ} {t : α} (h : pos < n) (ht : m[pos]? = some t) :
    find len m n 0 pos = some (some pos) := by
  rw [find, if_pos h, ht]

lemma find_succ {m : List α} {n pos : ℕ} {t : α} (h : pos < n) (ht : m[pos]? = some t) (i : ℕ) :
    find len m n (i + 1) pos = find len m n i (pos + 1 + len t) := by
  rw [find, if_pos h, ht]

/-- Behind the last place nothing is found. -/
lemma find_of_le (m : List α) {n i pos : ℕ} (h : n ≤ pos) : find len m n i pos = some none := by
  cases i <;> exact if_neg (not_lt.mpr h)

/-- The walk reads the memory only in front of the last place. -/
lemma find_isSome (m : List α) {n : ℕ} (h : n ≤ m.length) (i pos : ℕ) :
    ∃ r, find len m n i pos = some r := by
  induction i generalizing pos with
  | zero =>
      by_cases hpos : pos < n
      · exact ⟨_, find_zero hpos (List.getElem?_eq_getElem (hpos.trans_le h))⟩
      · exact ⟨none, find_of_le m (not_lt.mp hpos)⟩
  | succ i ih =>
      by_cases hpos : pos < n
      · rw [find_succ hpos (List.getElem?_eq_getElem (hpos.trans_le h))]
        exact ih _
      · exact ⟨none, find_of_le m (not_lt.mp hpos)⟩

/-- What is found is one of the places that are walked over. -/
lemma find_lt {m : List α} {n i pos p : ℕ} (h : find len m n i pos = some (some p)) :
    p < n ∧ p < m.length := by
  induction i generalizing pos with
  | zero =>
      by_cases hpos : pos < n
      · rw [find, if_pos hpos] at h
        rcases hm : m[pos]? with _ | t
        · rw [hm] at h
          cases h
        · rw [hm] at h
          cases h
          exact ⟨hpos, (List.getElem?_eq_some_iff.mp hm).1⟩
      · rw [find_of_le m (not_lt.mp hpos)] at h
        cases h
  | succ i ih =>
      by_cases hpos : pos < n
      · rw [find, if_pos hpos] at h
        rcases hm : m[pos]? with _ | t
        · rw [hm] at h
          cases h
        · rw [hm] at h
          exact ih h
      · rw [find_of_le m (not_lt.mp hpos)] at h
        cases h

/-- The walk over records, from the end of those in `front` on. -/
lemma find_append {blocks : List (List α)} (hb : ∀ b ∈ blocks, Record len b)
    (front rest : List α) (i : ℕ) :
    find len (front ++ blocks.flatten ++ rest) (front.length + blocks.flatten.length) i
        front.length =
      some (blocks[i]?.map fun _ => front.length + (blocks.take i).flatten.length) := by
  induction blocks generalizing front i with
  | nil =>
      rw [find_of_le _ (by simp)]
      rfl
  | cons b blocks ih =>
      obtain ⟨t, v, rfl, hv⟩ := hb b List.mem_cons_self
      have hlt : front.length < front.length + ((t :: v) :: blocks).flatten.length := by
        rw [List.flatten_cons, List.length_append, List.length_cons]
        omega
      have htag : (front ++ ((t :: v) :: blocks).flatten ++ rest)[front.length]? = some t := by
        rw [List.append_assoc, List.getElem?_append_right le_rfl, Nat.sub_self]
        rfl
      cases i with
      | zero => exact find_zero hlt htag
      | succ i =>
          -- The step over the value leads to the end of the record, where the others begin.
          have hpos : front.length + 1 + len t = (front ++ (t :: v)).length := by
            rw [List.length_append, List.length_cons, hv]
            omega
          have hmem : front ++ ((t :: v) :: blocks).flatten ++ rest =
              (front ++ (t :: v)) ++ blocks.flatten ++ rest := by
            rw [List.flatten_cons, ← List.append_assoc front]
          have hlen : front.length + ((t :: v) :: blocks).flatten.length =
              (front ++ (t :: v)).length + blocks.flatten.length := by
            rw [List.flatten_cons, List.length_append, List.length_append, Nat.add_assoc]
          rw [find_succ hlt htag, hpos, hmem, hlen]
          refine (ih (fun b h => hb b (List.mem_cons_of_mem _ h)) _ i).trans ?_
          rw [List.getElem?_cons_succ, List.take_succ_cons, List.flatten_cons, List.length_append,
            List.length_append, Nat.add_assoc]

/-- A record is found at the end of those in front of it, and there are no others. -/
theorem find_flatten {blocks : List (List α)} (hb : ∀ b ∈ blocks, Record len b) (rest : List α)
    (i : ℕ) :
    find len (blocks.flatten ++ rest) blocks.flatten.length i 0 =
      some (blocks[i]?.map fun _ => (blocks.take i).flatten.length) := by
  have h := find_append hb [] rest i
  simpa only [List.nil_append, List.length_nil, Nat.zero_add] using h

/-- Where a record is found its tag and its value are. -/
lemma drop_flatten {blocks : List (List α)} {i : ℕ} {b : List α} (h : blocks[i]? = some b)
    (rest : List α) :
    (blocks.flatten ++ rest).drop (blocks.take i).flatten.length =
      b ++ ((blocks.drop (i + 1)).flatten ++ rest) := by
  have hsplit : blocks.flatten = (blocks.take i).flatten ++ (blocks.drop i).flatten := by
    rw [← List.flatten_append, List.take_append_drop]
  obtain ⟨hi, rfl⟩ := List.getElem?_eq_some_iff.mp h
  rw [hsplit, List.append_assoc, List.drop_left, List.drop_eq_getElem_cons hi, List.flatten_cons,
    List.append_assoc]

end Tagged
