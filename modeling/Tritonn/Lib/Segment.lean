import Mathlib

/-!
Streams of blocks that arrive in chunks.

A stream is the concatenation of a list of blocks, and a chunk a prefix of what is left of it.
`prefix_flatten` splits a chunk at the last boundary of a block: it is a group of whole blocks,
followed by nothing or by a proper part of the next block.  `Grouped` says of a list of chunks that
each of them is a group of whole blocks.  `getElem?_flatMap_range` reads a row of blocks of one
width at a place of a block.
-/

namespace Segment

variable {α : Type*}

/-- A proper part of a block: neither nothing nor the whole block. -/
structure Part (part block : List α) : Prop where
  isPrefix : part <+: block
  ne_nil : part ≠ []
  lt : part.length < block.length

/-- A chunk of a stream of blocks is a group of whole blocks, or such a group and a proper part of
the next block. -/
theorem prefix_flatten {blocks : List (List α)} {chunk : List α} (h : chunk <+: blocks.flatten) :
    ∃ g rest, blocks = g ++ rest ∧
      (chunk = g.flatten ∨
        ∃ block rest' part, rest = block :: rest' ∧ chunk = g.flatten ++ part ∧
          Part part block) := by
  induction blocks generalizing chunk with
  | nil => exact ⟨[], [], rfl, .inl (List.prefix_nil.mp h)⟩
  | cons block blocks ih =>
      rw [List.flatten_cons] at h
      by_cases hlen : chunk.length < block.length
      · refine ⟨[], block :: blocks, rfl, ?_⟩
        rcases eq_or_ne chunk [] with rfl | hne
        · exact .inl rfl
        · refine .inr ⟨block, blocks, chunk, rfl, rfl, ?_, hne, hlen⟩
          exact List.prefix_of_prefix_length_le h (List.prefix_append _ _) hlen.le
      · -- The whole block is in the chunk; what follows it is a chunk of the other blocks.
        obtain ⟨tail, rfl⟩ : block <+: chunk :=
          List.prefix_of_prefix_length_le (List.prefix_append _ _) h (not_lt.mp hlen)
        obtain ⟨g, rest, hblocks, hchunk⟩ := ih ((List.prefix_append_right_inj block).mp h)
        refine ⟨block :: g, rest, by rw [hblocks, List.cons_append], ?_⟩
        rcases hchunk with rfl | ⟨next, rest', part, hrest, rfl, hpart⟩
        · exact .inl rfl
        · exact .inr ⟨next, rest', part, hrest, by simp, hpart⟩

/-- Each chunk is a group of whole blocks, and the groups together are the blocks. -/
def Grouped (blocks : List (List α)) (chunks : List (List α)) : Prop :=
  ∃ groups : List (List (List α)), groups.flatten = blocks ∧ chunks = groups.map List.flatten

lemma grouped_nil : Grouped (α := α) [] [] := ⟨[], rfl, rfl⟩

lemma Grouped.cons {blocks g : List (List α)} {chunks : List (List α)} (h : Grouped blocks chunks) :
    Grouped (g ++ blocks) (g.flatten :: chunks) := by
  obtain ⟨groups, rfl, rfl⟩ := h
  exact ⟨g :: groups, by simp, by simp⟩

/-- Groups of blocks that a map makes are made of groups of what it is applied to. -/
lemma Grouped.of_map {β : Type*} {f : β → List α} {l : List β} {chunks : List (List α)}
    (h : Grouped (l.map f) chunks) :
    ∃ groups : List (List β), groups.flatten = l ∧
      chunks = groups.map fun g => (g.map f).flatten := by
  obtain ⟨blocks, hflat, rfl⟩ := h
  induction blocks generalizing l with
  | nil =>
      obtain rfl : l = [] := List.map_eq_nil_iff.mp hflat.symm
      exact ⟨[], rfl, rfl⟩
  | cons g blocks ih =>
      rw [List.flatten_cons] at hflat
      obtain ⟨l₁, l₂, rfl, rfl, hl₂⟩ := List.map_eq_append_iff.mp hflat.symm
      obtain ⟨groups, rfl, hgroups⟩ := ih hl₂.symm
      exact ⟨l₁ :: groups, rfl, by rw [List.map_cons, hgroups, List.map_cons]⟩

/-! ### Blocks of one width -/

/-- The place `t` of the block `i` in a row of blocks of the width `w`. -/
lemma getElem?_flatMap_range {f : ℕ → List α} {w : ℕ} (hf : ∀ i, (f i).length = w) {n i t : ℕ}
    (hi : i < n) (ht : t < w) : ((List.range n).flatMap f)[w * i + t]? = (f i)[t]? := by
  have hlen : ∀ m, ((List.range m).flatMap f).length = w * m := by
    intro m
    rw [List.length_flatMap, List.map_congr_left fun a _ => hf a]
    simp [Nat.mul_comm]
  induction n with
  | zero => omega
  | succ n ih =>
      rw [List.range_succ, List.flatMap_append, List.flatMap_singleton]
      rcases Nat.lt_succ_iff_lt_or_eq.mp hi with hlt | rfl
      · -- The block is one of the earlier ones, which end before the last.
        have hle : w * (i + 1) ≤ w * n := Nat.mul_le_mul_left w hlt
        rw [Nat.mul_succ] at hle
        rw [List.getElem?_append_left (by rw [hlen]; omega)]
        exact ih hlt
      · rw [List.getElem?_append_right (by rw [hlen]; omega), hlen, Nat.add_sub_cancel_left]

end Segment
