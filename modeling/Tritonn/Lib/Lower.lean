import Mathlib

/-!
Texts in lower case.

`String.toLower` changes the letters from `A` to `Z` alone, and what it gives is in lower case:
`toLower_toLower`.  Two texts are equal up to the case of these letters when their lower cases are
equal.  `toLower_eq_self` and `toLower_of_mem` say it character by character.
-/

namespace Lower

/-- A letter in lower case is none in upper case. -/
lemma char_toLower_toLower (c : Char) : c.toLower.toLower = c.toLower := by
  by_cases h : c.val ≥ 'A'.val ∧ c.val ≤ 'Z'.val
  · have hnot : ¬(c.val + ('a'.val - 'A'.val) ≥ 'A'.val ∧
        c.val + ('a'.val - 'A'.val) ≤ 'Z'.val) := by
      rintro ⟨-, hle⟩
      have hlow : (65 : ℕ) ≤ c.val.toNat := h.1
      have hhigh : c.val.toNat ≤ 90 := h.2
      have hsum : (c.val + ('a'.val - 'A'.val)).toNat ≤ 90 := hle
      have hstep : (c.val + ('a'.val - 'A'.val)).toNat = (c.val.toNat + 32) % 2 ^ 32 :=
        UInt32.toNat_add _ _
      omega
    rw [Char.toLower, Char.toLower, dif_pos h, dif_neg hnot]
  · rw [Char.toLower, Char.toLower, dif_neg h, dif_neg h]

theorem toLower_toLower (s : String) : s.toLower.toLower = s.toLower := by
  rw [String.toLower, String.toLower, ← String.toList_inj, String.toList_map, String.toList_map,
    List.map_map]
  exact List.map_congr_left fun c _ => char_toLower_toLower c

/-- A text without letters in upper case is in lower case. -/
lemma toLower_eq_self {s : String} (h : ∀ c ∈ s.toList, c.toLower = c) : s.toLower = s := by
  rw [String.toLower, ← String.toList_inj, String.toList_map]
  exact (List.map_congr_left h).trans (List.map_id _)

/-- The characters of a text in lower case are so. -/
lemma toLower_of_mem {s : String} (h : s.toLower = s) : ∀ c ∈ s.toList, c.toLower = c := by
  intro c hc
  rw [← h, String.toLower, String.toList_map] at hc
  obtain ⟨c', -, rfl⟩ := List.mem_map.mp hc
  exact char_toLower_toLower c'

end Lower
