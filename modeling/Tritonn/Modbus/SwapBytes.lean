import Tritonn.Modbus.RoundTrip

/-!
`SwapBuffer` on a buffer of registers.

* `otherHalf w k` is the place of the byte `k` in the other half of its group of `2 * w` bytes;
* `SwapOk` is what the exchanges of a buffer are for: they stay in it, undo themselves, and with one
  of the three settings exchange the halves of all its groups;
* `Swappable` is the condition on the setting and the size.

`swapBuffer_iff` says that the two are the same.  What the exchanges bring to a byte is
`Swap.source_exchanges`: the loop over the words counts in words, the one over the bytes ends before
the last register, and of the double words only the first two are exchanged.
-/

namespace Tritonn

open Result

/-- The place in the other half of a group of `2 * w` bytes. -/
def otherHalf (w k : ℕ) : ℕ := w * Exchange.partner (k / w) + k % w

/-- The bytes of each group of `2 * w` bytes are those of its other half. -/
def HalvesExchanged (w : ℕ) (b b' : List UInt8) : Prop :=
  ∀ k < b.length, b'[k]? = b[otherHalf w k]?

namespace Swap

/-- What `SwapBuffer` has to do with a buffer of `n` bytes. -/
structure SwapOk (swap : Swap) (n : ℕ) : Prop where
  inside : ∀ (fault : ℕ → Fault) (b : List UInt8), b.length = n →
    ∃ b', swap.swapBuffer fault b 0 n = .ok b'
  involution : ∀ (fault : ℕ → Fault) (b b' : List UInt8), b.length = n →
    swap.swapBuffer fault b 0 n = .ok b' → swap.swapBuffer fault b' 0 n = .ok b
  bytes : swap.byte ≠ 0 → swap.word = 0 → swap.dword = 0 →
    ∀ (fault : ℕ → Fault) (b b' : List UInt8), b.length = n →
      swap.swapBuffer fault b 0 n = .ok b' → HalvesExchanged 1 b b'
  words : swap.byte = 0 → swap.word ≠ 0 → swap.dword = 0 → n % 4 = 0 →
    ∀ (fault : ℕ → Fault) (b b' : List UInt8), b.length = n →
      swap.swapBuffer fault b 0 n = .ok b' → HalvesExchanged 2 b b'
  dwords : swap.byte = 0 → swap.word = 0 → swap.dword ≠ 0 → n % 8 = 0 →
    ∀ (fault : ℕ → Fault) (b b' : List UInt8), b.length = n →
      swap.swapBuffer fault b 0 n = .ok b' → HalvesExchanged 4 b b'

/-- The condition: the buffer is empty; or the words are not exchanged, because the setting is off
or the size no multiple of four, or are those of a buffer of four bytes whose bytes are left alone;
the bytes are not exchanged alone, nor with the double words of a buffer of eight bytes; and double
words that are exchanged alone are those of a buffer of eight bytes, or are not because of the
size. -/
def Swappable (swap : Swap) (n : ℕ) : Prop :=
  n = 0 ∨
    ((swap.word ≠ 0 → n % 4 ≠ 0 ∨ (n = 4 ∧ swap.byte = 0)) ∧
      (swap.byte ≠ 0 → swap.word ≠ 0 ∨ swap.dword ≠ 0) ∧
      (swap.byte ≠ 0 → swap.dword ≠ 0 → n ≠ 8) ∧
      (swap.byte = 0 → swap.word = 0 → swap.dword ≠ 0 → n % 8 ≠ 0 ∨ n = 8))

/-- The place from which the byte `k` is brought. -/
def moved (swap : Swap) (n k : ℕ) : ℕ := Exchange.source (swap.exchanges n) k

variable {swap : Swap} {n m : ℕ}

/-- Two places with the same content in all buffers are one. -/
lemma eq_of_forall_getElem? {i j : ℕ} (hj : j < n)
    (h : ∀ b : List UInt8, b.length = n → b[i]? = b[j]?) : i = j := by
  by_contra hne
  have hb := h ((List.replicate n 0).set j 1) (by rw [List.length_set, List.length_replicate])
  rw [List.getElem?_set_self (by rwa [List.length_replicate]),
    List.getElem?_set_ne (Ne.symm hne), List.getElem?_replicate] at hb
  split at hb
  · exact absurd (Option.some.inj hb) (by decide)
  · cases hb

/-- What the exchanges leave, in a buffer of its own. -/
lemma getElem?_swapBuffer {fault : ℕ → Fault} {b b' : List UInt8}
    (h : swap.swapBuffer fault b 0 n = .ok b') (k : ℕ) : b'[k]? = b[swap.moved n k]? := by
  have hk := (swapBuffer_spec h).2 (0 + k)
  rwa [Exchange.source_shift, Nat.zero_add, Nat.zero_add] at hk

lemma inside_iff : (∀ (fault : ℕ → Fault) (b : List UInt8), b.length = n →
    ∃ b', swap.swapBuffer fault b 0 n = .ok b') ↔ swap.reach n ≤ n := by
  refine ⟨fun h => ?_, fun h fault b hb => ?_⟩
  · have hok := h .stack (List.replicate n 0) List.length_replicate
    rwa [swapBuffer_ok_iff, List.length_replicate, Nat.sub_zero] at hok
  · rwa [swapBuffer_ok_iff, hb, Nat.sub_zero]

/-- In buffers of their own, the exchanges exchange halves if and only if each byte is brought from
the other half. -/
lemma halves_iff (hr : swap.reach n ≤ n) {w : ℕ} (hw : ∀ k < n, otherHalf w k < n) :
    (∀ (fault : ℕ → Fault) (b b' : List UInt8), b.length = n →
        swap.swapBuffer fault b 0 n = .ok b' → HalvesExchanged w b b') ↔
      ∀ k < n, swap.moved n k = otherHalf w k := by
  refine ⟨fun h k hk => eq_of_forall_getElem? (hw k hk) fun b hb => ?_,
    fun h fault b b' hb hok k hk => ?_⟩
  · obtain ⟨b', hb'⟩ := inside_iff.mpr hr .stack b hb
    rw [← getElem?_swapBuffer hb']
    exact h .stack b b' hb hb' k (by rwa [hb])
  · rw [getElem?_swapBuffer hok, h k (by rwa [← hb])]

/-- The exchanges undo themselves if and only if the places do. -/
lemma involution_iff (hr : swap.reach n ≤ n) :
    (∀ (fault : ℕ → Fault) (b b' : List UInt8), b.length = n →
        swap.swapBuffer fault b 0 n = .ok b' → swap.swapBuffer fault b' 0 n = .ok b) ↔
      ∀ k < n, swap.moved n (swap.moved n k) = k := by
  refine ⟨fun h k hk => eq_of_forall_getElem? hk fun b hb => ?_, fun h fault b b' hb hok => ?_⟩
  · obtain ⟨b', hb'⟩ := inside_iff.mpr hr .stack b hb
    rw [← getElem?_swapBuffer hb', ← getElem?_swapBuffer (h .stack b b' hb hb')]
  · have hb' : b'.length = n := (swapBuffer_spec hok).1.trans hb
    obtain ⟨b'', hok'⟩ := inside_iff.mpr hr fault b' hb'
    have hb'' : b''.length = n := (swapBuffer_spec hok').1.trans hb'
    rw [hok']
    refine congrArg _ (List.ext_getElem? fun k => ?_)
    by_cases hk : k < n
    · rw [getElem?_swapBuffer hok', getElem?_swapBuffer hok, h k hk]
    · rw [List.getElem?_eq_none (by omega), List.getElem?_eq_none (by omega)]

/-! ### The places, register by register -/

variable {p t : ℕ}

lemma moved_eq (hp : p < m) (ht : t < 2) :
    swap.moved (m * 2) (2 * p + t) =
      2 * swap.register m p + if swap.Flips m p then 1 - t else t := source_exchanges swap hp ht

/-- A byte by its register and its place in it. -/
lemma forall_places_iff {P : ℕ → Prop} :
    (∀ k < m * 2, P k) ↔ ∀ p < m, ∀ t < 2, P (2 * p + t) := by
  refine ⟨fun h p hp t ht => h _ (by omega), fun h k hk => ?_⟩
  have hk' := h (k / 2) (by omega) (k % 2) (by omega)
  rwa [Nat.div_add_mod] at hk'

/-- The exchange of words is the only one that can leave the buffer. -/
lemma reach_le_iff : swap.reach (m * 2) ≤ m * 2 ↔ (swap.word ≠ 0 → m % 2 ≠ 0 ∨ m ≤ 2) := by
  have hd : (if swap.dword ≠ 0 ∧ m * 2 % 8 = 0 ∧ 8 ≤ m * 2 then 8 else 0) ≤ m * 2 := by
    split_ifs <;> omega
  have hb : (if swap.byte ≠ 0 ∧ m * 2 % 2 = 0 ∧ 2 ≤ m * 2 then m * 2 - 2 else 0) ≤ m * 2 := by
    split_ifs <;> omega
  rw [reach, max_le_iff, max_le_iff, and_iff_right hd, and_iff_left hb]
  by_cases hw : swap.word = 0
  · simp [hw]
  · simp only [ne_eq, hw, not_false_eq_true, true_and, forall_const]
    split_ifs <;> omega

/-- A register is exchanged with its neighbour, or with the one two further, or not at all; the one
it is exchanged with is the last if and only if it is itself, when the bytes are exchanged. -/
lemma register_register (hw : swap.word ≠ 0 → m % 2 ≠ 0 ∨ m ≤ 2)
    (h : swap.byte ≠ 0 → (swap.word ≠ 0 → m ≠ 2) ∧ (swap.dword ≠ 0 → m ≠ 4)) (hp : p < m) :
    swap.register m (swap.register m p) = p ∧
      (swap.byte ≠ 0 → (swap.register m p + 1 < m ↔ p + 1 < m)) := by
  by_cases hword : swap.word = 0
  · by_cases hdword : swap.dword = 0
    · simp only [register, hword, hdword, ne_eq, not_true_eq_false, false_and, if_false]
      exact ⟨trivial, fun _ => trivial⟩
    · simp only [register, hword, hdword, ne_eq, not_true_eq_false, not_false_eq_true,
        false_and, true_and, if_false]
      refine ⟨by split_ifs <;> omega, fun hb => ?_⟩
      have hm := (h hb).2 hdword
      split_ifs <;> omega
  · have hm := hw hword
    have hfour : ¬ (swap.dword ≠ 0 ∧ m % 4 = 0 ∧ m % 2 = 0) := fun hd => by omega
    have hregister : ∀ q, swap.register m q = if m % 2 = 0 then Exchange.partner q else q := by
      intro q
      simp only [register, ne_eq, hword, not_false_eq_true, true_and]
      split_ifs <;> first | rfl | omega
    rw [hregister, hregister, Exchange.partner]
    refine ⟨by rw [Exchange.partner]; split_ifs <;> omega, fun hb => ?_⟩
    have hm' := (h hb).1 hword
    split_ifs <;> omega

/-- Registers are exchanged in pairs, and a pair must agree on whether its bytes are. -/
lemma moved_moved_iff (hw : swap.word ≠ 0 → m % 2 ≠ 0 ∨ m ≤ 2) :
    (∀ k < m * 2, swap.moved (m * 2) (swap.moved (m * 2) k) = k) ↔
      (swap.byte ≠ 0 → (swap.word ≠ 0 → m ≠ 2) ∧ (swap.dword ≠ 0 → m ≠ 4)) := by
  have hstep : ∀ p < m, ∀ t < 2, swap.moved (m * 2) (swap.moved (m * 2) (2 * p + t)) =
      2 * swap.register m (swap.register m p) +
        if swap.Flips m (swap.register m p) then 1 - (if swap.Flips m p then 1 - t else t)
        else if swap.Flips m p then 1 - t else t := by
    intro p hp t ht
    rw [moved_eq hp ht, moved_eq (register_lt _ hp) (by split_ifs <;> omega)]
  rw [forall_places_iff]
  constructor
  · intro h hb
    refine ⟨fun hword hm => ?_, fun hdword hm => ?_⟩
    · -- Of two registers the first is exchanged with the second, and only its bytes are.
      have h0 := h 0 (by omega) 0 (by omega)
      rw [hstep 0 (by omega) 0 (by omega)] at h0
      subst hm
      simp [register, Exchange.partner, Flips, hb, hword] at h0
    · have hword : swap.word = 0 := by
        by_contra hword
        have := hw hword
        omega
      have h1 := h 1 (by omega) 0 (by omega)
      rw [hstep 1 (by omega) 0 (by omega)] at h1
      subst hm
      simp [register, Flips, hb, hword, hdword] at h1
  · intro h p hp t ht
    rw [hstep p hp t ht]
    obtain ⟨hreg, hlast⟩ := register_register hw h hp
    have hflip : swap.Flips m (swap.register m p) ↔ swap.Flips m p := and_congr_right hlast
    simp only [hreg, hflip]
    split_ifs <;> omega

/-- The last register keeps its bytes. -/
lemma bytes_moved_iff (hw : swap.word = 0) (hd : swap.dword = 0) :
    (∀ k < m * 2, swap.moved (m * 2) k = otherHalf 1 k) ↔ m = 0 := by
  rw [forall_places_iff]
  constructor
  · intro h
    by_contra hm
    have hlast := h (m - 1) (by omega) 0 (by omega)
    have hflip : ¬ swap.Flips m (m - 1) := fun h => by
      have := h.2
      omega
    rw [moved_eq (by omega) (by omega), if_neg hflip, otherHalf, Exchange.partner] at hlast
    simp only [register, hw, hd, ne_eq, not_true_eq_false, false_and, if_false] at hlast
    split_ifs at hlast <;> omega
  · rintro rfl p hp
    exact absurd hp (Nat.not_lt_zero p)

lemma words_moved (hb : swap.byte = 0) (hw : swap.word ≠ 0) (hd : swap.dword = 0)
    (hm : m % 2 = 0) : ∀ k < m * 2, swap.moved (m * 2) k = otherHalf 2 k := by
  rw [forall_places_iff]
  intro p hp t ht
  rw [moved_eq hp ht, if_neg fun h => h.1 hb, otherHalf]
  simp only [register, hd, ne_eq, not_true_eq_false, false_and, if_false, hw, not_false_eq_true,
    hm, and_self, if_true]
  rw [Nat.mul_add_div two_pos, Nat.div_eq_of_lt ht, Nat.add_zero, Nat.mul_add_mod,
    Nat.mod_eq_of_lt ht]

/-- Only the first two double words are exchanged. -/
lemma dwords_moved_iff (hb : swap.byte = 0) (hw : swap.word = 0) (hd : swap.dword ≠ 0)
    (hm : m % 4 = 0) : (∀ k < m * 2, swap.moved (m * 2) k = otherHalf 4 k) ↔ m ≤ 4 := by
  have hmoved : ∀ p < m, ∀ t < 2, swap.moved (m * 2) (2 * p + t) =
      2 * (if p < 4 then (p + 2) % 4 else p) + t := by
    intro p hp t ht
    rw [moved_eq hp ht, if_neg fun h => h.1 hb]
    simp only [register, hw, hd, ne_eq, not_true_eq_false, not_false_eq_true, false_and, true_and,
      if_false, hm]
  rw [forall_places_iff]
  constructor
  · intro h
    by_contra hlt
    have h4 := h 4 (by omega) 0 (by omega)
    rw [hmoved 4 (by omega) 0 (by omega)] at h4
    exact absurd h4 (by decide)
  · intro hle p hp t ht
    rw [hmoved p hp t ht, otherHalf, Exchange.partner]
    split_ifs <;> omega

lemma otherHalf_lt {w : ℕ} (h : n % (2 * w) = 0) (hw : 0 < w) : ∀ k < n, otherHalf w k < n := by
  intro k hk
  obtain ⟨c, rfl⟩ := Nat.dvd_of_mod_eq_zero h
  have hpartner : ∀ q < 2 * c, Exchange.partner q + 1 ≤ 2 * c := by
    intro q hq
    rw [Exchange.partner]
    split_ifs <;> omega
  have hdiv : k / w < 2 * c :=
    Nat.div_lt_of_lt_mul (by rwa [← Nat.mul_assoc, Nat.mul_comm w 2])
  calc otherHalf w k < w * Exchange.partner (k / w) + w := Nat.add_lt_add_left (Nat.mod_lt k hw) _
    _ = w * (Exchange.partner (k / w) + 1) := (Nat.mul_succ _ _).symm
    _ ≤ w * (2 * c) := Nat.mul_le_mul_left w (hpartner _ hdiv)
    _ = 2 * w * c := by ring

/-- For every swap setting and every buffer of registers: the exchanges are what they should be if
and only if the size suits the setting. -/
theorem swapBuffer_iff (swap : Swap) (m : ℕ) :
    swap.SwapOk (m * 2) ↔ swap.Swappable (m * 2) := by
  have hhalf : ∀ {w}, 0 < w → m * 2 % (2 * w) = 0 → ∀ k < m * 2, otherHalf w k < m * 2 :=
    fun hw h => otherHalf_lt h hw
  constructor
  · intro h
    have hr := inside_iff.mp h.inside
    have hword := reach_le_iff.mp hr
    have hinv := (moved_moved_iff hword).mp ((involution_iff hr).mp h.involution)
    by_cases hm : m = 0
    · exact .inl (by omega)
    refine .inr ⟨fun hw => ?_, fun hb => ?_, fun hb hd => ?_, fun hb hw hd => ?_⟩
    · by_cases hb : swap.byte = 0
      · have := hword hw
        simp only [hb, and_true]
        omega
      · have := hword hw
        have := (hinv hb).1 hw
        omega
    · by_contra hnone
      obtain ⟨hw, hd⟩ := not_or.mp hnone
      exact hm ((bytes_moved_iff (not_not.mp hw) (not_not.mp hd)).mp
        ((halves_iff hr (hhalf one_pos (by omega))).mp
          (h.bytes hb (not_not.mp hw) (not_not.mp hd))))
    · have := (hinv hb).2 hd
      omega
    · by_cases h8 : m * 2 % 8 = 0
      · have := (dwords_moved_iff hb hw hd (by omega)).mp
          ((halves_iff hr (hhalf (by decide) h8)).mp (h.dwords hb hw hd h8))
        omega
      · exact .inl h8
  · intro h
    have hword : swap.word ≠ 0 → m % 2 ≠ 0 ∨ m ≤ 2 := by
      intro hw
      rcases h with h0 | ⟨h, -⟩
      · omega
      · have := h hw
        omega
    have hr := reach_le_iff.mpr hword
    refine ⟨inside_iff.mpr hr, (involution_iff hr).mpr ((moved_moved_iff hword).mpr fun hb => ?_),
      fun hb hw hd => ?_, fun hb hw hd h4 => ?_, fun hb hw hd h8 => ?_⟩
    · rcases h with h0 | ⟨h1, -, h3, -⟩
      · exact ⟨fun _ => by omega, fun _ => by omega⟩
      · refine ⟨fun hw => ?_, fun hd => ?_⟩
        · rcases h1 hw with h4 | ⟨-, hb'⟩
          · omega
          · exact absurd hb' hb
        · have := h3 hb hd
          omega
    · refine (halves_iff hr (hhalf one_pos (by omega))).mpr ((bytes_moved_iff hw hd).mpr ?_)
      rcases h with h0 | ⟨-, h2, -⟩
      · omega
      · rcases h2 hb with hw' | hd'
        · exact absurd hw hw'
        · exact absurd hd hd'
    · exact (halves_iff hr (hhalf two_pos h4)).mpr (words_moved hb hw hd (by omega))
    · refine (halves_iff hr (hhalf (by decide) h8)).mpr
        ((dwords_moved_iff hb hw hd (by omega)).mpr ?_)
      rcases h with h0 | ⟨-, -, -, h4⟩
      · omega
      · have := h4 hb hw hd
        omega

/-- With the setting of the constructor, the two bytes of a single register stay as they are. -/
theorem swapBuffer_fails : ¬ ({} : Swap).SwapOk 2 := by
  intro h
  have hb := h.bytes (by decide) rfl rfl .stack [1, 2] [1, 2] rfl swapBuffer_register 0
    (by decide)
  exact absurd hb (by decide)

/-- With only the exchange of words, a value of four words is left through its end. -/
example : (({ byte := 0, word := 1 } : Swap).exchanges 8).getLast? = some (9, 11) := by decide

end Swap

end Tritonn
