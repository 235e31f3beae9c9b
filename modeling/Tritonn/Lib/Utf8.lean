import Mathlib

/-!
The bytes of a text.

`toList_toUTF8` are the bytes of a text character by character, and `toList_toUTF8_ofList` those of
characters that take one byte each.
-/

namespace Utf8

/-- The loop of `ByteArray.toList` appends what is behind its place. -/
lemma toList_loop (b : ByteArray) (i : ℕ) (r : List UInt8) :
    ByteArray.toList.loop b i r = r.reverse ++ b.data.toList.drop i := by
  induction hn : b.size - i generalizing i r with
  | zero =>
      have hle : b.data.toList.length ≤ i := by
        rw [Array.length_toList]
        exact Nat.le_of_sub_eq_zero hn
      rw [ByteArray.toList.loop, if_neg (by omega), List.drop_eq_nil_of_le hle, List.append_nil]
  | succ n ih =>
      have hlt : i < b.size := by omega
      have hlt' : i < b.data.toList.length := by rwa [Array.length_toList]
      have hget : b.get! i = b.data.toList[i] := by
        rw [Array.getElem_toList]
        exact getElem!_pos b.data i hlt
      rw [ByteArray.toList.loop, if_pos hlt, ih (i + 1) _ (by omega), List.reverse_cons,
        List.append_assoc, List.singleton_append, hget, List.getElem_cons_drop]

lemma toList_eq (b : ByteArray) : b.toList = b.data.toList := by
  rw [ByteArray.toList, toList_loop, List.reverse_nil, List.nil_append, List.drop_zero]

/-- The bytes of the characters, one after the other. -/
theorem toList_toUTF8 (s : String) :
    s.toUTF8.toList = s.toList.flatMap String.utf8EncodeChar := by
  rw [toList_eq, String.toUTF8, ← String.utf8Encode_toList, List.utf8Encode,
    List.data_toByteArray]

/-- Characters of one byte. -/
theorem toList_toUTF8_ofList {cs : List Char} (h : ∀ c ∈ cs, c.utf8Size = 1) :
    (String.ofList cs).toUTF8.toList = cs.map fun c => c.val.toUInt8 := by
  rw [toList_toUTF8, String.toList_ofList]
  induction cs with
  | nil => rfl
  | cons c cs ih =>
      rw [List.flatMap_cons, List.map_cons, ih fun c hc => h c (List.mem_cons_of_mem _ hc),
        String.utf8EncodeChar_eq_singleton (h c List.mem_cons_self), List.singleton_append]

end Utf8
