import Tritonn.Lib.Buffer

/-!
Records that are written and read field by field.

A `RecordField` is a part of a record that takes a fixed number of places, with what is read from it
and written into it.  `encode` writes the fields of a record one after the other, and `decode` reads
them into a record that is already there, until the input ends.  A list of fields is `Independent`
if none of them touches those in front of it.

`decode_encode` reads back what was written, in front of anything else.  `decode_fst_eq_self_iff`
says when reading leaves the record as it was: each field the input holds as a whole is already
that of the record.
-/

/-- A part of a record, of a fixed width. -/
structure RecordField (α R : Type*) where
  width : ℕ
  get : R → Buffer α width
  set : Buffer α width → R → R
  get_set : ∀ b r, get (set b r) = b
  set_get : ∀ r, set (get r) r = r

namespace Fields

variable {α R : Type*}

/-- A field is read as before after one that is written behind it. -/
def Independent (fs : List (RecordField α R)) : Prop :=
  fs.Pairwise fun f g => ∀ b r, f.get (g.set b r) = f.get r

/-- The places that the fields take. -/
def width (fs : List (RecordField α R)) : ℕ := (fs.map RecordField.width).sum

/-- The fields, one after the other. -/
def encode (fs : List (RecordField α R)) (r : R) : List α := fs.flatMap fun f => (f.get r).content

/-- The record after reading the fields, and what follows them unless the input ends before. -/
def decode : List (RecordField α R) → List α → R → R × Option (List α)
  | [], l, r => (r, some l)
  | f :: fs, l, r =>
      if h : f.width ≤ l.length then
        decode fs (l.drop f.width) (f.set ⟨l.take f.width, List.length_take_of_le h⟩ r)
      else (r, none)

/-- Each field that the input holds as a whole is that of the record. -/
def Agrees : List (RecordField α R) → List α → R → Prop
  | [], _, _ => True
  | f :: fs, l, r =>
      f.width ≤ l.length → (f.get r).content = l.take f.width ∧ Agrees fs (l.drop f.width) r

variable {f : RecordField α R} {fs : List (RecordField α R)} {l : List α} {r : R}

lemma width_cons : width (f :: fs) = f.width + width fs := by
  rw [width, List.map_cons, List.sum_cons, ← width]

lemma length_encode (fs : List (RecordField α R)) (r : R) : (encode fs r).length = width fs := by
  induction fs with
  | nil => rfl
  | cons f fs ih =>
      rw [encode, List.flatMap_cons, ← encode, List.length_append, (f.get r).length_content, ih,
        width_cons]

lemma decode_cons_of_le (h : f.width ≤ l.length) :
    decode (f :: fs) l r =
      decode fs (l.drop f.width) (f.set ⟨l.take f.width, List.length_take_of_le h⟩ r) := dif_pos h

lemma decode_cons_of_lt (h : ¬ f.width ≤ l.length) : decode (f :: fs) l r = (r, none) := dif_neg h

/-- Reading other fields keeps a field. -/
lemma get_decode (h : ∀ g ∈ fs, ∀ b r, f.get (g.set b r) = f.get r) (l : List α) (r : R) :
    f.get (decode fs l r).1 = f.get r := by
  induction fs generalizing l r with
  | nil => rfl
  | cons g fs ih =>
      by_cases hle : g.width ≤ l.length
      · rw [decode_cons_of_le hle, ih (fun g' hg' => h g' (List.mem_cons_of_mem _ hg')),
          h g List.mem_cons_self]
      · rw [decode_cons_of_lt hle]

/-- The input ends before the last field if and only if it is too short. -/
lemma decode_snd (fs : List (RecordField α R)) (l : List α) (r : R) :
    (decode fs l r).2 = if width fs ≤ l.length then some (l.drop (width fs)) else none := by
  induction fs generalizing l r with
  | nil => rfl
  | cons f fs ih =>
      rw [width_cons]
      by_cases hle : f.width ≤ l.length
      · rw [decode_cons_of_le hle, ih, List.drop_drop, List.length_drop]
        by_cases hrest : width fs ≤ l.length - f.width
        · rw [if_pos hrest, if_pos (by omega)]
        · rw [if_neg hrest, if_neg (by omega)]
      · rw [decode_cons_of_lt hle, if_neg (by omega)]

/-- What was written is read back, into any record. -/
theorem decode_encode (hind : Independent fs) (r s : R) (rest : List α) :
    (decode fs (encode fs r ++ rest) s).2 = some rest ∧
      ∀ f ∈ fs, f.get (decode fs (encode fs r ++ rest) s).1 = f.get r := by
  refine ⟨?_, ?_⟩
  · rw [decode_snd, List.length_append, length_encode, if_pos (Nat.le_add_right _ _),
      ← length_encode fs r, List.drop_left]
  · induction fs generalizing s with
    | nil => exact fun f hf => absurd hf List.not_mem_nil
    | cons g fs ih =>
        obtain ⟨hg, hfs⟩ := List.pairwise_cons.mp hind
        have hsplit : encode (g :: fs) r ++ rest = (g.get r).content ++ (encode fs r ++ rest) := by
          rw [encode, List.flatMap_cons, ← encode, List.append_assoc]
        have hlen : (g.get r).content.length = g.width := (g.get r).length_content
        have hle : g.width ≤ (encode (g :: fs) r ++ rest).length := by
          rw [hsplit, List.length_append, hlen]
          omega
        have htake : (encode (g :: fs) r ++ rest).take g.width = (g.get r).content := by
          rw [hsplit]
          exact List.take_left' hlen
        have hdrop : (encode (g :: fs) r ++ rest).drop g.width = encode fs r ++ rest := by
          rw [hsplit]
          exact List.drop_left' hlen
        have hbuf : (⟨(encode (g :: fs) r ++ rest).take g.width, List.length_take_of_le hle⟩ :
            Buffer α g.width) = g.get r := Buffer.ext htake
        intro f hf
        rw [decode_cons_of_le hle, hbuf, hdrop]
        rcases List.mem_cons.mp hf with rfl | hf
        · rw [get_decode hg, f.get_set]
        · exact ih hfs _ f hf

/-- A field is read from the places behind those of the fields in front of it. -/
theorem get_decode_of_le {front back : List (RecordField α R)}
    (hind : Independent (front ++ f :: back)) (h : width (front ++ f :: back) ≤ l.length) (r : R) :
    (f.get (decode (front ++ f :: back) l r).1).content = (l.drop (width front)).take f.width := by
  induction front generalizing l r with
  | nil =>
      rw [List.nil_append, width_cons] at h
      rw [List.nil_append, decode_cons_of_le (by omega),
        get_decode (List.pairwise_cons.mp hind).1, f.get_set]
      rfl
  | cons g front ih =>
      rw [List.cons_append, width_cons] at h
      have hrest : width (front ++ f :: back) ≤ (l.drop g.width).length := by
        rw [List.length_drop]
        omega
      rw [List.cons_append, decode_cons_of_le (by omega), width_cons, ← List.drop_drop]
      exact ih (List.pairwise_cons.mp hind).2 hrest _

/-- What is read of an input with all fields does not depend on the record. -/
theorem get_decode_congr (hind : Independent fs) (h : width fs ≤ l.length) (r s : R) :
    ∀ f ∈ fs, f.get (decode fs l r).1 = f.get (decode fs l s).1 := by
  intro f hf
  obtain ⟨front, back, rfl⟩ := List.append_of_mem hf
  exact Buffer.ext ((get_decode_of_le hind h r).trans (get_decode_of_le hind h s).symm)

/-- Reading leaves the record as it was if and only if the input agrees with it. -/
theorem decode_fst_eq_self_iff (hind : Independent fs) (l : List α) (r : R) :
    (decode fs l r).1 = r ↔ Agrees fs l r := by
  induction fs generalizing l r with
  | nil => exact iff_of_true rfl trivial
  | cons f fs ih =>
      obtain ⟨hf, hfs⟩ := List.pairwise_cons.mp hind
      by_cases hle : f.width ≤ l.length
      · rw [decode_cons_of_le hle]
        refine ⟨fun h _ => ?_, fun h => ?_⟩
        · -- The fields behind it do not change what was written into the first.
          have hget := get_decode hf (l.drop f.width)
            (f.set ⟨l.take f.width, List.length_take_of_le hle⟩ r)
          rw [h, f.get_set] at hget
          rw [← hget, f.set_get] at h
          exact ⟨congrArg Buffer.content hget, (ih hfs _ r).mp h⟩
        · obtain ⟨hget, hrest⟩ := h hle
          have hset : f.set ⟨l.take f.width, List.length_take_of_le hle⟩ r = r := by
            rw [← (Buffer.ext hget : f.get r = ⟨_, List.length_take_of_le hle⟩), f.set_get]
          rw [hset]
          exact (ih hfs _ r).mpr hrest
      · rw [decode_cons_of_lt hle]
        exact iff_of_true rfl fun h => absurd h hle

end Fields
