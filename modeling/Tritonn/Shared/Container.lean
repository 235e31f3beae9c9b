import Tritonn.Lib.Fields

/-!
`src/shared/container.cpp`: the container that records are written to and read from.

* `Container` is the class, with the bytes it holds fewer than an `unsigned int` counts;
* `Container.add` and `Container.get` are the members of these names, undefined where the code would
  write or read behind its bytes;
* `Container.write` and `Container.read` are the chains of `<<` and `>>` over the fields of a
  record.

`write_eq` and `read_eq` say what the chains do in terms of the bytes.
-/

namespace Tritonn

/-- `Container`: the bytes, the place of reading and whether it was asked for more than it has. -/
structure Container where
  data : List UInt8
  readpos : ℕ
  isEOF : Bool
  length_lt : data.length < 2 ^ 32

namespace Container

variable {R : Type}

/-- `Container()`, whose flag is not initialised. -/
def empty (flag : Bool) : Container := ⟨[], 0, flag, by decide⟩

/-- `Container(buff, size)`. -/
def ofBytes (b : { b : List UInt8 // b.length < 2 ^ 32 }) : Container := ⟨b, 0, false, b.2⟩

/-- `add`. When the sum of the sizes is reduced, the bytes are written behind the smaller vector. -/
def add (c : Container) (b : List UInt8) : Option Container :=
  if h : (c.data ++ b).length < 2 ^ 32 then some ⟨c.data ++ b, c.readpos, false, h⟩ else none

/-- `get`: the bytes, unless the flag is set or there are too few, and the container after it. -/
def get (c : Container) (n : ℕ) : Option (Option (Buffer UInt8 n) × Container) :=
  if c.isEOF then some (none, c)
  else if c.data.length < (c.readpos + n) % 2 ^ 32 then some (none, { c with isEOF := true })
  else if h : n ≤ (c.data.drop c.readpos).length then
    some (some ⟨(c.data.drop c.readpos).take n, List.length_take_of_le h⟩,
      { c with readpos := c.readpos + n })
  else none

/-- `setReadPos`, which does not look at its argument. -/
def setReadPos (c : Container) (_ : ℕ) : Container := { c with readpos := 0 }

/-- The chain of `<<` over the fields of a record. -/
def write (fs : List (RecordField UInt8 R)) (c : Container) (r : R) : Option Container :=
  fs.foldlM (fun c f => c.add (f.get r).content) c

/-- One `>>`, which leaves the field as it is if there are too few bytes. -/
def readField (s : R × Container) (f : RecordField UInt8 R) : Option (R × Container) := do
  match ← s.2.get f.width with
  | (none, c) => some (s.1, c)
  | (some b, c) => some (f.set b s.1, c)

/-- The chain of `>>` over the fields of a record. -/
def read (fs : List (RecordField UInt8 R)) (c : Container) (r : R) : Option (R × Container) :=
  fs.foldlM readField (r, c)

variable {c : Container} {b b' : List UInt8} {fs : List (RecordField UInt8 R)}

lemma add_of_lt (h : (c.data ++ b).length < 2 ^ 32) :
    c.add b = some ⟨c.data ++ b, c.readpos, false, h⟩ := dif_pos h

lemma add_of_le (h : ¬ (c.data ++ b).length < 2 ^ 32) : c.add b = none := dif_neg h

/-- Two blocks that are added are one block. -/
lemma add_add : (c.add b).bind (fun c => c.add b') = c.add (b ++ b') := by
  by_cases hb : (c.data ++ b).length < 2 ^ 32
  · rw [add_of_lt hb, Option.bind_some]
    by_cases hb' : (c.data ++ (b ++ b')).length < 2 ^ 32
    · have hassoc : (c.data ++ b ++ b').length < 2 ^ 32 := by rwa [List.append_assoc]
      rw [add_of_lt hb', add_of_lt hassoc]
      simp only [List.append_assoc]
    · have hassoc : ¬ (c.data ++ b ++ b').length < 2 ^ 32 := by rwa [List.append_assoc]
      rw [add_of_le hb', add_of_le hassoc]
  · have hb' : ¬ (c.data ++ (b ++ b')).length < 2 ^ 32 := by
      rw [← List.append_assoc, List.length_append]
      omega
    rw [add_of_le hb, add_of_le hb']
    rfl

/-- The fields of a record are added as one block, if there are any. -/
theorem write_eq {f : RecordField UInt8 R} (c : Container) (r : R) :
    write (f :: fs) c r = c.add (Fields.encode (f :: fs) r) := by
  induction fs generalizing f c with
  | nil =>
      rw [write, List.foldlM_cons, Fields.encode, List.flatMap_singleton]
      exact Option.bind_fun_some _
  | cons g fs ih =>
      have hsplit : Fields.encode (f :: g :: fs) r =
          (f.get r).content ++ Fields.encode (g :: fs) r := rfl
      rw [hsplit, ← add_add, write, List.foldlM_cons]
      exact congrArg _ (funext fun c => ih c)

/-- What is still to be read. -/
def rest (c : Container) : List UInt8 := c.data.drop c.readpos

/-- After the end nothing is read. -/
lemma read_of_isEOF (h : c.isEOF = true) (fs : List (RecordField UInt8 R)) (r : R) :
    read fs c r = some (r, c) := by
  induction fs with
  | nil => rfl
  | cons f fs ih =>
      have hstep : readField (r, c) f = some (r, c) := by
        rw [readField, get, if_pos h]
        rfl
      rw [read, List.foldlM_cons, hstep]
      exact ih

/-- If the first field is not there, nothing is read. -/
lemma read_of_lt {f : RecordField UInt8 R} (hc : c.isEOF = false)
    (hlt : c.readpos + f.width < 2 ^ 32) (h : c.data.length < c.readpos + f.width) (r : R) :
    read (f :: fs) c r = some (r, { c with isEOF := true }) := by
  have hget : c.get f.width = some (none, { c with isEOF := true }) := by
    rw [get, hc, if_neg (by decide), Nat.mod_eq_of_lt hlt, if_pos h]
  have hstep : readField (r, c) f = some (r, { c with isEOF := true }) := by
    rw [readField, hget]
    rfl
  rw [read, List.foldlM_cons, hstep]
  exact read_of_isEOF rfl fs r

/-- The chain of `>>` as the decoding of what is still to be read; the container reports its end if
that ends before the last field. -/
theorem read_eq (hc : c.isEOF = false) (hpos : c.readpos ≤ c.data.length)
    (hlt : c.readpos + Fields.width fs < 2 ^ 32) (r : R) :
    ∃ c', read fs c r = some ((Fields.decode fs c.rest r).1, c') ∧ c'.data = c.data ∧
      match (Fields.decode fs c.rest r).2 with
      | none => c'.isEOF = true
      | some l => c'.isEOF = false ∧ c'.rest = l ∧ c'.readpos = c.readpos + Fields.width fs ∧
          c'.readpos ≤ c'.data.length := by
  induction fs generalizing c r with
  | nil => exact ⟨c, rfl, rfl, hc, rfl, rfl, hpos⟩
  | cons f fs ih =>
      rw [Fields.width_cons] at hlt
      have hmod : (c.readpos + f.width) % 2 ^ 32 = c.readpos + f.width :=
        Nat.mod_eq_of_lt (by omega)
      have hrest : c.rest.length = c.data.length - c.readpos := List.length_drop
      by_cases hle : f.width ≤ c.rest.length
      · -- The field is read, and the others from the place behind it.
        have hget : c.get f.width = some (some ⟨c.rest.take f.width, List.length_take_of_le hle⟩,
            { c with readpos := c.readpos + f.width }) := by
          rw [get, hc, if_neg (by decide), hmod, if_neg (by omega)]
          exact dif_pos hle
        obtain ⟨c', hread, hdata, hend⟩ := ih (c := { c with readpos := c.readpos + f.width }) hc
          (show c.readpos + f.width ≤ c.data.length by omega)
          (show c.readpos + f.width + Fields.width fs < 2 ^ 32 by omega)
          (f.set ⟨c.rest.take f.width, List.length_take_of_le hle⟩ r)
        have hdrop : rest { c with readpos := c.readpos + f.width } = c.rest.drop f.width := by
          rw [rest, rest, List.drop_drop]
        rw [hdrop] at hread hend
        refine ⟨c', ?_, hdata, ?_⟩
        · rw [Fields.decode_cons_of_le hle, ← hread, read, List.foldlM_cons]
          have hstep : readField (r, c) f =
              some (f.set ⟨c.rest.take f.width, List.length_take_of_le hle⟩ r,
                { c with readpos := c.readpos + f.width }) := by
            rw [readField, hget]
            rfl
          rw [hstep]
          rfl
        · rw [Fields.decode_cons_of_le hle, Fields.width_cons, ← Nat.add_assoc]
          exact hend
      · refine ⟨{ c with isEOF := true }, ?_, rfl, ?_⟩
        · rw [Fields.decode_cons_of_lt hle]
          exact read_of_lt hc (by omega) (by omega) r
        · rw [Fields.decode_cons_of_lt hle]

end Container

end Tritonn
