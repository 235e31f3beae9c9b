import Mathlib

/-!
Buffers of a fixed size.

A `Buffer α n` is a list that carries the proof of its length.  `store` writes a block at a place
and `load` reads one; both are undefined if the block is not inside the buffer.  `take_store` and
`take_store_store` say what is in the buffer afterwards, and `store_of_le` and `load_of_le` that
nothing else can go wrong.
-/

/-- A list of length `n`. -/
@[ext]
structure Buffer (α : Type*) (n : ℕ) where
  content : List α
  length_content : content.length = n
  deriving DecidableEq

namespace Buffer

variable {α : Type*} {n : ℕ}

/-- The buffer in which every place has the same content. -/
def fill (n : ℕ) (a : α) : Buffer α n := ⟨List.replicate n a, List.length_replicate⟩

/-- The block is written at the place `pos`. -/
def store (m : Buffer α n) (pos : ℕ) (b : List α) : Option (Buffer α n) :=
  if h : pos + b.length ≤ n then
    some ⟨m.content.take pos ++ b ++ m.content.drop (pos + b.length), by
      rw [List.length_append, List.length_append, List.length_take, List.length_drop,
        m.length_content]
      omega⟩
  else none

/-- The `len` places from `pos` on. -/
def load (m : Buffer α n) (pos len : ℕ) : Option (List α) :=
  if pos + len ≤ n then some ((m.content.drop pos).take len) else none

lemma store_of_le (m : Buffer α n) {pos : ℕ} {b : List α} (h : pos + b.length ≤ n) :
    ∃ m', m.store pos b = some m' := ⟨_, dif_pos h⟩

lemma store_of_lt (m : Buffer α n) {pos : ℕ} {b : List α} (h : n < pos + b.length) :
    m.store pos b = none := dif_neg (Nat.not_le.mpr h)

lemma load_of_le (m : Buffer α n) {pos len : ℕ} (h : pos + len ≤ n) :
    m.load pos len = some ((m.content.drop pos).take len) := if_pos h

lemma isSome_load (m : Buffer α n) (pos len : ℕ) : (m.load pos len).isSome ↔ pos + len ≤ n := by
  rw [load]
  split <;> simp [*]

variable {m m' : Buffer α n} {pos : ℕ} {b : List α}

/-- What is in front of the block stays, and the block follows it. -/
lemma take_store (h : m.store pos b = some m') :
    m'.content.take (pos + b.length) = m.content.take pos ++ b := by
  rw [store] at h
  split at h
  · rename_i hle
    have hpos : (m.content.take pos).length = pos := by
      rw [List.length_take, m.length_content]
      omega
    rw [← Option.some_inj.mp h]
    exact List.take_left' (by rw [List.length_append, hpos])
  · exact absurd h (by simp)

/-- The block is the end of the buffer. -/
lemma content_store (h : m.store pos b = some m') (hend : pos + b.length = n) :
    m'.content = m.content.take pos ++ b := by
  rw [← take_store h, List.take_of_length_le (by rw [m'.length_content, hend])]

/-- Two blocks that are written next to each other. -/
lemma take_store_store {m'' : Buffer α n} {b' : List α} (h : m.store pos b = some m')
    (h' : m'.store (pos + b.length) b' = some m'') :
    m''.content.take (pos + (b ++ b').length) = m.content.take pos ++ (b ++ b') := by
  rw [List.length_append, ← Nat.add_assoc, take_store h', take_store h, List.append_assoc]

end Buffer
