import Mathlib

/-!
A mailbox with one slot: a write replaces the one that waits, and a read takes it.

A history is a list of `Op`s: writes, reads with what they took, and looks at a value on the other
side, which change nothing.

* `pending` is the write that waits after a history, `lastLook` the value of the last look, and
  `Honest` says that every read took what was waiting;
* `Applied l p q` says that the read at the place `q` took the write at the place `p`: no write is
  between them;
* `Honest.exact` says what follows: a read takes the last write with its data, a write is taken once
  at most, and it is taken by the next read if no other write comes before that.
-/

namespace Mailbox

variable {α : Type*}

/-- What happens to a mailbox. -/
inductive Op (α : Type*) where
  | put (data : α)
  | look (value : α)
  | take (taken : Option α)
  deriving DecidableEq

/-- What waits in the mailbox after an operation. -/
def next (waiting : Option α) : Op α → Option α
  | .put data => some data
  | .look _ => waiting
  | .take _ => none

/-- What waits in the mailbox after a history. -/
def pending (l : List (Op α)) : Option α := l.foldl next none

/-- The value of the last look. -/
def lastLook (l : List (Op α)) : Option α :=
  l.foldl (fun seen op => match op with | .look value => some value | _ => seen) none

/-- Every read took what was waiting. -/
def Honest (l : List (Op α)) : Prop :=
  ∀ q a, l[q]? = some (.take a) → a = pending (l.take q)

/-- The read at the place `q` took the write at the place `p`. -/
def Applied (l : List (Op α)) (p q : ℕ) : Prop :=
  p < q ∧ (∃ d, l[p]? = some (.put d)) ∧ (∃ d, l[q]? = some (.take (some d))) ∧
    ∀ r d, p < r → r < q → l[r]? ≠ some (.put d)

/-- Writes and reads belong together. -/
structure Exact (l : List (Op α)) : Prop where
  /-- A read has the data of the write it took. -/
  data : ∀ p q d d', Applied l p q → l[p]? = some (.put d) → l[q]? = some (.take (some d')) →
    d' = d
  /-- What a read took was written. -/
  source : ∀ q d, l[q]? = some (.take (some d)) → ∃ p, Applied l p q
  /-- A write is not taken twice. -/
  once : ∀ p q q', Applied l p q → Applied l p q' → q = q'
  /-- A write is taken by the next read, if no other write comes before it. -/
  delivered : ∀ p d q a, l[p]? = some (.put d) → p < q → l[q]? = some (.take a) →
    (∀ r, p < r → r < q → (∀ d', l[r]? ≠ some (.put d')) ∧ ∀ a', l[r]? ≠ some (.take a')) →
    Applied l p q

@[simp] lemma pending_nil : pending ([] : List (Op α)) = none := rfl

@[simp] lemma lastLook_nil : lastLook ([] : List (Op α)) = none := rfl

@[simp] lemma pending_concat (l : List (Op α)) (op : Op α) :
    pending (l ++ [op]) = next (pending l) op := by
  rw [pending, pending, List.foldl_append, List.foldl_cons, List.foldl_nil]

lemma lastLook_concat (l : List (Op α)) (op : Op α) :
    lastLook (l ++ [op]) = match op with | .look value => some value | _ => lastLook l := by
  rw [lastLook, lastLook, List.foldl_append, List.foldl_cons, List.foldl_nil]

/-- After some writes, the last of them waits. -/
lemma pending_append_puts (l : List (Op α)) (ds : List α) :
    pending (l ++ ds.map .put) = ds.getLast?.or (pending l) := by
  induction ds using List.reverseRecOn with
  | nil => simp
  | append_singleton ds d ih =>
      rw [List.map_append, List.map_singleton, ← List.append_assoc, pending_concat]
      simp [next]

lemma lastLook_append_puts (l : List (Op α)) (ds : List α) :
    lastLook (l ++ ds.map .put) = lastLook l := by
  induction ds using List.reverseRecOn with
  | nil => simp
  | append_singleton ds d ih =>
      rw [List.map_append, List.map_singleton, ← List.append_assoc, lastLook_concat]
      exact ih

lemma honest_nil : Honest ([] : List (Op α)) := fun q a h => by simp at h

/-- One more operation. -/
lemma Honest.concat {l : List (Op α)} (h : Honest l) {op : Op α}
    (hop : ∀ a, op = .take a → a = pending l) : Honest (l ++ [op]) := by
  intro q a hq
  by_cases hlt : q < l.length
  · rw [List.getElem?_append_left hlt] at hq
    rw [List.take_append_of_le_length hlt.le]
    exact h q a hq
  · rw [List.getElem?_append_right (not_lt.mp hlt), List.getElem?_singleton] at hq
    split_ifs at hq with h0
    rw [show q = l.length by omega, List.take_left']
    · exact hop a (Option.some.inj hq)
    · rfl

lemma Honest.append_puts {l : List (Op α)} (h : Honest l) (ds : List α) :
    Honest (l ++ ds.map .put) := by
  induction ds using List.reverseRecOn with
  | nil => simpa using h
  | append_singleton ds d ih =>
      rw [List.map_append, List.map_singleton, ← List.append_assoc]
      exact ih.concat (fun a ha => (by cases ha))

/-- Before the place `q` there is a write of `d`, with no other write and no read after it. -/
def Waits (l : List (Op α)) (q : ℕ) (d : α) : Prop :=
  ∃ p, p < q ∧ l[p]? = some (.put d) ∧
    ∀ r, p < r → r < q → (∀ d', l[r]? ≠ some (.put d')) ∧ ∀ a, l[r]? ≠ some (.take a)

/-- A place without a write or a read changes nothing. -/
lemma waits_succ_iff {l : List (Op α)} {q : ℕ} (hput : ∀ d, l[q]? ≠ some (.put d))
    (htake : ∀ a, l[q]? ≠ some (.take a)) (d : α) : Waits l (q + 1) d ↔ Waits l q d := by
  refine exists_congr fun p => ⟨?_, ?_⟩
  · rintro ⟨hp, hd, hno⟩
    refine ⟨?_, hd, fun r hr hrq => hno r hr (Nat.lt_succ_of_lt hrq)⟩
    rcases Nat.lt_succ_iff_lt_or_eq.mp hp with hp | rfl
    · exact hp
    · exact absurd hd (hput d)
  · rintro ⟨hp, hd, hno⟩
    refine ⟨Nat.lt_succ_of_lt hp, hd, fun r hr hrq => ?_⟩
    rcases Nat.lt_succ_iff_lt_or_eq.mp hrq with hrq | rfl
    · exact hno r hr hrq
    · exact ⟨hput, htake⟩

/-- What waits before a place. -/
lemma pending_take_eq_some_iff (l : List (Op α)) (q : ℕ) (d : α) :
    pending (l.take q) = some d ↔ Waits l q d := by
  induction q with
  | zero => simp [Waits]
  | succ q ih =>
      rw [List.take_add_one]
      cases hop : l[q]? with
      | none =>
          rw [Option.toList_none, List.append_nil, ih,
            waits_succ_iff (by simp [hop]) (by simp [hop])]
      | some op =>
          rw [Option.toList_some, pending_concat]
          cases op with
          | put e =>
              simp only [next, Option.some.injEq]
              constructor
              · rintro rfl
                exact ⟨q, Nat.lt_succ_self q, hop, fun r hr hrq => by omega⟩
              · rintro ⟨p, hp, hput, hno⟩
                rcases Nat.lt_succ_iff_lt_or_eq.mp hp with hp | rfl
                · exact absurd hop ((hno q hp (Nat.lt_succ_self q)).1 e)
                · rw [hop] at hput
                  cases hput
                  rfl
          | look v => rw [next, ih, waits_succ_iff (by simp [hop]) (by simp [hop])]
          | take a =>
              simp only [next, reduceCtorEq, false_iff]
              rintro ⟨p, hp, hput, hno⟩
              rcases Nat.lt_succ_iff_lt_or_eq.mp hp with hp | rfl
              · exact (hno q hp (Nat.lt_succ_self q)).2 a hop
              · rw [hop] at hput
                cases hput

/-- In an honest history, writes and reads belong together. -/
theorem Honest.exact {l : List (Op α)} (h : Honest l) : Exact l := by
  -- The write that a read took is the one that was waiting for it.
  have hsource : ∀ p q d, Applied l p q → l[q]? = some (.take (some d)) →
      l[p]? = some (.put d) ∧ ∀ r a, p < r → r < q → l[r]? ≠ some (.take a) := by
    rintro p q d ⟨hpq, ⟨e, he⟩, -, hno⟩ hq
    obtain ⟨p', hp', hput', hno'⟩ := (pending_take_eq_some_iff l q d).mp (h q _ hq).symm
    obtain rfl : p = p' := by
      rcases lt_trichotomy p p' with hlt | heq | hlt
      · exact absurd hput' (hno p' d hlt hp')
      · exact heq
      · exact absurd he ((hno' p hlt hpq).1 e)
    exact ⟨hput', fun r a hr hrq => (hno' r hr hrq).2 a⟩
  refine ⟨fun p q d d' happ hp hq => ?_, fun q d hq => ?_, fun p q q' happ happ' => ?_,
    fun p d q a hp hpq hq hno => ?_⟩
  · rw [(hsource p q d' happ hq).1] at hp
    cases hp
    rfl
  · obtain ⟨p, hpq, hput, hno⟩ := (pending_take_eq_some_iff l q d).mp (h q _ hq).symm
    exact ⟨p, hpq, ⟨d, hput⟩, ⟨d, hq⟩, fun r d' hr hrq => (hno r hr hrq).1 d'⟩
  · obtain ⟨d, hd⟩ := happ.2.2.1
    obtain ⟨d', hd'⟩ := happ'.2.2.1
    rcases lt_trichotomy q q' with hlt | heq | hlt
    · exact absurd hd ((hsource p q' d' happ' hd').2 q _ happ.1 hlt)
    · exact heq
    · exact absurd hd' ((hsource p q d happ hd).2 q' _ happ'.1 hlt)
  · have hpend := (pending_take_eq_some_iff l q d).mpr ⟨p, hpq, hp, hno⟩
    rw [← h q a hq] at hpend
    exact ⟨hpq, ⟨d, hp⟩, ⟨d, hpend ▸ hq⟩, fun r d' hr hrq => (hno r hr hrq).1 d'⟩

end Mailbox
