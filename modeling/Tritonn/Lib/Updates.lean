import Mathlib

/-!
A list of updates of a function, performed in turn.

`updates_apply` says what the updates leave at a place: the value of the last one at it, and what
was there when there is none.
-/

namespace Updates

variable {κ α : Type*} [DecidableEq κ]

/-- Perform the updates of a list in turn. -/
def updates (f : κ → α) (l : List (κ × α)) : κ → α :=
  l.foldl (fun f p => Function.update f p.1 p.2) f

/-- The values that are written to a place, in their order. -/
def written (l : List (κ × α)) (k : κ) : List α :=
  l.filterMap fun p => if p.1 = k then some p.2 else none

@[simp] lemma updates_nil (f : κ → α) : updates f [] = f := rfl

@[simp] lemma updates_cons (f : κ → α) (p : κ × α) (l : List (κ × α)) :
    updates f (p :: l) = updates (Function.update f p.1 p.2) l := rfl

@[simp] lemma written_nil (k : κ) : written ([] : List (κ × α)) k = [] := rfl

lemma written_cons (p : κ × α) (l : List (κ × α)) (k : κ) :
    written (p :: l) k = if p.1 = k then p.2 :: written l k else written l k := by
  by_cases h : p.1 = k
  · simp [written, h]
  · simp [written, h]

/-- A place holds what was written to it last. -/
theorem updates_apply (f : κ → α) (l : List (κ × α)) (k : κ) :
    updates f l k = (written l k).getLast?.getD (f k) := by
  induction l generalizing f with
  | nil => rfl
  | cons p l ih =>
      rw [updates_cons, ih, written_cons]
      by_cases h : p.1 = k
      · subst h
        rw [if_pos rfl, List.getLast?_cons, Function.update_self]
        rfl
      · rw [if_neg h, Function.update_of_ne (Ne.symm h)]

end Updates
