import Mathlib

/-!
Computations that may fail, and the errors they avoid.

`bind_eq_ok` takes a computation that succeeds apart into its parts, and `foldlM_keeps` is the rule
for a loop that succeeds.  `Avoids bad r` says that `r` does not fail with an error of the set
`bad`; `avoids_bind` takes it apart in the same way.
-/

namespace Result

universe u v

variable {ε : Type u} {α β : Type v}

/-- A computation in two parts succeeds when both do. -/
lemma bind_eq_ok {x : Except ε α} {f : α → Except ε β} {b : β} :
    (x >>= f) = .ok b ↔ ∃ a, x = .ok a ∧ f a = .ok b := by
  constructor
  · intro h
    cases x with
    | error e => cases h
    | ok a => exact ⟨a, rfl, h⟩
  · rintro ⟨a, rfl, h⟩
    exact h

lemma ok_bind (a : α) (f : α → Except ε β) : (Except.ok a >>= f) = f a := rfl

lemma error_bind (e : ε) (f : α → Except ε β) : (Except.error e >>= f) = .error e := rfl

lemma pure_eq_ok (a : α) : (pure a : Except ε α) = .ok a := rfl

/-- What every turn of a loop keeps that succeeds, the loop keeps. -/
lemma foldlM_keeps {ι : Type*} {P : β → Prop} {f : β → ι → Except ε β} {l : List ι}
    (hf : ∀ a ∈ l, ∀ b b', f b a = .ok b' → P b → P b') {b b' : β}
    (h : l.foldlM f b = .ok b') (hb : P b) : P b' := by
  induction l generalizing b with
  | nil =>
      rw [List.foldlM_nil, pure_eq_ok] at h
      cases h
      exact hb
  | cons a l ih =>
      rw [List.foldlM_cons] at h
      obtain ⟨b₁, h₁, h⟩ := bind_eq_ok.mp h
      exact ih (fun a ha => hf a (List.mem_cons_of_mem _ ha)) h
        (hf a List.mem_cons_self b b₁ h₁ hb)

/-- The computation does not fail with an error of the set `bad`. -/
def Avoids (bad : Set ε) (r : Except ε α) : Prop := ∀ e ∈ bad, r ≠ .error e

@[simp] lemma avoids_ok (bad : Set ε) (a : α) : Avoids bad (.ok a) := fun _ _ h => nomatch h

@[simp] lemma avoids_error {bad : Set ε} {e : ε} :
    Avoids bad (.error e : Except ε α) ↔ e ∉ bad := by
  refine ⟨fun h he => h e he rfl, fun h e' he' heq => ?_⟩
  cases heq
  exact h he'

/-- A computation in two parts avoids the errors that both avoid. -/
lemma avoids_bind {bad : Set ε} {x : Except ε α} {f : α → Except ε β} :
    Avoids bad (x >>= f) ↔ Avoids bad x ∧ ∀ a, x = .ok a → Avoids bad (f a) := by
  cases x with
  | error e => simp [error_bind]
  | ok a => simp [ok_bind]

end Result
