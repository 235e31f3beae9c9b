import Mathlib

/-!
Computations that keep a log.

`Logged ω α` is a value with the list of what was noted on the way to it, in order.  `All P x` says
that everything noted has the property `P`; `all_bind` takes it apart along a computation in two
parts, with the value of the first one in the second.  `div` is a division that notes its divisor.
-/

/-- A value with the log of the computation that gave it. -/
structure Logged (ω α : Type) where
  val : α
  log : List ω

namespace Logged

variable {ω α β : Type}

instance : Monad (Logged ω) where
  pure a := ⟨a, []⟩
  bind x f := ⟨(f x.val).val, x.log ++ (f x.val).log⟩

@[simp] lemma val_pure (a : α) : (pure a : Logged ω α).val = a := rfl

@[simp] lemma log_pure (a : α) : (pure a : Logged ω α).log = [] := rfl

@[simp] lemma val_bind (x : Logged ω α) (f : α → Logged ω β) :
    (x >>= f).val = (f x.val).val := rfl

@[simp] lemma log_bind (x : Logged ω α) (f : α → Logged ω β) :
    (x >>= f).log = x.log ++ (f x.val).log := rfl

/-- Everything that was noted has the property `P`. -/
def All (P : ω → Prop) (x : Logged ω α) : Prop := ∀ w ∈ x.log, P w

variable {P : ω → Prop}

@[simp] lemma all_pure (a : α) : All P (pure a : Logged ω α) := fun _ h => nomatch h

@[simp] lemma all_bind (x : Logged ω α) (f : α → Logged ω β) :
    All P (x >>= f) ↔ All P x ∧ All P (f x.val) :=
  List.forall_mem_append

/-! ### Divisions -/

section Div

variable {K : Type} [Div K]

/-- A division that notes its divisor. -/
def div (a b : K) : Logged K K := ⟨a / b, [b]⟩

@[simp] lemma val_div (a b : K) : (div a b).val = a / b := rfl

@[simp] lemma log_div (a b : K) : (div a b).log = [b] := rfl

@[simp] lemma all_div {P : K → Prop} (a b : K) : All P (div a b) ↔ P b :=
  List.forall_mem_singleton

end Div

end Logged
