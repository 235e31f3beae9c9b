import Mathlib.Data.List.Nodup
import Mathlib.Tactic.Common

/-!
Lists whose elements have distinct keys, and the search for a key.

* `find_of_mem` and `eq_of_find` say that an element is found under its key, and what is found;
* `find_eq_none_iff` says that nothing is found;
* `nodup_concat` says that an element whose key was not found can be added.
-/

namespace Keyed

variable {α κ : Type*} {key : α → κ} {l : List α} {a b : α} {k : κ}

lemma eq_of_key (h : (l.map key).Nodup) (ha : a ∈ l) (hb : b ∈ l) (hk : key a = key b) : a = b :=
  List.inj_on_of_nodup_map h ha hb hk

/-- An element with a new key can be added. -/
theorem nodup_concat (h : (l.map key).Nodup) (ha : ∀ b ∈ l, key b ≠ key a) :
    ((l ++ [a]).map key).Nodup := by
  rw [List.map_append, List.map_singleton, List.nodup_append]
  refine ⟨h, List.nodup_singleton _, fun x hx y hy => ?_⟩
  obtain ⟨b, hb, rfl⟩ := List.mem_map.mp hx
  rw [List.mem_singleton.mp hy]
  exact ha b hb

variable [DecidableEq κ]

/-- What is found is an element with the key. -/
lemma eq_of_find (h : (l.find? fun x => key x = k) = some a) : a ∈ l ∧ key a = k := by
  refine ⟨List.mem_of_find?_eq_some h, ?_⟩
  have hfound := List.find?_some h
  exact of_decide_eq_true hfound

lemma find_eq_none_iff : (l.find? fun x => key x = k) = none ↔ ∀ a ∈ l, key a ≠ k := by
  simp only [List.find?_eq_none, decide_eq_true_eq, ne_eq]

/-- An element is found under its key. -/
theorem find_of_mem (h : (l.map key).Nodup) (ha : a ∈ l) :
    (l.find? fun x => key x = key a) = some a := by
  cases hfind : l.find? fun x => key x = key a with
  | none => exact absurd rfl (find_eq_none_iff.mp hfind a ha)
  | some b =>
      obtain ⟨hb, hk⟩ := eq_of_find hfind
      rw [eq_of_key h hb ha hk]

end Keyed
