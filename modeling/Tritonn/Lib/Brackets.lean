import Mathlib.Data.List.Basic

/-!
Brackets in a log: every opening is closed, and none comes before the last one is closed.

* `Closed` says that behind every opening of the log there is a closing, `Alternates` that between
  two openings there is one;
* `closed_concat` and `alternates_concat` say what one more entry does to them: an opening needs a
  closed log, and leaves an open one.
-/

namespace Brackets

variable {β : Type*} (opens closes : β → Prop)

/-- Behind every opening there is a closing. -/
def Closed (log : List β) : Prop :=
  ∀ pre e post, log = pre ++ e :: post → opens e → ∃ c ∈ post, closes c

/-- Between two openings there is a closing. -/
def Alternates (log : List β) : Prop :=
  ∀ pre e mid e' post, log = pre ++ e :: (mid ++ e' :: post) → opens e → opens e' →
    ∃ c ∈ mid, closes c

variable {opens closes} {log : List β} {e : β}

lemma closed_nil : Closed opens closes [] := fun _ _ _ h => by simp at h

lemma alternates_nil : Alternates opens closes [] := fun _ _ _ _ _ h => by simp at h

/-- A log with one more entry, split at an entry: this is the last one or an earlier one. -/
lemma concat_eq_append_cons {pre post : List β} {x : β} (h : log ++ [e] = pre ++ x :: post) :
    post = [] ∧ log = pre ∧ e = x ∨ ∃ post', post = post' ++ [e] ∧ log = pre ++ x :: post' := by
  rcases List.eq_nil_or_concat post with rfl | ⟨post', y, rfl⟩
  · obtain ⟨h₁, h₂⟩ := List.append_inj' h rfl
    exact .inl ⟨rfl, h₁, List.singleton_inj.mp h₂⟩
  · rw [List.concat_eq_append, ← List.cons_append, ← List.append_assoc] at h
    obtain ⟨h₁, h₂⟩ := List.append_inj' h rfl
    rw [List.concat_eq_append, List.singleton_inj.mp h₂]
    exact .inr ⟨post', rfl, h₁⟩

/-- A log is closed behind a closing, and behind an entry that is no bracket if it was before. -/
lemma closed_concat : Closed opens closes (log ++ [e]) ↔
    ¬ opens e ∧ (closes e ∨ Closed opens closes log) := by
  constructor
  · intro h
    refine ⟨fun he => ?_, or_iff_not_imp_left.mpr fun hc pre x post hlog hx => ?_⟩
    · obtain ⟨c, hc, -⟩ := h log e [] rfl he
      exact absurd hc List.not_mem_nil
    · obtain ⟨c, hmem, hclose⟩ := h pre x (post ++ [e]) (by simp [hlog]) hx
      rcases List.mem_append.mp hmem with hmem | hmem
      · exact ⟨c, hmem, hclose⟩
      · exact absurd (List.mem_singleton.mp hmem ▸ hclose) hc
  · rintro ⟨he, h⟩ pre x post hlog hx
    obtain ⟨-, -, rfl⟩ | ⟨post', rfl, hlog'⟩ := concat_eq_append_cons hlog
    · exact absurd hx he
    · rcases h with hc | h
      · exact ⟨e, by simp, hc⟩
      · obtain ⟨c, hmem, hclose⟩ := h pre x post' hlog' hx
        exact ⟨c, List.mem_append_left _ hmem, hclose⟩

/-- One more entry keeps the brackets in turn if it does not open an open log. -/
lemma alternates_concat : Alternates opens closes (log ++ [e]) ↔
    Alternates opens closes log ∧ (opens e → Closed opens closes log) := by
  constructor
  · refine fun h => ⟨fun pre x mid y post hlog hx hy => ?_, fun he pre x post hlog hx => ?_⟩
    · exact h pre x mid y (post ++ [e]) (by simp [hlog]) hx hy
    · exact h pre x post e [] (by simp [hlog]) hx he
  · rintro ⟨h, hclosed⟩ pre x mid y post hlog hx hy
    rw [← List.cons_append, ← List.append_assoc] at hlog
    obtain ⟨-, hlog', rfl⟩ | ⟨post', -, hlog'⟩ := concat_eq_append_cons hlog
    · exact hclosed hy pre x mid hlog' hx
    · exact h pre x mid y post' (by simpa using hlog') hx hy

end Brackets
