import Tritonn.Lib.Run

/-!
State machines that do not return to a state that they have left.

A machine reads values of a set `I`, and a state may be one that a value crosses into.  When it is
entered by a crossing only (`enter`), is then left for a state of a higher rank only (`hold`), and
cannot be crossed into any more when it was left for another one (`exit`), no run comes back to a
state that it has left (`Latch.not_return`).
-/

/-- The rules of a machine that reads the values of a set, with the crossings and the ranks of its
states. -/
structure Latch {σ ι : Type*} (next : σ → ι → σ) (I : ι → Prop) (crosses : σ → ι → Prop)
    (rank : σ → ℕ) : Prop where
  enter : ∀ s i, I i → next s i ≠ s → crosses (next s i) i
  hold : ∀ s i j, crosses s i → I i → I j → next s j = s ∨ rank s < rank (next s j)
  exit : ∀ s i j, I i → I j → next s i ≠ s → rank s < rank (next s i) ∨ ¬ crosses s j

namespace Latch

variable {σ ι : Type*} {next : σ → ι → σ} {I : ι → Prop} {crosses : σ → ι → Prop} {rank : σ → ℕ}

/-- A state that was crossed into behind `s`, from where the machine does not come back to `s`. -/
structure Behind (I : ι → Prop) (crosses : σ → ι → Prop) (rank : σ → ℕ) (s t : σ) : Prop where
  ne : t ≠ s
  crossed : ∃ i, I i ∧ crosses t i
  barred : rank s < rank t ∨ ∀ i, I i → ¬ crosses s i

/-- One step stays behind the state. -/
lemma Behind.step (h : Latch next I crosses rank) {s t : σ} (hb : Behind I crosses rank s t) {j : ι}
    (hj : I j) : Behind I crosses rank s (next t j) := by
  obtain ⟨i, hi, hc⟩ := hb.crossed
  rcases eq_or_ne (next t j) t with heq | hne
  · rw [heq]
    exact hb
  · have hcross := h.enter t j hj hne
    have hrank := (h.hold t i j hc hi hj).resolve_left hne
    refine ⟨fun heq => ?_, ⟨j, hj, hcross⟩, hb.barred.imp hrank.trans' id⟩
    rcases hb.barred with hlt | hbar
    · rw [heq] at hrank
      exact absurd hrank (not_lt.mpr hlt.le)
    · rw [heq] at hcross
      exact hbar j hj hcross

/-- The step that leaves a state goes behind it. -/
lemma behind_of_ne (h : Latch next I crosses rank) {s : σ} {i : ι} (hi : I i)
    (hne : next s i ≠ s) : Behind I crosses rank s (next s i) := by
  refine ⟨hne, ⟨i, hi, h.enter s i hi hne⟩, ?_⟩
  by_cases hrank : rank s < rank (next s i)
  · exact .inl hrank
  · exact .inr fun j hj => (h.exit s i j hi hj hne).resolve_left hrank

lemma Behind.run (h : Latch next I crosses rank) {s t : σ} (hb : Behind I crosses rank s t)
    {l : List ι} (hl : ∀ i ∈ l, I i) : Behind I crosses rank s (l.foldl next t) := by
  induction l generalizing t with
  | nil => exact hb
  | cons i l ih =>
      exact ih (hb.step h (hl i List.mem_cons_self)) fun j hj => hl j (List.mem_cons_of_mem i hj)

/-- A run that ends in the state in which it began does not leave it in between. -/
lemma foldl_prefix_eq (h : Latch next I crosses rank) {s : σ} {l : List ι} (hl : ∀ i ∈ l, I i)
    (hend : l.foldl next s = s) {m : List ι} (hm : m <+: l) : m.foldl next s = s := by
  by_contra hne
  obtain ⟨pre, i, post, rfl, hpre, hi⟩ := Run.exists_leave (S := (· = s)) rfl hne
  obtain ⟨rest, rfl⟩ := hm
  have hs : pre.foldl next s = s := hpre pre List.prefix_rfl
  rw [hs] at hi
  have hbehind := (behind_of_ne h (hl i (by simp)) hi).run h
    (l := post ++ rest) fun j hj => hl j (by simp at hj ⊢; tauto)
  refine hbehind.ne ?_
  simpa [List.foldl_append, hs] using hend

/-- No run comes back to a state that it has left. -/
theorem not_return (h : Latch next I crosses rank) {s : σ} {l : List ι} (hl : ∀ i ∈ l, I i)
    {a b c : List ι} (hab : a <+: b) (hbc : b <+: c) (hcl : c <+: l)
    (heq : a.foldl next s = c.foldl next s) : b.foldl next s = a.foldl next s := by
  obtain ⟨m, rfl⟩ := hab
  obtain ⟨n, rfl⟩ := hbc
  rw [List.append_assoc] at hcl heq
  rw [List.foldl_append] at heq ⊢
  exact foldl_prefix_eq h (fun i hi => hl i (hcl.subset (List.mem_append_right a hi))) heq.symm
    (List.prefix_append m n)

end Latch
