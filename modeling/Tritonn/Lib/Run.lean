import Mathlib

/-!
Runs of a deterministic step function over a list of inputs.

A run is `List.foldl step s l`.  A statement about every cycle of a run is `Along step P s l`:
`P` holds of the state before and of the input of each step.

* `along_of_inv` and `along_congr` carry an invariant along a run and turn a step-by-step
  implication or equivalence into one about whole runs;
* `forall_prefix_iff_along` does so for an invariant of the history, not of the state alone, and
  `forall_prefix_iff_along_of` for the runs of a kind;
* `forall_prefix_iff` reads a property of the states that a run goes through as a property along
  the run, and `along_iff_forall_prefix` a property along the run as one of its steps;
* `Until` is a run that stays in one set of states and ends in another, and `exists_leave` the step
  with which a run leaves a set;
* `outputs_of_potential` adds up what a run puts out by a quantity that each step lowers by its
  output.
-/

namespace Run

variable {σ ι : Type*} (step : σ → ι → σ)

/-- `P` holds of the state and the input of every step of the run from `s` over the list. -/
def Along (P : σ → ι → Prop) : σ → List ι → Prop
  | _, [] => True
  | s, i :: l => P s i ∧ Along P (step s i) l

variable {step} {P Q : σ → ι → Prop} {Inv : σ → Prop}

@[simp] lemma along_nil (s : σ) : Along step P s [] := trivial

@[simp] lemma along_cons (s : σ) (i : ι) (l : List ι) :
    Along step P s (i :: l) ↔ P s i ∧ Along step P (step s i) l := Iff.rfl

instance decidableAlong [∀ s i, Decidable (P s i)] :
    (s : σ) → (l : List ι) → Decidable (Along step P s l)
  | _, [] => .isTrue trivial
  | s, i :: l =>
      have := decidableAlong (step s i) l
      inferInstanceAs (Decidable (P s i ∧ Along step P (step s i) l))

lemma along_of_forall (h : ∀ s i, P s i) {s : σ} {l : List ι} : Along step P s l := by
  induction l generalizing s with
  | nil => trivial
  | cons i l ih => exact ⟨h s i, ih⟩

lemma along_of_forall_mem {s : σ} {l : List ι} (h : ∀ s, ∀ i ∈ l, P s i) : Along step P s l := by
  induction l generalizing s with
  | nil => trivial
  | cons i l ih =>
      exact ⟨h s i List.mem_cons_self, ih fun s j hj => h s j (List.mem_cons_of_mem i hj)⟩

lemma along_and (s : σ) (l : List ι) :
    Along step (fun s i => P s i ∧ Q s i) s l ↔ Along step P s l ∧ Along step Q s l := by
  induction l generalizing s with
  | nil => simp
  | cons i l ih => simp only [along_cons, ih, and_assoc, and_left_comm]

/-- A condition on every step gives a property of every step, with the help of an invariant. -/
theorem along_of_inv (Inv : σ → Prop) (hstep : ∀ s i, Inv s → P s i → Q s i ∧ Inv (step s i))
    {s : σ} (hs : Inv s) {l : List ι} (hl : Along step P s l) : Along step Q s l := by
  induction l generalizing s with
  | nil => trivial
  | cons i l ih =>
      obtain ⟨hQ, hInv⟩ := hstep s i hs hl.1
      exact ⟨hQ, ih hInv hl.2⟩

/-- Two properties that agree on the states of an invariant hold along the same runs of a kind
`A`, when the first of them preserves the invariant. -/
theorem along_congr (Inv : σ → Prop) {A : σ → ι → Prop}
    (hPQ : ∀ s i, Inv s → A s i → (P s i ↔ Q s i))
    (hstep : ∀ s i, Inv s → A s i → P s i → Inv (step s i)) {s : σ} (hs : Inv s) {l : List ι}
    (hl : Along step A s l) : Along step P s l ↔ Along step Q s l := by
  induction l generalizing s with
  | nil => simp
  | cons i l ih =>
      rw [along_cons, along_cons, ← hPQ s i hs hl.1]
      exact and_congr_right fun hP => ih (hstep s i hs hl.1 hP) hl.2

/-- A property of the states after every prefix of a run is the property of the first state and of
the state after every step. -/
theorem forall_prefix_iff {C : σ → Prop} (s : σ) (l : List ι) :
    (∀ pre, pre <+: l → C (pre.foldl step s)) ↔ C s ∧ Along step (fun s i => C (step s i)) s l := by
  induction l generalizing s with
  | nil => simp
  | cons i l ih =>
      rw [along_cons, ← ih (step s i)]
      constructor
      · intro h
        refine ⟨h [] List.nil_prefix, fun pre hpre => ?_⟩
        exact h (i :: pre) (List.cons_prefix_cons.mpr ⟨rfl, hpre⟩)
      · rintro ⟨h0, h⟩ pre hpre
        cases pre with
        | nil => exact h0
        | cons j pre =>
            obtain ⟨rfl, hpre'⟩ := List.cons_prefix_cons.mp hpre
            exact h pre hpre'

/-- A property along a run is one of the state before and of the input of each of its steps. -/
theorem along_iff_forall_prefix (s : σ) (l : List ι) :
    Along step P s l ↔ ∀ pre i, pre ++ [i] <+: l → P (pre.foldl step s) i := by
  induction l generalizing s with
  | nil => simp
  | cons j l ih =>
      rw [along_cons, ih]
      constructor
      · rintro ⟨h0, h⟩ pre i hpre
        cases pre with
        | nil =>
            obtain ⟨rfl, -⟩ := List.cons_prefix_cons.mp hpre
            exact h0
        | cons k pre =>
            obtain ⟨rfl, hpre'⟩ := List.cons_prefix_cons.mp hpre
            exact h pre i hpre'
      · intro h
        exact ⟨h [] j (by simp), fun pre i hpre =>
          h (j :: pre) i (List.cons_prefix_cons.mpr ⟨rfl, hpre⟩)⟩

lemma along_append (s : σ) (l m : List ι) :
    Along step P s (l ++ m) ↔ Along step P s l ∧ Along step P (l.foldl step s) m := by
  induction l generalizing s with
  | nil => simp
  | cons i l ih => rw [List.cons_append, along_cons, along_cons, ih, List.foldl_cons, and_assoc]

lemma along_concat (s : σ) (l : List ι) (i : ι) :
    Along step P s (l ++ [i]) ↔ Along step P s l ∧ P (l.foldl step s) i := by
  rw [along_append, along_cons, and_iff_left (along_nil _)]

/-- In a run of a kind `A`, a property of the history holds of every prefix if and only if each step
meets a condition, when this is so for one more step of a history with the invariant `I`. -/
theorem forall_prefix_iff_along_of {s : σ} {A : σ → ι → Prop} {C : List ι → Prop}
    (I : List ι → Prop) (hnil : I [] ∧ C [])
    (hstep : ∀ l i, I l → A (l.foldl step s) i → (C (l ++ [i]) ↔ P (l.foldl step s) i) ∧
      (P (l.foldl step s) i → I (l ++ [i]))) {l : List ι} (hl : Along step A s l) :
    (∀ pre, pre <+: l → C pre) ↔ Along step P s l := by
  suffices h : ((∀ pre, pre <+: l → C pre) ↔ Along step P s l) ∧ (Along step P s l → I l) from h.1
  induction l using List.reverseRecOn with
  | nil => simp [hnil]
  | append_singleton l i ih =>
      rw [along_concat] at hl ⊢
      have ih := ih hl.1
      refine ⟨⟨fun h => ?_, fun h pre hpre => ?_⟩, fun h => (hstep l i (ih.2 h.1) hl.2).2 h.2⟩
      · have hP := ih.1.mp fun pre hpre => h pre (hpre.trans (List.prefix_append l [i]))
        exact ⟨hP, (hstep l i (ih.2 hP) hl.2).1.mp (h _ List.prefix_rfl)⟩
      · rcases List.prefix_concat_iff.mp hpre with rfl | hpre
        · exact (hstep l i (ih.2 h.1) hl.2).1.mpr h.2
        · exact ih.1.mpr h.1 pre hpre

/-- A property of the history holds of every prefix of a run if and only if each step of it meets a
condition, when this is so for one more step of a history with the invariant `I`. -/
theorem forall_prefix_iff_along {s : σ} {C : List ι → Prop} (I : List ι → Prop)
    (hnil : I [] ∧ C [])
    (hstep : ∀ l i, I l → (C (l ++ [i]) ↔ P (l.foldl step s) i) ∧
      (P (l.foldl step s) i → I (l ++ [i]))) (l : List ι) :
    (∀ pre, pre <+: l → C pre) ↔ Along step P s l :=
  forall_prefix_iff_along_of (A := fun _ _ => True) I hnil (fun l i h _ => hstep l i h)
    (along_of_forall fun _ _ => trivial)

lemma Along.of_isPrefix {s : σ} {l m : List ι} (h : Along step P s l) (hm : m <+: l) :
    Along step P s m := by
  have h' := along_iff_forall_prefix s l |>.mp h
  exact along_iff_forall_prefix s m |>.mpr fun pre i hpre => h' pre i (hpre.trans hm)

/-! ### Leaving a set of states -/

variable (step) in
/-- The states of a run are in `A`, but for the last one, which is in `F`. -/
def Until (A F : σ → Prop) : σ → List ι → Prop
  | s, [] => F s
  | s, i :: l => A s ∧ Until A F (step s i) l

variable {A F : σ → Prop}

@[simp] lemma until_nil (s : σ) : Until step A F s [] ↔ F s := Iff.rfl

@[simp] lemma until_cons (s : σ) (i : ι) (l : List ι) :
    Until step A F s (i :: l) ↔ A s ∧ Until step A F (step s i) l := Iff.rfl

lemma Until.final {s : σ} {l : List ι} (h : Until step A F s l) : F (l.foldl step s) := by
  induction l generalizing s with
  | nil => exact h
  | cons i l ih => exact ih h.2

lemma Until.head {s : σ} {l : List ι} (h : Until step A F s l) : A s ∨ F s := by
  cases l with
  | nil => exact .inr h
  | cons i l => exact .inl h.1

/-- The rest of such a run is one, too. -/
lemma Until.drop {s : σ} {pre l : List ι} (h : Until step A F s (pre ++ l)) :
    Until step A F (pre.foldl step s) l := by
  induction pre generalizing s with
  | nil => exact h
  | cons i pre ih => exact ih h.2

/-- A run that stays in a set may go on with a step out of it. -/
lemma Until.concat {s : σ} {l : List ι} {i : ι} (h : Until step A A s l)
    (hi : F (step (l.foldl step s) i)) : Until step A F s (l ++ [i]) := by
  induction l generalizing s with
  | nil => exact ⟨h, hi⟩
  | cons j l ih => exact ⟨h.1, ih h.2 hi⟩

/-- The step behind a part of such a run. -/
lemma Until.step_at {s : σ} {pre post : List ι} {i : ι} (h : Until step A F s (pre ++ i :: post)) :
    A (pre.foldl step s) ∧
      (A (step (pre.foldl step s) i) ∨ F (step (pre.foldl step s) i)) :=
  ⟨h.drop.1, h.drop.2.head⟩

lemma Until.along {s : σ} {l : List ι} (h : Until step A F s l) :
    Along step (fun s i => A s ∧ (A (step s i) ∨ F (step s i))) s l := by
  induction l generalizing s with
  | nil => trivial
  | cons i l ih => exact ⟨⟨h.1, h.2.head⟩, ih h.2⟩

instance decidableUntil [DecidablePred A] [DecidablePred F] :
    (s : σ) → (l : List ι) → Decidable (Until step A F s l)
  | s, [] => inferInstanceAs (Decidable (F s))
  | s, i :: l =>
      have := decidableUntil (step s i) l
      inferInstanceAs (Decidable (A s ∧ Until step A F (step s i) l))

/-- A run that begins inside a set and ends outside has a step that leaves it first. -/
theorem exists_leave {S : σ → Prop} {s : σ} {l : List ι} (hs : S s) (hl : ¬ S (l.foldl step s)) :
    ∃ pre i post, l = pre ++ i :: post ∧ (∀ m, m <+: pre → S (m.foldl step s)) ∧
      ¬ S (step (pre.foldl step s) i) := by
  induction l generalizing s with
  | nil => exact absurd hs hl
  | cons i l ih =>
      by_cases hi : S (step s i)
      · obtain ⟨pre, j, post, rfl, hpre, hj⟩ := ih hi hl
        refine ⟨i :: pre, j, post, rfl, fun m hm => ?_, hj⟩
        cases m with
        | nil => exact hs
        | cons k m =>
            obtain ⟨rfl, hm'⟩ := List.cons_prefix_cons.mp hm
            exact hpre m hm'
      · refine ⟨[], i, l, rfl, fun m hm => ?_, hi⟩
        rw [List.prefix_nil.mp hm]
        exact hs

/-- A run that ends outside of a set in which it begins leaves it with a step in between. -/
lemma Until.exists_leave {s : σ} {l : List ι} (h : Until step A F s l) {S : σ → Prop} (hs : S s)
    (hF : ∀ s, F s → ¬ S s) :
    ∃ pre i post, l = pre ++ i :: post ∧ (∀ m, m <+: pre → S (m.foldl step s)) ∧
      ¬ S (step (pre.foldl step s) i) ∧
      (A (step (pre.foldl step s) i) ∨ F (step (pre.foldl step s) i)) ∧
      Until step A F (step (pre.foldl step s) i) post := by
  obtain ⟨pre, i, post, rfl, hpre, hi⟩ := Run.exists_leave hs (hF _ h.final)
  exact ⟨pre, i, post, rfl, hpre, hi, h.step_at.2, h.drop.2⟩

/-! ### Outputs -/

variable {β : Type*} {out : σ → ι → List β}

variable (step out) in
/-- What the steps of a run put out, in a row. -/
def outputs : σ → List ι → List β
  | _, [] => []
  | s, i :: l => out s i ++ outputs (step s i) l

lemma outputs_concat (s : σ) (l : List ι) (i : ι) :
    outputs step out s (l ++ [i]) = outputs step out s l ++ out (l.foldl step s) i := by
  induction l generalizing s with
  | nil => simp [outputs]
  | cons j l ih => simp only [List.cons_append, outputs, ih, List.foldl_cons, List.append_assoc]

/-- A quantity of which each step takes its output off from the front. -/
theorem outputs_of_potential (rest : σ → List β) {s : σ} {l : List ι}
    (h : Along step (fun s i => rest s = out s i ++ rest (step s i)) s l) :
    outputs step out s l ++ rest (l.foldl step s) = rest s := by
  induction l generalizing s with
  | nil => rfl
  | cons i l ih => rw [outputs, List.append_assoc, List.foldl_cons, ih h.2, ← h.1]

end Run
