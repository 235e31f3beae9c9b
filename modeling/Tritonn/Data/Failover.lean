import Tritonn.Data.Selector
import Tritonn.Lib.Run

/-!
The selection of a selector: whether it stays valid, and which input follows a faulty one.

* `InRange` says that behind a cycle the selection is `-1` or one of the inputs;
* `StepsBehind` is a cycle in which the mode `NEXT` meets the last input at fault, and
  `along_inRange_iff` says for which runs the selection stays in range: those without such a cycle;
* `firstHealthy` is the first input without a fault that is met when stepping around the inputs, and
  `FailsOver` the property that a cycle selects it;
* `failsOver_iff` says when a cycle does so: when the input beside the faulty one is healthy, or all
  are at fault, and the step there does not pass the last one;
* `inRange_fails` and `failsOver_fails` are a selector with two inputs of which the last one fails.
-/

namespace Tritonn

namespace Selector

variable {s t : Selector} {i : SelectorInput}

/-- A selector with inputs, at most three as a loaded one has. -/
structure HasInputs (s : Selector) : Prop where
  pos : 0 < s.countInputs
  lt : s.countInputs < maxInputs

/-- A loaded selector has inputs. -/
lemma hasInputs_of_loadInputs {l : List Bool} (h : loadInputs l 0 = some s.countInputs) :
    s.HasInputs := by
  obtain ⟨htwo, hlt⟩ := lt_of_loadInputs (by decide) h
  exact ⟨by omega, hlt⟩

/-! ### What a cycle selects -/

/-- The selection at the beginning of a cycle; what is no input counts as `-1`. -/
def selection (s : Selector) (i : SelectorInput) : ℤ :=
  let v := (s.load i).select.value
  if (s.countInputs : ℤ) ≤ v ∨ v < -1 then -1 else v

/-- The mode of a cycle. -/
def modeOf (s : Selector) (i : SelectorInput) : UInt16 := (s.load i).mode.value

/-- The input has no fault in any group. -/
def Healthy (s : Selector) (i : SelectorInput) (ii : ℕ) : Prop := s.faultGrp i ii = 0

instance (s : Selector) (i : SelectorInput) (ii : ℕ) : Decidable (s.Healthy i ii) :=
  inferInstanceAs (Decidable (_ = _))

lemma healthy_of_le {ii : ℕ} (h : s.countInputs ≤ ii) : s.Healthy i ii :=
  if_neg (not_lt.mpr h)

/-- The part of a selector that decides about the faults and the steps. -/
structure SameInputs (s t : Selector) : Prop where
  countInputs : t.countInputs = s.countInputs
  countGroups : t.countGroups = s.countGroups
  mode : t.mode.value = s.mode.value

lemma SameInputs.trans {r : Selector} (h : s.SameInputs t) (h' : t.SameInputs r) :
    s.SameInputs r :=
  ⟨h'.countInputs.trans h.countInputs, h'.countGroups.trans h.countGroups, h'.mode.trans h.mode⟩

lemma SameInputs.faultGrp (h : s.SameInputs t) : t.faultGrp i = s.faultGrp i := by
  funext ii
  rw [Selector.faultGrp, Selector.faultGrp, h.countInputs, h.countGroups]

lemma SameInputs.stepSelect (h : s.SameInputs t) : t.stepSelect = s.stepSelect := by
  funext v
  rw [Selector.stepSelect, Selector.stepSelect, h.countInputs, h.mode]

lemma compare_sameInputs : s.SameInputs s.compare ∧ s.compare.select.value = s.select.value := by
  rw [compare]
  split_ifs <;> exact ⟨⟨rfl, rfl, rfl⟩, rfl⟩

lemma checkSelect_sameInputs : s.SameInputs s.checkSelect := by
  rw [checkSelect]
  split_ifs <;> exact ⟨rfl, rfl, rfl⟩

lemma checkSelect_select : s.checkSelect.select.value =
    if (s.countInputs : ℤ) ≤ s.select.value ∨ s.select.value < -1 then -1 else s.select.value := by
  rw [checkSelect]
  split_ifs <;> rfl

/-- The input beside the selected one in the direction of the mode, behind the wrap at both ends. -/
lemma change_select (hs : s.HasInputs) :
    (s.change i).select.value =
      if s.Healthy i (s.stepSelect s.select.value).toNat then s.stepSelect s.select.value
      else -1 := by
  have hcount : s.countInputs - 3 = 0 := by
    have hlt : s.countInputs < 4 := hs.lt
    omega
  have hstep : ({ s with lockNoChange := false } : Selector).stepSelect = s.stepSelect :=
    SameInputs.stepSelect ⟨rfl, rfl, rfl⟩
  have hfault : ({ s with lockNoChange := false } : Selector).faultGrp i = s.faultGrp i :=
    SameInputs.faultGrp ⟨rfl, rfl, rfl⟩
  rw [change, hcount]
  dsimp only
  rw [walk, hstep, hfault, ite_not]
  by_cases h : s.Healthy i (s.stepSelect s.select.value).toNat
  · rw [if_pos h, if_pos (show s.faultGrp i _ = 0 from h)]
    rfl
  · rw [if_neg h, if_neg (show ¬ s.faultGrp i _ = 0 from h)]
    rfl

/-- What the modes make of a selected input with a fault. -/
lemma failover_select (hs : s.HasInputs) :
    (s.failover i).select.value =
      if s.mode.value = SelectorMode.noChange then s.select.value
      else
        let v := if s.mode.value = SelectorMode.toError then -1 else s.select.value
        if s.Healthy i (s.stepSelect v).toNat then s.stepSelect v else -1 := by
  rw [failover]
  split_ifs with hno hlock hto
  · rfl
  · rfl
  · exact change_select (i := i)
      (s := { (s.event (.toFault s.select.value)).setSelect (-1) with fault := 1 }) ⟨hs.pos, hs.lt⟩
  · exact change_select hs

/-- What the automatic changes make of a selection. -/
lemma transitions_select (hs : s.HasInputs) :
    (s.transitions i).select.value =
      if s.select.value = -1 ∨ s.Healthy i s.select.value.toNat ∨
          s.mode.value = SelectorMode.noChange then s.select.value
      else
        let v := if s.mode.value = SelectorMode.toError then -1 else s.select.value
        if s.Healthy i (s.stepSelect v).toNat then s.stepSelect v else -1 := by
  let keeps := s.select.value = -1 ∨ s.Healthy i s.select.value.toNat ∨
    s.mode.value = SelectorMode.noChange
  rw [transitions]
  by_cases hneg : s.select.value = -1
  · have hkeeps : keeps := .inl hneg
    rw [if_pos hneg, if_pos hkeeps]
  · rw [if_neg hneg]
    by_cases hfault : s.Healthy i s.select.value.toNat
    · have hkeeps : keeps := .inr (.inl hfault)
      rw [if_neg (show ¬ s.faultGrp i _ ≠ 0 from not_not.mpr hfault), if_pos hkeeps]
      split_ifs <;> rfl
    · rw [if_pos (show s.faultGrp i _ ≠ 0 from hfault), failover_select hs]
      by_cases hno : s.mode.value = SelectorMode.noChange
      · have hkeeps : keeps := .inr (.inr hno)
        rw [if_pos hno, if_pos hkeeps]
      · have hleaves : ¬ keeps := by tauto
        rw [if_neg hno, if_neg hleaves]

/-- The selection behind a cycle. -/
theorem scan_select (hs : s.HasInputs) (hoff : s.isOff = false) :
    (s.scan i).select.value =
      if s.selection i = -1 ∨ s.Healthy i (s.selection i).toNat ∨
          s.modeOf i = SelectorMode.noChange then s.selection i
      else
        let v := if s.modeOf i = SelectorMode.toError then -1 else s.selection i
        if s.Healthy i ((s.load i).stepSelect v).toNat then (s.load i).stepSelect v else -1 := by
  let begun : Selector := { s.load i with isCalc := true, fault := 0 }
  let u := begun.compare.checkSelect
  obtain ⟨hcompare, hvalue⟩ := compare_sameInputs (s := begun)
  have hbegun : (s.load i).SameInputs begun := ⟨rfl, rfl, rfl⟩
  have hsame : (s.load i).SameInputs u := hbegun.trans (hcompare.trans checkSelect_sameInputs)
  have hselect : u.select.value = s.selection i := by
    rw [checkSelect_select, hvalue, hcompare.countInputs]
    rfl
  have hscan : s.scan i = (u.transitions i).output i := by
    have hoff' : ¬ begun.isOff = true := by rw [show begun.isOff = s.isOff from rfl, hoff]; simp
    rw [scan, calculate, if_neg (by simp [load])]
    exact if_neg hoff'
  have hu : u.HasInputs :=
    ⟨hs.pos.trans_eq hsame.countInputs.symm, hsame.countInputs.trans_lt hs.lt⟩
  have hfault : u.Healthy i = s.Healthy i := by
    funext ii
    rw [Healthy, Healthy, hsame.faultGrp]
    rfl
  rw [hscan, show ((u.transitions i).output i).select = (u.transitions i).select from rfl,
    transitions_select hu, hselect, hsame.mode, hsame.stepSelect]
  simp only [hfault]
  rfl

lemma change_countInputs : (s.change i).countInputs = s.countInputs := by
  rw [change]
  dsimp only
  split_ifs <;> rfl

lemma failover_countInputs : (s.failover i).countInputs = s.countInputs := by
  rw [failover]
  split_ifs
  · rfl
  · rfl
  · exact change_countInputs
  · exact change_countInputs

lemma transitions_countInputs : (s.transitions i).countInputs = s.countInputs := by
  rw [transitions]
  split_ifs
  · rfl
  · exact failover_countInputs
  · rfl
  · rfl

lemma scan_countInputs : (s.scan i).countInputs = s.countInputs := by
  rw [scan, calculate]
  dsimp only
  split_ifs
  · rfl
  · rfl
  · exact transitions_countInputs.trans
      (compare_sameInputs.1.trans checkSelect_sameInputs).countInputs

lemma HasInputs.scan (hs : s.HasInputs) : (s.scan i).HasInputs :=
  ⟨scan_countInputs.symm ▸ hs.pos, scan_countInputs.symm ▸ hs.lt⟩

lemma selection_range : s.selection i = -1 ∨ 0 ≤ s.selection i ∧ s.selection i < s.countInputs := by
  unfold selection
  dsimp only
  split_ifs with h
  · exact .inl rfl
  · omega

/-! ### The steps -/

lemma stepSelect_next (hmode : s.mode.value = SelectorMode.changeNext) {v : ℤ} (h0 : 0 ≤ v)
    (hn : v < s.countInputs) : s.stepSelect v = v + 1 := by
  rw [stepSelect, if_pos hmode]
  split_ifs <;> omega

lemma stepSelect_prev (hs : s.HasInputs) (hmode : s.mode.value ≠ SelectorMode.changeNext) {v : ℤ}
    (hn : v < s.countInputs) :
    s.stepSelect v = if v ≤ 0 then (s.countInputs : ℤ) - 1 else v - 1 := by
  have hpos := hs.pos
  rw [stepSelect, if_neg hmode]
  split_ifs <;> omega

/-- What a cycle selects when the selected input is at fault. -/
lemma scan_select_of_fault (hs : s.HasInputs) (hoff : s.isOff = false) (h0 : 0 ≤ s.selection i)
    (hfault : ¬ s.Healthy i (s.selection i).toNat) :
    (s.scan i).select.value =
      if s.modeOf i = SelectorMode.noChange then s.selection i
      else
        let v := if s.modeOf i = SelectorMode.toError then -1 else s.selection i
        if s.Healthy i ((s.load i).stepSelect v).toNat then (s.load i).stepSelect v else -1 := by
  rw [scan_select hs hoff]
  by_cases hno : s.modeOf i = SelectorMode.noChange
  · rw [if_pos hno, if_pos (.inr (.inr hno))]
  · have hleaves : ¬ (s.selection i = -1 ∨ s.Healthy i (s.selection i).toNat ∨
        s.modeOf i = SelectorMode.noChange) := by
      rintro (h | h | h)
      · omega
      · exact hfault h
      · exact hno h
    rw [if_neg hno, if_neg hleaves]

/-- In the mode `NEXT` it is the input ahead, whose place may be one behind the last. -/
lemma scan_select_next (hs : s.HasInputs) (hoff : s.isOff = false) (h0 : 0 ≤ s.selection i)
    (hfault : ¬ s.Healthy i (s.selection i).toNat) (hmode : s.modeOf i = SelectorMode.changeNext) :
    (s.scan i).select.value =
      if s.Healthy i (s.selection i + 1).toNat then s.selection i + 1 else -1 := by
  have hn : s.selection i < s.countInputs := by have := selection_range (s := s) (i := i); omega
  have hstep : (s.load i).stepSelect (s.selection i) = s.selection i + 1 :=
    stepSelect_next hmode h0 hn
  have hno : s.modeOf i ≠ SelectorMode.noChange := by rw [hmode]; decide
  have hto : s.modeOf i ≠ SelectorMode.toError := by rw [hmode]; decide
  rw [scan_select_of_fault hs hoff h0 hfault, if_neg hno]
  dsimp only
  rw [if_neg hto, hstep]

/-- In every other mode that steps it is the input behind, from the last one on in the mode
`TOERROR`. -/
lemma scan_select_prev (hs : s.HasInputs) (hoff : s.isOff = false) (h0 : 0 ≤ s.selection i)
    (hfault : ¬ s.Healthy i (s.selection i).toNat) (hno : s.modeOf i ≠ SelectorMode.noChange)
    (hnext : s.modeOf i ≠ SelectorMode.changeNext) :
    (s.scan i).select.value =
      let v := if s.modeOf i = SelectorMode.toError ∨ s.selection i = 0 then
        (s.countInputs : ℤ) - 1 else s.selection i - 1
      if s.Healthy i v.toNat then v else -1 := by
  have hn : s.selection i < s.countInputs := by have := selection_range (s := s) (i := i); omega
  have hstep : (s.load i).stepSelect
      (if s.modeOf i = SelectorMode.toError then -1 else s.selection i) =
      if s.modeOf i = SelectorMode.toError ∨ s.selection i = 0 then
        (s.countInputs : ℤ) - 1 else s.selection i - 1 := by
    rw [stepSelect_prev (s := s.load i) ⟨hs.pos, hs.lt⟩ hnext
      (show _ < (s.countInputs : ℤ) by split_ifs <;> omega)]
    by_cases hto : s.modeOf i = SelectorMode.toError
    · simp only [hto, if_true, true_or]
      rfl
    · simp only [hto, if_false, false_or]
      have hcount : (s.load i).countInputs = s.countInputs := rfl
      rw [hcount]
      split_ifs <;> omega
  rw [scan_select_of_fault hs hoff h0 hfault, if_neg hno]
  dsimp only
  rw [hstep]

/-! ### The range of the selection -/

/-- Behind the cycle the selection with which the inputs are read is `-1` or one of the inputs. -/
def InRange (s : Selector) (i : SelectorInput) : Prop :=
  s.isOff = false → (s.scan i).select.value = -1 ∨
    0 ≤ (s.scan i).select.value ∧ (s.scan i).select.value < s.countInputs

/-- A cycle in which the mode `NEXT` meets the last input at fault. -/
def StepsBehind (s : Selector) (i : SelectorInput) : Prop :=
  s.isOff = false ∧ s.modeOf i = SelectorMode.changeNext ∧
    s.selection i = (s.countInputs : ℤ) - 1 ∧ ¬ s.Healthy i (s.selection i).toNat

instance (s : Selector) (i : SelectorInput) : Decidable (s.StepsBehind i) :=
  inferInstanceAs (Decidable (_ ∧ _ ∧ _ ∧ _))

/-- A cycle that leaves the selection as it found it. -/
lemma inRange_of_eq (h : s.isOff = false → (s.scan i).select.value = s.selection i) :
    s.InRange i := by
  intro hoff
  rw [h hoff]
  exact selection_range

/-- A cycle leaves the range if and only if the mode `NEXT` meets the last input at fault. -/
lemma inRange_iff_not_stepsBehind (hs : s.HasInputs) : s.InRange i ↔ ¬ s.StepsBehind i := by
  have hpos := hs.pos
  by_cases hkeep : s.isOff = true ∨ s.selection i = -1 ∨ s.Healthy i (s.selection i).toNat
  · refine iff_of_true (inRange_of_eq fun hoff => ?_) ?_
    · rw [scan_select hs hoff, if_pos]
      rcases hkeep with h | h | h
      · rw [hoff] at h
        exact absurd h (by simp)
      · exact .inl h
      · exact .inr (.inl h)
    · rintro ⟨hoff, -, hlast, hfault⟩
      rcases hkeep with h | h | h
      · rw [hoff] at h
        exact absurd h (by simp)
      · omega
      · exact hfault h
  · push Not at hkeep
    obtain ⟨hoff, hneg, hfault⟩ := hkeep
    have hoff : s.isOff = false := by simpa using hoff
    obtain ⟨h0, hn⟩ := selection_range.resolve_left hneg
    by_cases hnext : s.modeOf i = SelectorMode.changeNext
    · rw [InRange, scan_select_next hs hoff h0 hfault hnext]
      by_cases hlast : s.selection i = (s.countInputs : ℤ) - 1
      · -- The place behind the last input counts no fault.
        have hbehind : s.Healthy i (s.selection i + 1).toNat := healthy_of_le (by omega)
        rw [if_pos hbehind]
        refine iff_of_false (fun h => ?_) (not_not.mpr ⟨hoff, hnext, hlast, hfault⟩)
        have h' := h hoff
        omega
      · refine iff_of_true (fun _ => ?_) fun h => hlast h.2.2.1
        split_ifs <;> omega
    · refine iff_of_true (fun _ => ?_) fun h => hnext h.2.1
      by_cases hno : s.modeOf i = SelectorMode.noChange
      · rw [scan_select_of_fault hs hoff h0 hfault, if_pos hno]
        exact .inr ⟨h0, hn⟩
      · rw [scan_select_prev hs hoff h0 hfault hno hnext]
        dsimp only
        split_ifs <;> omega

/-- The selection stays in range along a run if and only if the mode `NEXT` never meets the last
input at fault. -/
theorem along_inRange_iff (hs : s.HasInputs) (l : List SelectorInput) :
    Run.Along scan InRange s l ↔ Run.Along scan (fun s i => ¬ s.StepsBehind i) s l :=
  Run.along_congr HasInputs (A := fun _ _ => True) (fun _ _ hs _ => inRange_iff_not_stepsBehind hs)
    (fun _ _ hs _ _ => hs.scan) hs (Run.along_of_forall fun _ _ => trivial)

/-- A selector with two inputs of which the last one is selected, in the mode `NEXT`. -/
def twoInputs : Selector where
  keypad _ := ⟨0, 0⟩
  valueOut _ := ⟨0, 0⟩
  select := .init 1
  countInputs := 2

/-- The fault of one of the inputs. -/
def failing (ii : ℕ) : SelectorInput where
  valueIn _ _ := ⟨0, 0⟩
  faultIn jj _ := if jj = ii then 1 else 0

lemma twoInputs_hasInputs : twoInputs.HasInputs := ⟨by decide, by decide⟩

/-- The operator selects the first input, which is at fault, and the mode `PREV` when the second
one fails. -/
def switching : List SelectorInput :=
  [failing 0, { failing 0 with select := some 0 },
    { failing 1 with mode := some SelectorMode.changePrev }]

example : (switching.scanl scan twoInputs).map (fun s => s.select.value) = [1, 1, 1, 0] := by decide

/-- Each input follows the other one, and none is left behind. -/
theorem along_inRange_iff_twoInputs : Run.Along scan InRange twoInputs switching :=
  (along_inRange_iff twoInputs_hasInputs switching).mpr
    ⟨by decide, by decide, by decide, trivial⟩

/-- The place behind the last of two inputs is selected. -/
theorem inRange_fails :
    ∃ s l, HasInputs s ∧ ¬ Run.Along scan InRange s l := by
  refine ⟨twoInputs, [failing 1], twoInputs_hasInputs, fun h => ?_⟩
  have hselect : (twoInputs.scan (failing 1)).select.value = 2 := by decide
  have hrange := h.1 (by decide)
  rw [hselect] at hrange
  revert hrange
  decide

/-! ### The input that follows a faulty one -/

/-- The places that are met when stepping forward around the inputs, from the one ahead on. -/
def forwardFrom (n v k : ℕ) : ℕ := (v + (k + 1)) % n

/-- The places that are met when stepping backward around the inputs, from the one behind on. -/
def backwardFrom (n v k : ℕ) : ℕ := (v + (n - (k + 1))) % n

/-- The first healthy input of those that are met, and `-1` without one. -/
def firstHealthy (s : Selector) (i : SelectorInput) (place : ℕ → ℕ) : ℤ :=
  (((List.range s.countInputs).map place).find? fun ii => s.Healthy i ii).elim (-1)
    fun ii => (ii : ℤ)

/-- All inputs are at fault. -/
def NoneHealthy (s : Selector) (i : SelectorInput) : Prop :=
  ∀ ii < s.countInputs, ¬ s.Healthy i ii

/-- Every input is met once around. -/
def Meets (n : ℕ) (place : ℕ → ℕ) : Prop :=
  (∀ k, place k < n) ∧ ∀ ii < n, ∃ k < n, place k = ii

lemma meets_forwardFrom {n v : ℕ} (hv : v < n) : Meets n (forwardFrom n v) := by
  refine ⟨fun k => Nat.mod_lt _ (by omega), fun ii hii => ?_⟩
  by_cases h : v < ii
  · refine ⟨ii - v - 1, by omega, ?_⟩
    rw [forwardFrom, show v + (ii - v - 1 + 1) = ii by omega, Nat.mod_eq_of_lt hii]
  · refine ⟨ii + n - v - 1, by omega, ?_⟩
    rw [forwardFrom, show v + (ii + n - v - 1 + 1) = ii + n by omega, Nat.add_mod_right,
      Nat.mod_eq_of_lt hii]

lemma meets_backwardFrom {n v : ℕ} (hv : v < n) : Meets n (backwardFrom n v) := by
  refine ⟨fun k => Nat.mod_lt _ (by omega), fun ii hii => ?_⟩
  by_cases h : ii < v
  · refine ⟨v - ii - 1, by omega, ?_⟩
    rw [backwardFrom, show v + (n - (v - ii - 1 + 1)) = ii + n by omega, Nat.add_mod_right,
      Nat.mod_eq_of_lt hii]
  · refine ⟨v + n - ii - 1, by omega, ?_⟩
    rw [backwardFrom, show v + (n - (v + n - ii - 1 + 1)) = ii by omega, Nat.mod_eq_of_lt hii]

/-- What is selected when only the first place is looked at agrees with the first healthy input if
and only if that place is healthy or no input is. -/
lemma first_eq_firstHealthy {place : ℕ → ℕ} (hs : s.HasInputs)
    (hmeets : Meets s.countInputs place) :
    (if s.Healthy i (place 0) then (place 0 : ℤ) else -1) = s.firstHealthy i place ↔
      s.Healthy i (place 0) ∨ s.NoneHealthy i := by
  have hrange : List.range s.countInputs = 0 :: (List.range (s.countInputs - 1)).map Nat.succ := by
    rw [← List.range_succ_eq_map, Nat.sub_add_cancel hs.pos]
  by_cases hfirst : s.Healthy i (place 0)
  · refine iff_of_true ?_ (.inl hfirst)
    rw [if_pos hfirst, firstHealthy, hrange, List.map_cons, List.find?_cons_of_pos (by simpa)]
    rfl
  · rw [if_neg hfirst, or_iff_right hfirst, firstHealthy]
    cases hfind : ((List.range s.countInputs).map place).find? fun ii => s.Healthy i ii with
    | none =>
        refine iff_of_true rfl fun ii hii => ?_
        obtain ⟨k, hk, rfl⟩ := hmeets.2 ii hii
        have hnone := List.find?_eq_none.mp hfind (place k)
          (List.mem_map_of_mem (List.mem_range.mpr hk))
        simpa using hnone
    | some ii =>
        obtain ⟨k, -, rfl⟩ := List.mem_map.mp (List.mem_of_find?_eq_some hfind)
        have hhealthy : s.Healthy i (place k) := by simpa using List.find?_some hfind
        refine iff_of_false (fun h => ?_) fun h => h _ (hmeets.1 k) hhealthy
        rw [Option.elim_some] at h
        omega

lemma firstHealthy_lt {place : ℕ → ℕ} (hs : s.HasInputs) (hmeets : Meets s.countInputs place) :
    s.firstHealthy i place < s.countInputs := by
  have hpos := hs.pos
  rw [firstHealthy]
  cases hfind : ((List.range s.countInputs).map place).find? fun ii => s.Healthy i ii with
  | none =>
      rw [Option.elim_none]
      omega
  | some ii =>
      obtain ⟨k, -, rfl⟩ := List.mem_map.mp (List.mem_of_find?_eq_some hfind)
      have hlt := hmeets.1 k
      rw [Option.elim_some]
      omega

/-- The cycle selects the first healthy input in the direction of the mode, and `-1` in the mode
`TOERROR`. -/
def FailsOver (s : Selector) (i : SelectorInput) : Prop :=
  (s.modeOf i = SelectorMode.changeNext → (s.scan i).select.value =
      s.firstHealthy i (forwardFrom s.countInputs (s.selection i).toNat)) ∧
    (s.modeOf i = SelectorMode.changePrev → (s.scan i).select.value =
      s.firstHealthy i (backwardFrom s.countInputs (s.selection i).toNat)) ∧
    (s.modeOf i = SelectorMode.toError → (s.scan i).select.value = -1)

/-- One step from the selected input is enough: the input there is healthy, or all are at fault, and
the step forward does not pass the last input; in the mode `TOERROR` the last input is at fault. -/
def StepSuffices (s : Selector) (i : SelectorInput) : Prop :=
  let v := (s.selection i).toNat
  (s.modeOf i = SelectorMode.changeNext →
      v + 1 < s.countInputs ∧ (s.Healthy i (v + 1) ∨ s.NoneHealthy i)) ∧
    (s.modeOf i = SelectorMode.changePrev →
      s.Healthy i (backwardFrom s.countInputs v 0) ∨ s.NoneHealthy i) ∧
    (s.modeOf i = SelectorMode.toError → ¬ s.Healthy i (s.countInputs - 1))

lemma failsOver_next (hs : s.HasInputs) (hoff : s.isOff = false) (h0 : 0 ≤ s.selection i)
    (hfault : ¬ s.Healthy i (s.selection i).toNat) (hmode : s.modeOf i = SelectorMode.changeNext) :
    (s.scan i).select.value =
        s.firstHealthy i (forwardFrom s.countInputs (s.selection i).toNat) ↔
      (s.selection i).toNat + 1 < s.countInputs ∧
        (s.Healthy i ((s.selection i).toNat + 1) ∨ s.NoneHealthy i) := by
  have hn : s.selection i < s.countInputs := by have := selection_range (s := s) (i := i); omega
  have hmeets := meets_forwardFrom (n := s.countInputs) (v := (s.selection i).toNat) (by omega)
  rw [scan_select_next hs hoff h0 hfault hmode]
  obtain ⟨v, hv⟩ := Int.eq_ofNat_of_zero_le h0
  rw [hv] at hn hmeets ⊢
  rw [Int.toNat_natCast] at hmeets ⊢
  have hstep : ((v : ℤ) + 1).toNat = v + 1 := by omega
  rw [hstep]
  by_cases hlast : v + 1 < s.countInputs
  · have hplace : forwardFrom s.countInputs v 0 = v + 1 := Nat.mod_eq_of_lt hlast
    have hfirst := first_eq_firstHealthy (i := i) hs hmeets
    rw [hplace] at hfirst
    rw [and_iff_right hlast, ← hfirst]
    push_cast
    rfl
  · -- The place behind the last input is taken for a healthy one.
    rw [if_pos (healthy_of_le (not_lt.mp hlast))]
    refine iff_of_false (fun h => ?_) fun h => hlast h.1
    have hrange := firstHealthy_lt (i := i) hs hmeets
    omega

lemma failsOver_prev (hs : s.HasInputs) (hoff : s.isOff = false) (h0 : 0 ≤ s.selection i)
    (hfault : ¬ s.Healthy i (s.selection i).toNat) (hmode : s.modeOf i = SelectorMode.changePrev) :
    (s.scan i).select.value =
        s.firstHealthy i (backwardFrom s.countInputs (s.selection i).toNat) ↔
      s.Healthy i (backwardFrom s.countInputs (s.selection i).toNat 0) ∨ s.NoneHealthy i := by
  have hpos := hs.pos
  have hn : s.selection i < s.countInputs := by have := selection_range (s := s) (i := i); omega
  have hmeets := meets_backwardFrom (n := s.countInputs) (v := (s.selection i).toNat) (by omega)
  have hno : s.modeOf i ≠ SelectorMode.noChange := by rw [hmode]; decide
  have hnext : s.modeOf i ≠ SelectorMode.changeNext := by rw [hmode]; decide
  have hto : s.modeOf i ≠ SelectorMode.toError := by rw [hmode]; decide
  have hplace : (backwardFrom s.countInputs (s.selection i).toNat 0 : ℤ) =
      if s.selection i = 0 then (s.countInputs : ℤ) - 1 else s.selection i - 1 := by
    rw [backwardFrom]
    split_ifs with hzero
    · rw [Nat.mod_eq_of_lt (by omega)]
      omega
    · rw [show (s.selection i).toNat + (s.countInputs - (0 + 1)) =
        (s.selection i).toNat - 1 + s.countInputs by omega, Nat.add_mod_right,
        Nat.mod_eq_of_lt (by omega)]
      omega
  rw [scan_select_prev hs hoff h0 hfault hno hnext, ← first_eq_firstHealthy hs hmeets]
  dsimp only
  simp only [hto, false_or]
  rw [← hplace, Int.toNat_natCast]

lemma failsOver_toError (hs : s.HasInputs) (hoff : s.isOff = false) (h0 : 0 ≤ s.selection i)
    (hfault : ¬ s.Healthy i (s.selection i).toNat) (hmode : s.modeOf i = SelectorMode.toError) :
    (s.scan i).select.value = -1 ↔ ¬ s.Healthy i (s.countInputs - 1) := by
  have hpos := hs.pos
  have hno : s.modeOf i ≠ SelectorMode.noChange := by rw [hmode]; decide
  have hnext : s.modeOf i ≠ SelectorMode.changeNext := by rw [hmode]; decide
  have hlast : ((s.countInputs : ℤ) - 1).toNat = s.countInputs - 1 := by omega
  rw [scan_select_prev hs hoff h0 hfault hno hnext]
  dsimp only
  simp only [hmode, true_or, if_true, hlast]
  split_ifs with h
  · exact iff_of_false (by omega) (not_not.mpr h)
  · exact iff_of_true rfl h

/-- A cycle that finds the selected input at fault makes the change of its mode if and only if one
step is enough for it. -/
theorem failsOver_iff (hs : s.HasInputs) (hoff : s.isOff = false) (h0 : 0 ≤ s.selection i)
    (hfault : ¬ s.Healthy i (s.selection i).toNat) : s.FailsOver i ↔ s.StepSuffices i :=
  and_congr (forall_congr' fun hmode => failsOver_next hs hoff h0 hfault hmode)
    (and_congr (forall_congr' fun hmode => failsOver_prev hs hoff h0 hfault hmode)
      (forall_congr' fun hmode => failsOver_toError hs hoff h0 hfault hmode))

/-- With the first of two inputs selected and at fault. -/
theorem failsOver_iff_twoInputs :
    FailsOver { twoInputs with select := .init 0 } (failing 0) ↔
      StepSuffices { twoInputs with select := .init 0 } (failing 0) :=
  failsOver_iff ⟨by decide, by decide⟩ (by decide) (by decide) (by decide)

/-- With the first and the second of three inputs at fault the third is healthy, but the selector
goes to its error. -/
theorem failsOver_fails :
    ∃ s i, HasInputs s ∧ s.isOff = false ∧ 0 ≤ s.selection i ∧
      ¬ s.Healthy i (s.selection i).toNat ∧ ¬ s.FailsOver i := by
  refine ⟨{ twoInputs with select := .init 0, countInputs := 3 },
    { failing 0 with faultIn := fun ii _ => if ii < 2 then 1 else 0 }, ⟨by decide, by decide⟩,
    by decide, by decide, by decide, fun h => ?_⟩
  have hnext := h.1 (by decide)
  revert hnext
  decide

end Selector

end Tritonn
