import Tritonn.Lib.Extended
import Tritonn.Lib.Run
import Tritonn.Shared.Common

/-!
Values that report their changes: `rCompared` of `src/tritonn/compared_values.cpp` with its
specialisations.

* `Compared.report` is what every `Compare` does with its test: the two values of the event, if it
  reports, and the values afterwards;
* `Compared.compare` is the one of the integers, `RCmpREAL.compare` and `RCmpLREAL.compare` are
  those of the real numbers, which are exact, with infinities and with what is no number;
* `CallOk` is what a call has to do for a notion of difference.

`compare_iff` says that the integers do so in every call, and the real numbers in the runs whose
calls meet a condition: for `rCmpREAL` that the distance is neither below nor above the precision,
for `rCmpLREAL` that the precision is not negative.  `compare_fails` is a change that `rCmpREAL`
misses.
-/

namespace Tritonn

/-- `rCompared`. -/
structure Compared (T : Type*) where
  value : T
  saved : T
  deriving DecidableEq

namespace Compared

variable {T : Type*}

/-- `Compare` with its test: what the event gets, when there is one, and the values. -/
def report (changed : T → T → Bool) (c : Compared T) : Option (T × T) × Compared T :=
  if changed c.value c.saved then (some (c.value, c.saved), { c with saved := c.value })
  else (none, c)

/-- `rCompared::isDiff`. -/
def isDiff [DecidableEq T] (value saved : T) : Bool := value ≠ saved

/-- `rCompared::Compare`. -/
def compare [DecidableEq T] (c : Compared T) : Option (T × T) × Compared T := c.report isDiff

end Compared

/-- `fabs` and `fabsf`. -/
def fabs : Extended LREAL → Extended LREAL
  | .nan => .nan
  | .inf _ => .inf false
  | .fin x => .fin |x|

/-- The distance of two values. -/
def distance (value saved : Extended LREAL) : Extended LREAL := fabs (value - saved)

/-- `rCmpREAL::Compare`; without a precision it is the one of zero. -/
def RCmpREAL.compare (prec : Extended LREAL) (c : Compared (Extended LREAL)) :
    Option (Extended LREAL × Extended LREAL) × Compared (Extended LREAL) :=
  c.report fun value saved => distance value saved < prec

/-- `rCmpLREAL::Compare`; without a precision it is the one of zero. -/
def RCmpLREAL.compare (prec : Extended LREAL) (c : Compared (Extended LREAL)) :
    Option (Extended LREAL × Extended LREAL) × Compared (Extended LREAL) :=
  c.report fun value saved => prec < distance value saved

/-! ### What is expected -/

/-- A call reports exactly a difference, with the two values, saves the value then, and does not
report it again. -/
structure CallOk {T : Type*} (compare : Compared T → Option (T × T) × Compared T)
    (differs : T → T → Prop) (c : Compared T) : Prop where
  exactly : (compare c).1.isSome ↔ differs c.value c.saved
  reported : ∀ r, (compare c).1 = some r →
    r = (c.value, c.saved) ∧ (compare c).2 = ⟨c.value, c.value⟩
  silent : (compare c).1 = none → (compare c).2 = c
  again : (compare (compare c).2).1 = none

/-- The values differ by more than the precision. -/
def DiffersBy (prec value saved : Extended LREAL) : Prop := prec < distance value saved

/-- A new value is compared with a precision. -/
def compareStep {T P : Type*} (compare : P → Compared T → Option (T × T) × Compared T)
    (c : Compared T) (call : T × P) : Compared T := (compare call.2 { c with value := call.1 }).2

/-- The condition for `rCmpREAL`: the distance is neither below nor above the precision. -/
def RealKeeps (prec : Extended LREAL) (c : Compared (Extended LREAL)) : Prop :=
  ¬distance c.value c.saved < prec ∧ ¬prec < distance c.value c.saved

/-- The condition for `rCmpLREAL`: the precision is not negative, or the values have no distance
that is a number. -/
def LrealKeeps (prec : Extended LREAL) (c : Compared (Extended LREAL)) : Prop :=
  prec < .fin 0 → (∀ x, c.value ≠ .fin x) ∨ c.saved = .nan

/-! ### The tests -/

section test

variable {T : Type*} {changed : T → T → Bool} {differs : T → T → Prop} {c : Compared T}

lemma report_of_pos (h : changed c.value c.saved = true) :
    c.report changed = (some (c.value, c.saved), ⟨c.value, c.value⟩) := if_pos h

lemma report_of_neg (h : ¬changed c.value c.saved = true) : c.report changed = (none, c) := if_neg h

/-- A call is right if and only if its test is, and does not tell a value from itself. -/
lemma callOk_iff : CallOk (Compared.report changed) differs c ↔
    (changed c.value c.saved = true ↔ differs c.value c.saved) ∧
      (changed c.value c.saved = true → ¬changed c.value c.value = true) := by
  by_cases h : changed c.value c.saved = true
  · constructor
    · intro hok
      have hexactly := hok.exactly
      have hagain := hok.again
      rw [report_of_pos h] at hexactly hagain
      refine ⟨iff_of_true h (hexactly.mp rfl), fun _ hself => ?_⟩
      rw [report_of_pos (c := ⟨c.value, c.value⟩) hself] at hagain
      exact Option.some_ne_none _ hagain
    · rintro ⟨hexactly, hself⟩
      refine ⟨?_, fun r hr => ?_, fun hnone => ?_, ?_⟩
      · rw [report_of_pos h]
        exact iff_of_true rfl (hexactly.mp h)
      · rw [report_of_pos h] at hr ⊢
        exact ⟨(Option.some.inj hr).symm, rfl⟩
      · rw [report_of_pos h] at hnone
        exact absurd hnone (Option.some_ne_none _)
      · rw [report_of_pos h, report_of_neg (c := ⟨c.value, c.value⟩) (hself h)]
  · have hnone : c.report changed = (none, c) := report_of_neg h
    constructor
    · intro hok
      have hexactly := hok.exactly
      rw [hnone] at hexactly
      exact ⟨iff_of_false h fun hd => Bool.false_ne_true (hexactly.mpr hd), fun hc => absurd hc h⟩
    · rintro ⟨hexactly, -⟩
      refine ⟨?_, fun r hr => ?_, fun _ => by rw [hnone], ?_⟩
      · rw [hnone]
        exact iff_of_false Bool.false_ne_true fun hd => h (hexactly.mpr hd)
      · rw [hnone] at hr
        exact absurd hr (Option.some_ne_none r).symm
      · rw [hnone, hnone]

end test

/-! ### The distances -/

section distance

variable {a b prec value saved : Extended LREAL} {c : Compared (Extended LREAL)}

lemma not_lt_self (a : Extended LREAL) : ¬a < a := by
  cases a with
  | nan => exact Extended.not_lt_nan
  | inf s => cases s <;> simp
  | fin x => simp

lemma distance_fin (x y : LREAL) : distance (.fin x) (.fin y) = .fin |x - y| := by
  rw [sub_eq_add_neg]
  rfl

/-- A value has no distance from itself, or none that is a number. -/
lemma not_lt_distance_self (h : ∀ x, value ≠ .fin x) : ¬prec < distance value value := by
  have hnan : distance value value = .nan := by
    cases value with
    | nan => rfl
    | inf s => cases s <;> rfl
    | fin x => exact absurd rfl (h x)
  rw [hnan]
  exact Extended.not_lt_nan

/-- A negative precision is below the distances of a number. -/
lemma lt_distance_of_neg (hprec : prec < .fin 0) (hsaved : saved ≠ .nan) (x : LREAL) :
    prec < distance (.fin x) saved := by
  cases saved with
  | nan => exact absurd rfl hsaved
  | inf t =>
      have hinf : distance (.fin x) (.inf t) = .inf false := rfl
      rw [hinf]
      exact Extended.lt_trans hprec ((Extended.fin_lt_inf false).mpr rfl)
  | fin y =>
      rw [distance_fin]
      rcases (abs_nonneg (x - y)).eq_or_lt with h | h
      · rwa [← h]
      · exact Extended.lt_trans hprec (Extended.fin_lt_fin.mpr h)

/-- A call of `rCmpREAL` is right if and only if it has nothing to report and does not. -/
lemma real_callOk_iff :
    CallOk (RCmpREAL.compare prec) (DiffersBy prec) c ↔ RealKeeps prec c := by
  have htest := @callOk_iff _ (fun value saved => distance value saved < prec) (DiffersBy prec) c
  refine Iff.trans htest ?_
  simp only [decide_eq_true_eq]
  constructor
  · rintro ⟨hexactly, -⟩
    have hlow : ¬distance c.value c.saved < prec := fun h =>
      not_lt_self _ (Extended.lt_trans h (hexactly.mp h))
    exact ⟨hlow, fun h => hlow (hexactly.mpr h)⟩
  · rintro ⟨hlow, hhigh⟩
    exact ⟨iff_of_false hlow hhigh, fun h => absurd h hlow⟩

/-- A call of `rCmpLREAL` is right if and only if a value that is saved is not reported again. -/
lemma lreal_callOk_iff :
    CallOk (RCmpLREAL.compare prec) (DiffersBy prec) c ↔ LrealKeeps prec c := by
  have htest := @callOk_iff _ (fun value saved => prec < distance value saved) (DiffersBy prec) c
  refine Iff.trans htest ?_
  simp only [decide_eq_true_eq]
  rw [and_iff_right (by exact Iff.rfl), LrealKeeps]
  by_cases hvalue : ∀ x, c.value ≠ .fin x
  · exact iff_of_true (fun _ => not_lt_distance_self hvalue) fun _ => .inl hvalue
  · obtain ⟨x, hx⟩ := not_forall_not.mp hvalue
    have hself : distance c.value c.value = .fin 0 := by
      rw [hx, distance_fin, sub_self, abs_zero]
    rw [hself]
    constructor
    · intro hkeeps hprec
      refine .inr (by_contra fun hsaved => ?_)
      exact hkeeps (hx ▸ lt_distance_of_neg hprec hsaved x) hprec
    · intro hkeeps hlt hprec
      rcases hkeeps hprec with hfin | hnan
      · exact hfin x hx
      · rw [hnan, distance, Extended.sub_nan] at hlt
        exact Extended.not_lt_nan hlt

/-- A call of an integer is right. -/
lemma integer_callOk {T : Type} [DecidableEq T] (c : Compared T) :
    CallOk Compared.compare (· ≠ ·) c := by
  refine callOk_iff.mpr ⟨decide_eq_true_iff, fun _ h => ?_⟩
  exact of_decide_eq_true h rfl

end distance

/-- In every run the integers report their changes and nothing else; the real numbers do so in the
runs whose calls meet the condition of their class. -/
theorem compare_iff {T : Type} [DecidableEq T] (m : Compared T) (values : List (T × Unit))
    (c : Compared (Extended LREAL)) (calls : List (Extended LREAL × Extended LREAL)) :
    Run.Along (compareStep fun _ => Compared.compare)
        (fun m call => CallOk Compared.compare (· ≠ ·) { m with value := call.1 }) m values ∧
      (Run.Along (compareStep RCmpREAL.compare) (fun c call =>
          CallOk (RCmpREAL.compare call.2) (DiffersBy call.2) { c with value := call.1 }) c calls ↔
        Run.Along (compareStep RCmpREAL.compare)
          (fun c call => RealKeeps call.2 { c with value := call.1 }) c calls) ∧
      (Run.Along (compareStep RCmpLREAL.compare) (fun c call =>
          CallOk (RCmpLREAL.compare call.2) (DiffersBy call.2) { c with value := call.1 }) c calls ↔
        Run.Along (compareStep RCmpLREAL.compare)
          (fun c call => LrealKeeps call.2 { c with value := call.1 }) c calls) := by
  refine ⟨Run.along_of_forall fun m call => integer_callOk _, ?_, ?_⟩
  · exact Run.along_congr (fun _ => True) (fun c call _ _ => real_callOk_iff)
      (fun _ _ _ _ _ => trivial) trivial (Run.along_of_forall fun _ _ => trivial)
  · exact Run.along_congr (fun _ => True) (fun c call _ _ => lreal_callOk_iff)
      (fun _ _ _ _ _ => trivial) trivial (Run.along_of_forall fun _ _ => trivial)

/-- A change by two that `rCmpREAL` does not report with the precision one. -/
theorem compare_fails :
    ¬CallOk (RCmpREAL.compare (.fin 1)) (DiffersBy (.fin 1)) ⟨.fin 3, .fin 1⟩ := by
  intro hok
  have hnone : (RCmpREAL.compare (.fin 1) ⟨.fin 3, .fin 1⟩).1 = none := by decide +kernel
  have hdiffers : DiffersBy (.fin 1) (.fin 3) (.fin 1) := by
    rw [DiffersBy, distance_fin, Extended.fin_lt_fin]
    norm_num
  have hsome := hok.exactly.mpr hdiffers
  rw [hnone] at hsome
  exact Bool.false_ne_true hsome

end Tritonn
