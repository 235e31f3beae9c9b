import Mathlib.Logic.Function.Iterate
import Mathlib.Data.List.Basic
import Mathlib.Tactic.Common

/-!
Iterations that are given up after a number of steps.

`loop` goes on until `done`, or until `limit` steps are counted; the count need not begin with zero.
`firstIn` is the number of steps after which an iteration is done for the first time, below a bound.
`loop_of_firstIn` and `loop_of_firstIn_eq_none` say that the loop ends with the one or the other; it
has a value for every `fuel` that allows the steps that are left.
-/

namespace Iteration

variable {σ : Type*} (step : σ → σ) (done : σ → Prop) [DecidablePred done]

/-- The loop, with the number of the steps that are counted already. -/
def loop (limit : ℕ) : ℕ → ℕ → σ → Option (ℕ × σ)
  | 0, _, _ => none
  | fuel + 1, count, s =>
      if done s then some (count, s)
      else if limit ≤ count + 1 then some (count + 1, step s)
      else loop limit fuel (count + 1) (step s)

/-- The first number of steps below the bound after which the iteration is done. -/
def firstIn (bound : ℕ) (s : σ) : Option ℕ := (List.range bound).find? fun n => done (step^[n] s)

variable {step done} {limit count bound n : ℕ} {s : σ}

lemma firstIn_eq_some_iff :
    firstIn step done bound s = some n ↔
      n < bound ∧ done (step^[n] s) ∧ ∀ m < n, ¬done (step^[m] s) := by
  rw [firstIn, List.find?_range_eq_some]
  simp only [decide_eq_true_eq, List.mem_range, Bool.not_eq_true', decide_eq_false_iff_not]
  exact ⟨fun h => ⟨h.2.1, h.1, h.2.2⟩, fun h => ⟨h.2.1, h.1, h.2.2⟩⟩

lemma firstIn_eq_none_iff :
    firstIn step done bound s = none ↔ ∀ m < bound, ¬done (step^[m] s) := by
  rw [firstIn, List.find?_eq_none]
  simp only [List.mem_range, decide_eq_true_eq]

/-- An iteration that is done in time ends the loop. -/
theorem loop_of_firstIn (h : firstIn step done (limit - count) s = some n) {fuel : ℕ}
    (hfuel : limit - count < fuel) :
    loop step done limit fuel count s = some (count + n, step^[n] s) := by
  obtain ⟨hn, hdone, hfirst⟩ := firstIn_eq_some_iff.mp h
  clear h
  induction n generalizing fuel count s with
  | zero =>
      obtain ⟨fuel, rfl⟩ := Nat.exists_eq_succ_of_ne_zero (by omega : fuel ≠ 0)
      have hdone : done s := hdone
      rw [loop, if_pos hdone]
      rfl
  | succ n ih =>
      obtain ⟨fuel, rfl⟩ := Nat.exists_eq_succ_of_ne_zero (by omega : fuel ≠ 0)
      have hnot : ¬done s := hfirst 0 n.succ_pos
      rw [loop, if_neg hnot, if_neg (by omega),
        ih (by omega) (by omega) hdone fun m hm => hfirst (m + 1) (by omega)]
      rw [Function.iterate_succ_apply, Nat.add_right_comm, Nat.add_assoc]

/-- An iteration that is not done in time is given up. -/
theorem loop_of_firstIn_eq_none (hcount : count < limit)
    (h : firstIn step done (limit - count) s = none) {fuel : ℕ} (hfuel : limit - count ≤ fuel) :
    loop step done limit fuel count s = some (limit, step^[limit - count] s) := by
  rw [firstIn_eq_none_iff] at h
  induction fuel generalizing count s with
  | zero => omega
  | succ fuel ih =>
      have hnot : ¬done s := h 0 (by omega)
      rw [loop, if_neg hnot]
      split_ifs with hlimit
      · have hone : limit - count = 1 := by omega
        rw [hone, Function.iterate_one, Nat.le_antisymm hlimit hcount]
      · have hstep : limit - count = (limit - (count + 1)) + 1 := by omega
        rw [ih (by omega) (fun m hm => h (m + 1) (by omega)) (by omega), hstep,
          Function.iterate_succ_apply]

end Iteration
