import Tritonn.Report.Report

/-!
The increment of a report over a cycle in which the total of its source may wrap.

* `ReportTotal.massInc` is the increment `inc` of `rReport::calculate`, a difference by
  `rTotal::sub`;
* `sub_checkMax_iff` says for which totals and increments the difference is the increment that
  `rTotal::checkMax` has wrapped: those without a wrap, and half a plane of them with one;
* `sub_checkMax_fails` is a total one below the limit that takes three.
-/

namespace Tritonn

/-- The increment of a cycle in `rReport::calculate`. -/
def ReportTotal.massInc {k : ℕ} (t : ReportTotal k) (source : BaseTotal) : LREAL :=
  Total.sub (source.qty .mass) (t.finalTotal.qty .mass)

/-- It is the increment with which the averages are kept. -/
lemma Report.averageEntry_item {k : ℕ} (t : ReportTotal k) (source : BaseTotal)
    (link : Fin k → LREAL) (j : Fin k) :
    ((Report.averageEntry t source link).item j).value
      = Report.averageValue (t.massInc source)
          (Total.sub (t.finalTotal.qty .mass) (t.startTotal.qty .mass))
          (Total.sub (source.qty .mass) (t.startTotal.qty .mass)) (t.item j).value (link j) := rfl

namespace Total

lemma checkMaxOne_of_lt {event : EID} {x : LREAL} (h : x < maxTotalLimit) :
    (checkMaxOne event x).1 = x := by
  rw [checkMaxOne, if_neg (not_le.mpr h)]

lemma checkMaxOne_of_le {event : EID} {x : LREAL} (h : maxTotalLimit ≤ x) :
    (checkMaxOne event x).1 = x - maxTotalLimit := by
  rw [checkMaxOne, if_pos h]

/-- The difference to a smaller total, in which the limit takes the place of the other sign. -/
lemma sub_of_lt {a b : LREAL} (h : a < b) : sub a b = maxTotalLimit - a := by
  have hneg : ¬ 0 ≤ a - b := not_le.mpr (sub_neg.mpr h)
  rw [sub, if_neg hneg]
  ring

/-- The difference across a wrap, with the total of before. -/
lemma sub_of_wrap {a d : LREAL} (hd : d < maxTotalLimit) :
    sub (a + d - maxTotalLimit) a = 2 * maxTotalLimit - a - d := by
  rw [sub_of_lt (by linarith)]
  ring

/-- The difference of a total after a cycle and the one before it is the increment of the cycle if
and only if the total does not reach the limit, or happens to be twice what the increment lacks to
it; and with it the increment of a report that follows the total. -/
theorem sub_checkMax_iff (event : EID) (a : LREAL) {d : LREAL} (hd : 0 ≤ d)
    (hd' : d < maxTotalLimit) :
    (sub (checkMaxOne event (a + d)).1 a = d ↔
        a + d < maxTotalLimit ∨ a = 2 * (maxTotalLimit - d)) ∧
      ∀ (k : ℕ) (t : ReportTotal k) (source : BaseTotal), t.finalTotal.qty .mass = a →
        source.qty .mass = (checkMaxOne event (a + d)).1 →
        (t.massInc source = d ↔ a + d < maxTotalLimit ∨ a = 2 * (maxTotalLimit - d)) := by
  have hsub : sub (checkMaxOne event (a + d)).1 a = d ↔
      a + d < maxTotalLimit ∨ a = 2 * (maxTotalLimit - d) := by
    rcases lt_or_ge (a + d) maxTotalLimit with hlt | hge
    · have heq : sub (a + d) a = d := by
        rw [sub_of_le (by linarith)]
        ring
      rw [checkMaxOne_of_lt hlt]
      exact iff_of_true heq (.inl hlt)
    · rw [checkMaxOne_of_le hge, sub_of_wrap hd', or_iff_right (not_lt.mpr hge)]
      constructor <;> intro h <;> linarith
  refine ⟨hsub, fun k t source ht hs => ?_⟩
  rw [ReportTotal.massInc, ht, hs]
  exact hsub

/-- At one below the limit an increment of three is not found again. -/
theorem sub_checkMax_iff_wrap :
    sub (checkMaxOne 0 (maxTotalLimit - 1 + 3)).1 (maxTotalLimit - 1) = 3 ↔
      maxTotalLimit - 1 + 3 < maxTotalLimit ∨ maxTotalLimit - 1 = 2 * (maxTotalLimit - 3) :=
  (sub_checkMax_iff 0 (maxTotalLimit - 1) (by norm_num) (by norm_num [maxTotalLimit])).1

/-- One below the limit and three more are two, and the difference is the limit without two. -/
theorem sub_checkMax_fails :
    ¬ ∀ (event : EID) (a d : LREAL), 0 ≤ a → a < maxTotalLimit → 0 ≤ d → d < maxTotalLimit →
      sub (checkMaxOne event (a + d)).1 a = d := by
  intro h
  have heq := h 0 (maxTotalLimit - 1) 3 (by norm_num [maxTotalLimit]) (by norm_num)
    (by norm_num) (by norm_num [maxTotalLimit])
  norm_num [checkMaxOne, sub, maxTotalLimit] at heq

end Total

end Tritonn
