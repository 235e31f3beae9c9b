import Tritonn.Report.Report
import Tritonn.Lib.Mean
import Tritonn.Lib.Run

/-!
Averages inside one report, of either type.

The history of a report is the mass that each entry has passed since its start and, for each item,
the sum of the link values weighted with the increments of mass.

* `Meaned` is the property: the value of an item is the weighted mean once mass has passed;
* `Weighted` is the condition on a cycle: an item gets its own mean again, or as much mass as it
  already has, for only then it does not matter that the loop exchanges the two weights;
* `Inv.step_value` is what a cycle does to an item, `Inv.meaned_iff` the step, and `average_iff`
  the statement about runs;
* `average_fails` is the first cycle of a report: its value is lost.
-/

namespace Tritonn

open Run (Along)

/-- A report with the mass passed and the moments of its items. -/
structure History (L : Layout) where
  report : Report L
  passed : Fin L.entries → LREAL
  moment : (e : Fin L.entries) → Fin (L.items e) → LREAL

namespace Report

variable {L : Layout} {r : Report L}

/-- A report at its start: no total has moved and all averages are zero. -/
def Begun (r : Report L) : Prop :=
  r.Started ∧ ∀ e,
    (r.present.average e).finalTotal = (r.present.average e).startTotal ∧
      ∀ j, ((r.present.average e).item j).value = 0

/-- The value of an averaged item. -/
def value (r : Report L) (e : Fin L.entries) (j : Fin (L.items e)) : LREAL :=
  ((r.present.average e).item j).value

/-- The mass that an entry has passed. -/
def massPassed (r : Report L) (e : Fin L.entries) : LREAL :=
  (r.present.average e).finalTotal.qty .mass - (r.present.average e).startTotal.qty .mass

/-- The increment of mass of a cycle. -/
def massInc (r : Report L) (inp : ReportInput L) (e : Fin L.entries) : LREAL :=
  (inp.source e).qty .mass - (r.present.average e).finalTotal.qty .mass

/-- The first start begins a report whose items are new. -/
lemma run_begun (hv : ∀ e j, r.value e j = 0) (now : ReportTime)
    (source : Fin L.entries → BaseTotal) : (r.run now source).Begun :=
  ⟨r.run_started now source, fun e => ⟨rfl, hv e⟩⟩

/-- A closing cycle of a periodic report begins the next one. -/
lemma cycle_close_begun {weekNumber : TM → ℕ × TM} {inp : ReportInput L} (h : r.Running)
    (hc : r.closes weekNumber inp = true) : (r.cycle weekNumber inp).1.Begun := by
  refine ⟨(h.cycle inp).started, fun e => ⟨?_, fun j => ?_⟩⟩
  · rw [cycle_finalTotal h, ((cycle_close h hc).2 e).2.2]
  · obtain ⟨ht, hs⟩ := h
    rw [closes] at hc
    simp [Report.cycle, calculate, periodic, ht, hs, hc, average, close, store, start,
      averageEntry, averageValue]

end Report

namespace History

variable {L : Layout} (weekNumber : TM → ℕ × TM)

/-- One cycle of the report, with the mass and the moments it adds. -/
def step (w : History L) (inp : ReportInput L) : History L where
  report := (w.report.cycle weekNumber inp).1
  passed := fun e => w.passed e + w.report.massInc inp e
  moment := fun e j => w.moment e j + w.report.massInc inp e * inp.link e j

/-- The history of a report that begins. -/
def begin (r : Report L) : History L := ⟨r, fun _ => 0, fun _ _ => 0⟩

/-- Where mass has passed, the value of an item is its weighted mean. -/
def Meaned (w : History L) : Prop :=
  ∀ e j, 0 < w.passed e → w.report.value e j = w.moment e j / w.passed e

/-- A cycle inside a report whose increments of mass are not negative. -/
def Inside (w : History L) (inp : ReportInput L) : Prop :=
  w.report.ends weekNumber inp = false ∧ ∀ e, 0 ≤ w.report.massInc inp e

instance (w : History L) (inp : ReportInput L) : Decidable (w.Inside weekNumber inp) :=
  inferInstanceAs (Decidable (_ ∧ ∀ _, _))

/-- Where mass has passed after the cycle, the link value of an item is its mean so far, zero
before any mass has passed, or the increment of mass is the mass passed so far. -/
def Weighted (w : History L) (inp : ReportInput L) : Prop :=
  ∀ e j, 0 < w.passed e + w.report.massInc inp e →
    inp.link e j = w.moment e j / w.passed e ∨ w.report.massInc inp e = w.passed e

instance (w : History L) (inp : ReportInput L) : Decidable (w.Weighted inp) :=
  inferInstanceAs (Decidable (∀ _ _, _ → _))

/-- The invariant of a history whose averages are right. -/
structure Inv (w : History L) : Prop where
  started : w.report.Started
  passed : ∀ e, w.report.massPassed e = w.passed e
  nonneg : ∀ e, 0 ≤ w.passed e
  moment : ∀ e j, w.passed e = 0 → w.moment e j = 0
  value : ∀ e j, w.report.value e j = w.moment e j / w.passed e

variable {weekNumber} {w : History L} {inp : ReportInput L}

lemma Inv.meaned (h : w.Inv) : w.Meaned := fun e j _ => h.value e j

lemma begin_inv {r : Report L} (h : r.Begun) : (begin r).Inv where
  started := h.1
  passed := fun e => by simp [begin, Report.massPassed, (h.2 e).1]
  nonneg := fun _ => le_rfl
  moment := fun _ _ _ => rfl
  value := fun e j => by simp [begin, Report.value, (h.2 e).2 j]

/-- A cycle inside a report adds the increment to the mass passed. -/
lemma Inv.step_passed (h : w.Inv) (hi : w.Inside weekNumber inp) (e : Fin L.entries) :
    (w.step weekNumber inp).report.massPassed e = (w.step weekNumber inp).passed e := by
  have hp := h.passed e
  simp only [step, Report.massPassed, Report.massInc, (Report.cycle_inside h.started hi.1).2.2 e,
    Report.averageEntry_finalTotal, Report.averageEntry_startTotal] at hp ⊢
  linarith

/-- What a cycle inside a report does to an item. -/
lemma Inv.step_value (h : w.Inv) (hi : w.Inside weekNumber inp) (e : Fin L.entries)
    (j : Fin (L.items e)) :
    (w.step weekNumber inp).report.value e j
      = Report.averageValue (w.report.massInc inp e) (w.passed e)
          (w.passed e + w.report.massInc inp e) (w.report.value e j) (inp.link e j) := by
  have hp := h.passed e
  have h0 := h.nonneg e
  have hd := hi.2 e
  rw [Report.massPassed] at hp
  rw [Report.massInc] at hd
  have hcur : (inp.source e).qty .mass - (w.report.present.average e).startTotal.qty .mass
      = w.passed e + w.report.massInc inp e := by
    rw [Report.massInc]; linarith
  rw [step, Report.value, (Report.cycle_inside h.started hi.1).2.2 e, Report.averageEntry,
    Total.sub_of_le (by linarith), Total.sub_of_le (by linarith), Total.sub_of_le (by linarith),
    hp, hcur]
  rfl

/-- The step: after a cycle inside a report the averages are right if and only if the cycle meets
the condition on the weights. -/
lemma Inv.meaned_iff (h : w.Inv) (hi : w.Inside weekNumber inp) :
    (w.step weekNumber inp).Meaned ↔ w.Weighted inp := by
  refine forall₂_congr fun e j => imp_congr_right fun hpos => ?_
  have hpos' : 0 < w.passed e + w.report.massInc inp e := hpos
  rw [h.step_value hi, Report.averageValue, if_neg hpos'.not_ge, h.value e j]
  show _ = (w.moment e j + w.report.massInc inp e * inp.link e j)
    / (w.passed e + w.report.massInc inp e) ↔ _
  rw [← Mean.join (h.moment e j), Mean.swapped_iff hpos'.ne']

/-- A cycle inside a report that leaves the averages right keeps the invariant. -/
lemma Inv.step (h : w.Inv) (hi : w.Inside weekNumber inp)
    (hm : (w.step weekNumber inp).Meaned) : (w.step weekNumber inp).Inv := by
  have hnonneg : ∀ e, 0 ≤ (w.step weekNumber inp).passed e := fun e =>
    add_nonneg (h.nonneg e) (hi.2 e)
  -- Without mass after the cycle there was none before it and none was added.
  have hzero : ∀ e, (w.step weekNumber inp).passed e = 0 →
      w.passed e = 0 ∧ w.report.massInc inp e = 0 := fun e he =>
    (add_eq_zero_iff_of_nonneg (h.nonneg e) (hi.2 e)).mp he
  have hmoment : ∀ e j, (w.step weekNumber inp).passed e = 0 →
      (w.step weekNumber inp).moment e j = 0 := fun e j he => by
    obtain ⟨h0, hd⟩ := hzero e he
    simp [History.step, h.moment e j h0, hd]
  refine ⟨(Report.cycle_inside h.started hi.1).1, h.step_passed hi, hnonneg, hmoment, fun e j => ?_⟩
  rcases (hnonneg e).lt_or_eq with hpos | hz
  · exact hm e j hpos
  · obtain ⟨h0, hd⟩ := hzero e hz.symm
    rw [h.step_value hi, hmoment e j hz.symm, h.value e j, h0, hd]
    simp [Report.averageValue]

/-- In every run inside one report, with increments of mass that are not negative, the averages are
the weighted means after every cycle if and only if every cycle meets the condition on the
weights. -/
theorem average_iff {r : Report L} (hr : r.Begun) {cycles : List (ReportInput L)}
    (hrun : Along (step weekNumber) (Inside weekNumber) (begin r) cycles) :
    (∀ pre, pre <+: cycles → (pre.foldl (step weekNumber) (begin r)).Meaned) ↔
      Along (step weekNumber) Weighted (begin r) cycles := by
  have h := begin_inv hr
  rw [Run.forall_prefix_iff, and_iff_right h.meaned]
  exact Run.along_congr Inv (fun _ _ hw hi => hw.meaned_iff hi) (fun _ _ hw hi hm => hw.step hi hm)
    h hrun

/-! ### The first cycle of a report -/

/-- A dataset of one entry with one averaged item. -/
def oneItem : Layout := ⟨1, fun _ => 1, 0⟩

/-- A new report on one item, which is started when the mass total is zero. -/
def fresh (type : ReportType) : Report oneItem :=
  let now : ReportTime := ⟨0, ⟨0, 0, 0, 1, 0, 1970, 4, 0⟩⟩
  let d : Dataset oneItem :=
    ⟨.undef, now, now, fun _ => ⟨.clear, .clear, 0, 0, fun _ => ⟨0, 0⟩⟩, fun j => j.elim0⟩
  Report.run ⟨false, type, .hour, .idle, d, d, now.tm, now⟩ now fun _ => .clear

/-- A cycle at which the mass total is `t` and the link value `x`, within the hour. -/
def cycleAt (t x : LREAL) : ReportInput oneItem :=
  let now : ReportTime := ⟨1, ⟨1, 0, 0, 1, 0, 1970, 4, 0⟩⟩
  ⟨now, now, now, fun _ => ⟨fun _ => t, 0⟩, fun _ _ => x, fun j => j.elim0, fun _ _ => 0,
    fun j => j.elim0⟩

lemma fresh_begun (type : ReportType) : (fresh type).Begun :=
  Report.run_begun (fun _ _ => rfl) _ _

/-- The first ton of a report passes at the link value ten: its average is zero. -/
theorem average_fails :
    (fresh .periodic).Begun ∧
      (begin (fresh .periodic)).Inside (fun tm => (1, tm)) (cycleAt 1 10) ∧
      ¬ ((begin (fresh .periodic)).step (fun tm => (1, tm)) (cycleAt 1 10)).Meaned := by
  have hbegun := fresh_begun .periodic
  have hin : (begin (fresh .periodic)).Inside (fun tm => (1, tm)) (cycleAt 1 10) := by
    decide +kernel
  refine ⟨hbegun, hin, fun h => ?_⟩
  have hw := ((begin_inv hbegun).meaned_iff hin).mp h
  exact absurd hw (by decide +kernel)

/-- Four cycles of a batch and of an hour, in which the mass passed doubles or the link gives the
mean so far: the averages are right. -/
theorem average_iff_fresh :
    let cycles := [cycleAt 1 0, cycleAt 2 10, cycleAt 5 5, cycleAt 10 7]
    (∀ pre, pre <+: cycles →
        (pre.foldl (step fun tm => (1, tm)) (begin (fresh .batch))).Meaned) ∧
      (∀ pre, pre <+: cycles →
        (pre.foldl (step fun tm => (1, tm)) (begin (fresh .periodic))).Meaned) ∧
      (cycles.foldl (step fun tm => (1, tm)) (begin (fresh .periodic))).report.value
        ⟨0, by decide⟩ ⟨0, by decide⟩ = 6 :=
  ⟨(average_iff (fresh_begun .batch) (by decide +kernel)).mpr (by decide +kernel),
    (average_iff (fresh_begun .periodic) (by decide +kernel)).mpr (by decide +kernel),
    by decide +kernel⟩

end History

end Tritonn
