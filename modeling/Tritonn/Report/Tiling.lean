import Tritonn.Report.Report
import Tritonn.Lib.Run

/-!
Tiling: whether consecutive reports leave a gap.

A run keeps the books of a report: for each entry the sum of final minus start over the reports
completed so far, and the totals of the source when the present report began.

* `Tiles` is the property of a closing cycle: the completed report ends where the next one begins;
* `Unmoved` is the condition on it: the totals of the sources are those of the cycle before;
* `tiling_iff` says that in every run the reports tile, and their sum is the growth of the sources
  between the first start and the last closing cycle, if and only if the condition holds in every
  closing cycle;
* `tiling_fails` is a run that loses the product of the closing cycle.
-/

namespace Tritonn

open Run (Along)

/-- A report and its books. -/
structure Books (L : Layout) where
  report : Report L
  booked : Fin L.entries → Channel → LREAL
  opened : Fin L.entries → BaseTotal

namespace Books

variable {L : Layout} (weekNumber : TM → ℕ × TM)

/-- What a saved dataset adds to the books. -/
def entryOf (d : Option (Dataset L)) (e : Fin L.entries) (ch : Channel) : LREAL :=
  d.elim 0 fun d => (d.average e).finalTotal.qty ch - (d.average e).startTotal.qty ch

/-- One cycle of the report, booked. -/
def step (b : Books L) (inp : ReportInput L) : Books L :=
  let (r, saved) := b.report.cycle weekNumber inp
  { report := r
    booked := fun e ch => b.booked e ch + entryOf saved e ch
    opened := if b.report.closes weekNumber inp then inp.source else b.opened }

/-- The books of a report that is started with the totals of the sources. -/
def run (r : Report L) (now : ReportTime) (source : Fin L.entries → BaseTotal) : Books L where
  report := r.run now source
  booked := fun _ _ => 0
  opened := source

/-- In a closing cycle the completed report ends where the next one begins. -/
def Tiles (b : Books L) (inp : ReportInput L) : Prop :=
  b.report.closes weekNumber inp = true → ∀ e ch,
    ((b.step weekNumber inp).report.completed.average e).finalTotal.qty ch
      = ((b.step weekNumber inp).report.present.average e).startTotal.qty ch

/-- The completed reports add up to the growth of the sources since `source`. -/
def Balanced (source : Fin L.entries → BaseTotal) (b : Books L) : Prop :=
  ∀ e ch, b.booked e ch = (b.opened e).qty ch - (source e).qty ch

/-- In a closing cycle the totals of the sources are those that the present dataset took in the
cycle before. -/
def Unmoved (b : Books L) (inp : ReportInput L) : Prop :=
  b.report.closes weekNumber inp = true → ∀ e ch,
    (inp.source e).qty ch = (b.report.present.average e).finalTotal.qty ch

/-- The invariant of the books: the present report began at the totals booked as opened. -/
structure Kept (source : Fin L.entries → BaseTotal) (b : Books L) : Prop where
  running : b.report.Running
  opened : ∀ e, (b.report.present.average e).startTotal = b.opened e
  balanced : b.Balanced source

variable {weekNumber} {source : Fin L.entries → BaseTotal} {b : Books L} {inp : ReportInput L}

/-- The final totals of the present dataset are those of the sources in the last cycle. -/
lemma step_finalTotal (h : b.report.Running) (e : Fin L.entries) :
    ((b.step weekNumber inp).report.present.average e).finalTotal = inp.source e :=
  Report.cycle_finalTotal h e

lemma run_kept {r : Report L} (h : r.type = .periodic) (now : ReportTime) :
    (run r now source).Kept source where
  running := Report.run_running h now source
  opened := fun _ => rfl
  balanced := fun e ch => by simp [run]

/-- A cycle that closes no period keeps the books. -/
lemma Kept.step_open (h : b.Kept source) (hc : b.report.closes weekNumber inp = false) :
    (b.step weekNumber inp).Kept source where
  running := h.running.cycle inp
  opened := fun e => by
    simp only [step, hc, Bool.false_eq_true, if_false, (Report.cycle_open h.running hc e).2]
    exact h.opened e
  balanced := fun e ch => by
    simp only [step, hc, Bool.false_eq_true, if_false, (Report.cycle_open h.running hc e).1,
      entryOf, Option.elim_none, add_zero]
    exact h.balanced e ch

/-- A closing cycle opens the next report at the sources, and books the totals taken before. -/
lemma Kept.step_close (h : b.Kept source) (hc : b.report.closes weekNumber inp = true)
    (e : Fin L.entries) (ch : Channel) :
    ((b.step weekNumber inp).report.present.average e).startTotal = inp.source e ∧
      (b.step weekNumber inp).opened e = inp.source e ∧
      ((b.step weekNumber inp).report.completed.average e).finalTotal
        = (b.report.present.average e).finalTotal ∧
      (b.step weekNumber inp).booked e ch
        = (b.report.present.average e).finalTotal.qty ch - (source e).qty ch := by
  obtain ⟨hsaved, hcopy⟩ := Report.cycle_close h.running hc
  obtain ⟨hstart, hfinal, hopen⟩ := hcopy e
  refine ⟨hopen, by simp [step, hc], hfinal, ?_⟩
  simp only [step, hsaved, entryOf, Option.elim_some, hstart, hfinal, h.balanced e ch, h.opened e]
  ring

/-- The step: a cycle tiles and keeps the balance if and only if the sources have not moved. -/
lemma Kept.tiles_iff (h : b.Kept source) :
    b.Tiles weekNumber inp ∧ (b.step weekNumber inp).Balanced source ↔
      b.Unmoved weekNumber inp := by
  cases hc : b.report.closes weekNumber inp with
  | false => simp [Tiles, Unmoved, hc, (h.step_open hc).balanced]
  | true =>
      constructor
      · rintro ⟨ht, -⟩ - e ch
        obtain ⟨hstart, -, hfinal, -⟩ := h.step_close hc e ch
        have := ht hc e ch
        rw [hfinal, hstart] at this
        exact this.symm
      · intro hu
        refine ⟨fun _ e ch => ?_, fun e ch => ?_⟩
        · obtain ⟨hstart, -, hfinal, -⟩ := h.step_close hc e ch
          rw [hfinal, hstart, hu hc e ch]
        · obtain ⟨-, hopened, -, hbooked⟩ := h.step_close hc e ch
          rw [hbooked, hopened, hu hc e ch]

/-- A cycle that keeps the balance keeps the books. -/
lemma Kept.step (h : b.Kept source) (hb : (b.step weekNumber inp).Balanced source) :
    (b.step weekNumber inp).Kept source := by
  cases hc : b.report.closes weekNumber inp with
  | false => exact h.step_open hc
  | true =>
      refine ⟨h.running.cycle inp, fun e => ?_, hb⟩
      obtain ⟨hstart, hopened, -, -⟩ := h.step_close hc e .mass
      rw [hstart, hopened]

/-- In every run of a periodic report, each completed report ends where the next one begins and the
completed reports add up to the growth of the sources, if and only if in every closing cycle the
totals of the sources are those of the cycle before. -/
theorem tiling_iff (r : Report L) (h : r.type = .periodic) (now : ReportTime)
    (source : Fin L.entries → BaseTotal) (cycles : List (ReportInput L)) :
    (Along (step weekNumber) (Tiles weekNumber) (run r now source) cycles ∧
        ∀ pre, pre <+: cycles →
          (pre.foldl (step weekNumber) (run r now source)).Balanced source) ↔
      Along (step weekNumber) (Unmoved weekNumber) (run r now source) cycles := by
  have hk : (run r now source).Kept source := run_kept h now
  rw [Run.forall_prefix_iff, and_iff_right hk.balanced, ← Run.along_and]
  exact Run.along_congr (Kept source) (fun _ _ hb (_ : True) => hb.tiles_iff)
    (fun _ _ hb _ hP => hb.step hP.2) hk (Run.along_of_forall fun _ _ => trivial)

/-! ### The product of a closing cycle -/

/-- A dataset of one entry without items. -/
def oneEntry : Layout := ⟨1, fun _ => 0, 0⟩

/-- A clock reading on the first of January 2021. -/
def reading (hour min : ℤ) : ReportTime :=
  ⟨1609459200 + hour * 3600 + min * 60, ⟨0, min, hour, 1, 0, 2021, 5, 0⟩⟩

/-- An hourly report that is not started yet. -/
def hourly : Report oneEntry :=
  let d : Dataset oneEntry :=
    ⟨.undef, reading 0 0, reading 0 0, fun _ => ⟨.clear, .clear, 0, 0, fun j => j.elim0⟩,
      fun j => j.elim0⟩
  ⟨false, .periodic, .hour, .idle, d, d, (reading 10 59).tm, reading 10 59⟩

/-- A cycle at `now` with the total `t` in each channel. -/
def cycleAt (now : ReportTime) (t : LREAL) : ReportInput oneEntry :=
  ⟨now, now, now, fun _ => ⟨fun _ => t, 0⟩, fun _ j => j.elim0, fun j => j.elim0,
    fun _ j => j.elim0, fun j => j.elim0⟩

/-- The hourly report, started at 10:59 with the total zero. -/
def started : Books oneEntry := run hourly (reading 10 59) fun _ => ⟨fun _ => 0, 0⟩

/-- The report runs one cycle and closes at 11:00 with the total five: the completed report ends at
zero, the next one begins at five. -/
theorem tiling_fails :
    ¬ (Along (step fun tm => (1, tm)) (Tiles fun tm => (1, tm)) started
        [cycleAt (reading 10 59) 0, cycleAt (reading 11 0) 5] ∧
      ∀ pre, pre <+: [cycleAt (reading 10 59) 0, cycleAt (reading 11 0) 5] →
        (pre.foldl (step fun tm => (1, tm)) started).Balanced fun _ => ⟨fun _ => 0, 0⟩) := by
  rintro ⟨⟨-, h, -⟩, -⟩
  have hk : started.Kept fun _ => ⟨fun _ => 0, 0⟩ := run_kept rfl _
  have hfirst : started.report.closes (fun tm => (1, tm)) (cycleAt (reading 10 59) 0) = false := rfl
  have hopen := hk.step_open hfirst
  have hc : (started.step (fun tm => (1, tm)) (cycleAt (reading 10 59) 0)).report.closes
      (fun tm => (1, tm)) (cycleAt (reading 11 0) 5) = true := rfl
  obtain ⟨hstart, -, hfinal, -⟩ := hopen.step_close hc ⟨0, by decide⟩ .mass
  have htile := h hc ⟨0, by decide⟩ .mass
  rw [hstart, hfinal, step_finalTotal hk.running] at htile
  norm_num [cycleAt] at htile

/-- The total grows in the report, stays in the closing cycle and grows behind it. -/
def hourlyCycles : List (ReportInput oneEntry) :=
  [cycleAt (reading 10 59) 2, cycleAt (reading 10 59) 5, cycleAt (reading 11 0) 5,
    cycleAt (reading 11 1) 7]

theorem tiling_iff_hourly :
    Along (step fun tm => (1, tm)) (Tiles fun tm => (1, tm)) started hourlyCycles ∧
      ∀ pre, pre <+: hourlyCycles →
        (pre.foldl (step fun tm => (1, tm)) started).Balanced fun _ => ⟨fun _ => 0, 0⟩ := by
  refine (tiling_iff hourly rfl (reading 10 59) _ hourlyCycles).mpr ⟨?_, ?_, ?_, ?_, trivial⟩
  · exact fun hc => Bool.noConfusion (hc : false = true)
  · exact fun hc => Bool.noConfusion (hc : false = true)
  · exact fun _ _ _ => rfl
  · exact fun hc => Bool.noConfusion (hc : false = true)

end Books

end Tritonn
