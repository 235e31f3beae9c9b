import Tritonn.Totals.Total
import Tritonn.Report.Period

/-!
`src/tritonn/data_report.cpp`: a report over the totals and the values of some sources.

A report keeps three copies of the totals: those of the source, those of the present dataset (at
the start and now) and those of the completed one.

* `start` opens a report and `store` closes it into the completed dataset;
* `average` is the loop over the entries at the end of a cycle;
* `calculate` is one cycle, with the dataset it has stored if it closed a report;
* `cycle_inside` says what a cycle inside a report of either type does, `cycle_open` and
  `cycle_close` what one of a running periodic report does.

The shape of the three datasets is the same by construction (`Layout`).  The archive dataset,
which no cycle touches, is left out.
-/

namespace Tritonn

/-- The shape of a dataset: its entries, the averaged items of each, and the snapshot items. -/
structure Layout where
  entries : ℕ
  items : Fin entries → ℕ
  snapshots : ℕ

/-- `rReport::Mark`. -/
inductive Mark where
  | undef
  | illegal
  | incomplete
  | validate
  | inprogress
  deriving DecidableEq, Repr

/-- `rReport::Status`. -/
inductive ReportStatus where
  | idle
  | running
  | waiting
  | completed
  deriving DecidableEq, Repr

/-- `rReport::Type`. -/
inductive ReportType where
  | periodic
  | batch
  deriving DecidableEq, Repr

/-- `rReport::rItem`: a value and the unit of its link. -/
structure Item where
  value : LREAL
  unit : UInt32

/-- `rReport::rTotal`: an entry of a dataset with `k` averaged items. -/
structure ReportTotal (k : ℕ) where
  startTotal : BaseTotal
  finalTotal : BaseTotal
  unitMass : UInt32
  unitVolume : UInt32
  item : Fin k → Item

/-- `rReport::rDataset`. -/
structure Dataset (L : Layout) where
  mark : Mark
  timeStart : ReportTime
  finalTime : ReportTime
  average : (e : Fin L.entries) → ReportTotal (L.items e)
  snapshot : Fin L.snapshots → Item

/-- `rReport`. -/
structure Report (L : Layout) where
  isCalc : Bool
  type : ReportType
  period : Period
  status : ReportStatus
  present : Dataset L
  completed : Dataset L
  pastTM : TM
  curTime : ReportTime

/-- What a cycle reads: the clock, at its start, in `store` and in `start`, the totals of the
sources, and the values and units behind the links. -/
structure ReportInput (L : Layout) where
  cur : ReportTime
  final : ReportTime
  begin : ReportTime
  source : Fin L.entries → BaseTotal
  link : (e : Fin L.entries) → Fin (L.items e) → LREAL
  snapshotLink : Fin L.snapshots → LREAL
  linkUnit : (e : Fin L.entries) → Fin (L.items e) → UInt32
  snapshotUnit : Fin L.snapshots → UInt32

namespace Report

variable {L : Layout}

/-! ### The functions of the source -/

/-- `rReport::start`, at the time `now` and with the totals of the sources. -/
def start (r : Report L) (isFirstStart : Bool) (now : ReportTime)
    (source : Fin L.entries → BaseTotal) : Report L :=
  { r with
    status := .running
    present := { r.present with
      timeStart := now
      mark := if isFirstStart then .incomplete else .validate
      average := fun e => { r.present.average e with
        startTotal := source e, finalTotal := source e } } }

/-- `rReport::run`. -/
def run (r : Report L) (now : ReportTime) (source : Fin L.entries → BaseTotal) : Report L :=
  r.start true now source

/-- `rReport::store`: the present dataset is completed and cleared. -/
def store (r : Report L) (inp : ReportInput L) : Report L :=
  { r with
    status := .completed
    completed :=
      { mark := r.present.mark, timeStart := r.present.timeStart, finalTime := inp.final
        average := fun e => { r.present.average e with
          item := fun j => ⟨((r.present.average e).item j).value, inp.linkUnit e j⟩ }
        snapshot := fun j => ⟨(r.present.snapshot j).value, inp.snapshotUnit j⟩ }
    present := { r.present with
      finalTime := inp.final
      average := fun e => { r.present.average e with
        startTotal := .clear, finalTotal := .clear
        item := fun j => { (r.present.average e).item j with value := 0 } }
      snapshot := fun j => { r.present.snapshot j with value := 0 } } }

/-- The new value of an averaged item with the link value `x`, from the increment of the cycle, the
mass before the cycle and the mass after it. -/
def averageValue (inc oldmass curmass value x : LREAL) : LREAL :=
  if curmass ≤ 0 then value else (value * inc + x * oldmass) / curmass

/-- One turn of the loop over the entries: the averages and the final totals. -/
def averageEntry {k : ℕ} (t : ReportTotal k) (source : BaseTotal) (link : Fin k → LREAL) :
    ReportTotal k :=
  let inc := Total.sub (source.qty .mass) (t.finalTotal.qty .mass)
  let oldmass := Total.sub (t.finalTotal.qty .mass) (t.startTotal.qty .mass)
  let curmass := Total.sub (source.qty .mass) (t.startTotal.qty .mass)
  { t with
    finalTotal := source
    item := fun j => { t.item j with
      value := averageValue inc oldmass curmass (t.item j).value (link j) } }

@[simp] lemma averageEntry_startTotal {k : ℕ} (t : ReportTotal k) (source : BaseTotal)
    (link : Fin k → LREAL) : (averageEntry t source link).startTotal = t.startTotal := rfl

@[simp] lemma averageEntry_finalTotal {k : ℕ} (t : ReportTotal k) (source : BaseTotal)
    (link : Fin k → LREAL) : (averageEntry t source link).finalTotal = source := rfl

/-- The two loops at the end of `rReport::calculate`. -/
def average (r : Report L) (inp : ReportInput L) : Report L :=
  { r with
    present := { r.present with
      average := fun e => averageEntry (r.present.average e) (inp.source e) (inp.link e)
      snapshot := fun j => { r.present.snapshot j with value := inp.snapshotLink j } } }

/-- `store` and `start`, with the dataset that is saved. -/
def close (r : Report L) (inp : ReportInput L) : Report L × Option (Dataset L) :=
  let s := r.store inp
  (s.start false inp.begin inp.source, some s.completed)

variable (weekNumber : TM → ℕ × TM)

/-- The periodic part of `rReport::calculate`, which opens and closes reports. -/
def periodic (r : Report L) (inp : ReportInput L) : Report L × Option (Dataset L) :=
  match r.status with
  | .running =>
      let tm := r.period.checkedTM weekNumber r.pastTM inp.cur.tm
      let r₁ := { r with pastTM := tm, curTime := { inp.cur with tm := tm } }
      if r.period.checkFinish weekNumber r.pastTM inp.cur.tm then r₁.close inp else (r₁, none)
  | .idle =>
      if r.present.timeStart.unix ≠ 0 then
        if (r.period.getUNIXPeriod r.present.timeStart.tm : ℤ)
            ≤ inp.cur.unix - r.present.timeStart.unix then
          let (r₁, saved) :=
            { r with present := { r.present with mark := .illegal } : Report L }.close inp
          ({ r₁ with present := { r₁.present with mark := .incomplete } }, saved)
        else
          ({ r with status := .running, present := { r.present with mark := .incomplete } }, none)
      else (r.start true inp.begin inp.source, none)
  | _ => (r, none)

/-- `rReport::calculate`, with the dataset it has saved. -/
def calculate (r : Report L) (inp : ReportInput L) : Report L × Option (Dataset L) :=
  if r.isCalc then (r, none)
  else
    let r₁ := { r with isCalc := true, curTime := inp.cur }
    match r₁.type with
    | .periodic =>
        let (r₂, saved) := r₁.periodic weekNumber inp
        (r₂.average inp, saved)
    | .batch => (r₁.average inp, none)

/-- A cycle of the data manager: `rSource::preCalculate` and `calculate`. -/
def cycle (r : Report L) (inp : ReportInput L) : Report L × Option (Dataset L) :=
  { r with isCalc := false : Report L }.calculate weekNumber inp

/-! ### A report that was started -/

/-- A report between its start and its end. -/
def Started (r : Report L) : Prop := r.status = .running

/-- The cycle closes a period. -/
def closes (r : Report L) (inp : ReportInput L) : Bool :=
  r.period.checkFinish weekNumber r.pastTM inp.cur.tm

/-- The cycle ends the report, which only a periodic one does by itself. -/
def ends (r : Report L) (inp : ReportInput L) : Bool :=
  r.type == .periodic && r.closes weekNumber inp

section Started

variable {weekNumber} {r : Report L} {inp : ReportInput L}

lemma run_started (r : Report L) (now : ReportTime) (source : Fin L.entries → BaseTotal) :
    (r.run now source).Started := rfl

/-- A cycle inside a report: only the loops at the end of the cycle run. -/
lemma cycle_inside (h : r.Started) (hc : r.ends weekNumber inp = false) :
    (r.cycle weekNumber inp).1.Started ∧ (r.cycle weekNumber inp).2 = none ∧
      ∀ e, (r.cycle weekNumber inp).1.present.average e
        = averageEntry (r.present.average e) (inp.source e) (inp.link e) := by
  rw [Started] at h ⊢
  cases ht : r.type with
  | batch => simp [Report.cycle, calculate, ht, h, average]
  | periodic =>
      rw [ends, ht, beq_self_eq_true, Bool.true_and, closes] at hc
      simp [Report.cycle, calculate, periodic, ht, h, hc, average]

end Started

/-! ### A running periodic report -/

/-- A periodic report between its start and its end. -/
def Running (r : Report L) : Prop := r.type = .periodic ∧ r.status = .running

variable {weekNumber} {r : Report L} {inp : ReportInput L}

lemma Running.started (h : r.Running) : r.Started := h.2

lemma run_running (h : r.type = .periodic) (now : ReportTime)
    (source : Fin L.entries → BaseTotal) : (r.run now source).Running := ⟨h, rfl⟩

/-- A report is running after every cycle. -/
lemma Running.cycle (h : r.Running) (inp : ReportInput L) :
    (r.cycle weekNumber inp).1.Running := by
  obtain ⟨ht, hs⟩ := h
  cases hc : r.period.checkFinish weekNumber r.pastTM inp.cur.tm <;>
    simp [Running, Report.cycle, calculate, periodic, ht, hs, hc, average, close, store, start]

/-- A cycle that does not close a period: only the loops at the end of the cycle run. -/
lemma cycle_open (h : r.Running) (hc : r.closes weekNumber inp = false) (e : Fin L.entries) :
    (r.cycle weekNumber inp).2 = none ∧
      (r.cycle weekNumber inp).1.present.average e
        = averageEntry (r.present.average e) (inp.source e) (inp.link e) := by
  obtain ⟨-, hnone, haverage⟩ := cycle_inside h.started (by rw [ends, hc, Bool.and_false])
  exact ⟨hnone, haverage e⟩

/-- A cycle saves a dataset if and only if it closes a period. -/
lemma cycle_isSome (h : r.Running) :
    (r.cycle weekNumber inp).2.isSome = r.closes weekNumber inp := by
  obtain ⟨ht, hs⟩ := h
  cases hc : r.period.checkFinish weekNumber r.pastTM inp.cur.tm <;>
    simp [closes, Report.cycle, calculate, periodic, ht, hs, hc, close]

/-- What is saved has the mark of the present dataset. -/
lemma cycle_saved_mark (h : r.Running) {d : Dataset L}
    (hd : (r.cycle weekNumber inp).2 = some d) : d.mark = r.present.mark := by
  obtain ⟨ht, hs⟩ := h
  cases hc : r.period.checkFinish weekNumber r.pastTM inp.cur.tm
  · simp [Report.cycle, calculate, periodic, ht, hs, hc] at hd
  · obtain rfl : d = _ := by
      simpa [Report.cycle, calculate, periodic, ht, hs, hc, close] using hd.symm
    rfl

/-- A report that a closing cycle begins is marked as valid, and any other keeps its mark. -/
lemma cycle_mark (h : r.Running) :
    (r.cycle weekNumber inp).1.present.mark
      = if r.closes weekNumber inp then .validate else r.present.mark := by
  obtain ⟨ht, hs⟩ := h
  cases hc : r.period.checkFinish weekNumber r.pastTM inp.cur.tm <;>
    simp [closes, Report.cycle, calculate, periodic, ht, hs, hc, close, average, store, start]

@[simp] lemma cycle_period (h : r.Running) : (r.cycle weekNumber inp).1.period = r.period := by
  obtain ⟨ht, hs⟩ := h
  cases hc : r.period.checkFinish weekNumber r.pastTM inp.cur.tm <;>
    simp [Report.cycle, calculate, periodic, ht, hs, hc, close, average, store, start]

/-- The final totals of the present dataset follow the sources. -/
lemma cycle_finalTotal (h : r.Running) (e : Fin L.entries) :
    ((r.cycle weekNumber inp).1.present.average e).finalTotal = inp.source e := by
  obtain ⟨ht, hs⟩ := h
  simp [Report.cycle, calculate, ht, average, averageEntry]

/-- A cycle that closes a period saves the totals of the present dataset and begins a report at
those of the sources. -/
lemma cycle_close (h : r.Running) (hc : r.closes weekNumber inp = true) :
    (r.cycle weekNumber inp).2 = some (r.cycle weekNumber inp).1.completed ∧
      ∀ e, ((r.cycle weekNumber inp).1.completed.average e).startTotal
            = (r.present.average e).startTotal ∧
          ((r.cycle weekNumber inp).1.completed.average e).finalTotal
            = (r.present.average e).finalTotal ∧
          ((r.cycle weekNumber inp).1.present.average e).startTotal = inp.source e := by
  obtain ⟨ht, hs⟩ := h
  rw [closes] at hc
  simp [Report.cycle, calculate, periodic, ht, hs, hc, average, close, store, start, averageEntry]

end Report

end Tritonn
