import Tritonn.Lib.Calendar
import Tritonn.Lib.Run
import Tritonn.Report.Report

/-!
Reports and the calendar: whether a report closes on the boundaries of its period.

* `localtime` is the broken-down time of the program in a zone with zero offset;
* `Period.Boundary` says which moments are the boundaries of a period, and `Period.boundary_iff`
  how a step of less than a minute over one shows in the broken-down times;
* `Watch` is a report with the last reading of the clock, `StoresAtBoundary` and `SpansPeriod` are
  the properties of a cycle, and `Period.Sound` the condition on it;
* `boundaries_iff` says that in every run each cycle has the properties if and only if each meets
  the condition;
* `boundaries_fails` is a quarterly report that closes on the first of February.
-/

namespace Tritonn

open Calendar
open Run (Along)

/-! ### The clock -/

/-- `localtime64_r` in a zone with zero offset, with the year as `getCurrentTime` leaves it. -/
def localtime (t : ℕ) : TM where
  sec := (t % 60 : ℕ)
  min := (t / 60 % 60 : ℕ)
  hour := (t / 3600 % 24 : ℕ)
  mday := monthDay (t / 86400)
  mon := (monthOf (t / 86400) % 12 : ℕ)
  year := (1970 + years.cell (t / 86400) : ℕ)
  wday := weekDay (t / 86400)
  yday := yearDay (t / 86400)

/-- `rReportTime::setCurTime`. -/
def clock (t : ℕ) : ReportTime := ⟨t, localtime t⟩

/-- A minute begins. -/
def AtMinute (b : ℕ) : Prop := (localtime b).sec = 0

/-- An hour begins. -/
def AtHour (b : ℕ) : Prop := AtMinute b ∧ (localtime b).min = 0

/-- A day begins. -/
def AtMidnight (b : ℕ) : Prop := AtHour b ∧ (localtime b).hour = 0

/-- A month begins. -/
def AtMonth (b : ℕ) : Prop := AtMidnight b ∧ (localtime b).mday = 1

/-- A year begins. -/
def AtYear (b : ℕ) : Prop := AtMonth b ∧ (localtime b).mon = 0

/-- The minutes. -/
def minuteCells : Cells 59 := Cells.unit.scale (show 59 < 60 by decide)

/-- The hours. -/
def hourCells : Cells 59 := Cells.unit.scale (show 59 < 3600 by decide)

/-- The days. -/
def dayCells : Cells 59 := Cells.unit.scale (show 59 < 86400 by decide)

/-- The months. -/
def monthCells : Cells 59 := months.scale (show 59 < 86400 by decide)

/-- The years. -/
def yearCells : Cells 59 := years.scale (show 59 < 86400 by decide)

lemma atMinute_iff (b : ℕ) : AtMinute b ↔ ∃ c, minuteCells.start c = b := by
  have hstart : ∀ c, minuteCells.start c = 60 * c := fun _ => rfl
  simp only [AtMinute, localtime, hstart]
  constructor
  · intro h
    exact ⟨b / 60, by omega⟩
  · rintro ⟨c, rfl⟩
    omega

lemma atHour_iff (b : ℕ) : AtHour b ↔ ∃ c, hourCells.start c = b := by
  have hstart : ∀ c, hourCells.start c = 3600 * c := fun _ => rfl
  simp only [AtHour, AtMinute, localtime, hstart]
  constructor
  · intro h
    exact ⟨b / 3600, by omega⟩
  · rintro ⟨c, rfl⟩
    omega

lemma atMidnight_iff (b : ℕ) : AtMidnight b ↔ ∃ c, dayCells.start c = b := by
  have hstart : ∀ c, dayCells.start c = 86400 * c := fun _ => rfl
  simp only [AtMidnight, AtHour, AtMinute, localtime, hstart]
  constructor
  · intro h
    exact ⟨b / 86400, by omega⟩
  · rintro ⟨c, rfl⟩
    omega

lemma atMonth_iff (b : ℕ) : AtMonth b ↔ ∃ c, monthCells.start c = b := by
  have hstart : ∀ c, monthCells.start c = 86400 * monthStart c := fun _ => rfl
  have hday : (localtime b).mday = 1 ↔ ∃ k, monthStart k = b / 86400 := by
    have hmday : (localtime b).mday = (monthDay (b / 86400) : ℕ) := rfl
    rw [← monthDay_eq_one_iff, hmday]
    norm_cast
  rw [AtMonth, hday, atMidnight_iff]
  constructor
  · rintro ⟨⟨c, rfl⟩, k, hk⟩
    refine ⟨k, ?_⟩
    change 86400 * monthStart k = 86400 * c
    change monthStart k = 86400 * c / 86400 at hk
    omega
  · rintro ⟨k, rfl⟩
    rw [hstart]
    exact ⟨⟨monthStart k, rfl⟩, k, by omega⟩

lemma atYear_iff (b : ℕ) : AtYear b ↔ ∃ c, yearCells.start c = b := by
  have hstart : ∀ c, yearCells.start c = monthCells.start (12 * c) := fun _ => rfl
  have hmon : (localtime b).mon = 0 ↔ 12 ∣ monthCells.cell b := by
    have hmod : (localtime b).mon = (monthCells.cell b % 12 : ℕ) := rfl
    rw [Nat.dvd_iff_mod_eq_zero, hmod]
    norm_cast
  rw [AtYear, hmon, atMonth_iff]
  constructor
  · rintro ⟨⟨k, rfl⟩, c, hc⟩
    rw [Cells.cell_start] at hc
    exact ⟨c, by rw [hstart, hc]⟩
  · rintro ⟨c, rfl⟩
    rw [hstart, Cells.cell_start]
    exact ⟨⟨12 * c, rfl⟩, c, rfl⟩

/-! ### The boundaries of a period -/

namespace Period

/-- The unit of time of which a period consists begins. -/
def Begins (b : ℕ) : Period → Prop
  | .min5 | .min15 => AtMinute b
  | .hour | .hour2 | .hour3 | .hour4 | .hour6 | .hour8 | .hour12 => AtHour b
  | .dayly | .weekly | .biweekly => AtMidnight b
  | .monthly | .quarterly => AtMonth b
  | .annual => AtYear b

/-- A period ends with the unit of time that ended before this moment: the minute or the hour is
divisible, the day is a Monday, of an odd week, or the month is January, April, July or October. -/
def Ends (b : ℕ) : Period → Prop
  | .min5 => (localtime b).min % 5 = 0
  | .min15 => (localtime b).min % 15 = 0
  | .hour => True
  | .hour2 => (localtime b).hour % 2 = 0
  | .hour3 => (localtime b).hour % 3 = 0
  | .hour4 => (localtime b).hour % 4 = 0
  | .hour6 => (localtime b).hour % 6 = 0
  | .hour8 => (localtime b).hour % 8 = 0
  | .hour12 => (localtime b).hour % 12 = 0
  | .dayly => True
  | .weekly => (localtime b).wday = 1
  | .biweekly => (localtime b).wday = 1 ∧ isoWeek (b / 86400) % 2 = 1
  | .monthly => True
  | .quarterly => (localtime b).mon % 3 = 0
  | .annual => True

/-- The moment is a boundary of the period. -/
def Boundary (p : Period) (b : ℕ) : Prop := p.Begins b ∧ p.Ends b

/-- The field of the broken-down time that the report compares. -/
def field (tm : TM) : Period → ℤ
  | .min5 | .min15 => tm.min
  | .hour | .hour2 | .hour3 | .hour4 | .hour6 | .hour8 | .hour12 => tm.hour
  | .dayly => tm.mday
  | .weekly | .biweekly => tm.wday
  | .monthly | .quarterly => tm.mon
  | .annual => tm.year

/-- The cells of which a period consists. -/
def cells : Period → Cells 59
  | .min5 | .min15 => minuteCells
  | .hour | .hour2 | .hour3 | .hour4 | .hour6 | .hour8 | .hour12 => hourCells
  | .dayly | .weekly | .biweekly => dayCells
  | .monthly | .quarterly => monthCells
  | .annual => yearCells

/-- What the field shows of a cell. -/
def shown (c : ℕ) : Period → ℤ
  | .min5 | .min15 => (c % 60 : ℕ)
  | .hour | .hour2 | .hour3 | .hour4 | .hour6 | .hour8 | .hour12 => (c % 24 : ℕ)
  | .dayly => monthDay c
  | .weekly | .biweekly => weekDay c
  | .monthly | .quarterly => (c % 12 : ℕ)
  | .annual => (1970 + c : ℕ)

lemma begins_iff (p : Period) (b : ℕ) : p.Begins b ↔ ∃ c, p.cells.start c = b := by
  cases p
  case min5 | min15 => exact atMinute_iff b
  case dayly | weekly | biweekly => exact atMidnight_iff b
  case monthly | quarterly => exact atMonth_iff b
  case annual => exact atYear_iff b
  all_goals exact atHour_iff b

lemma field_eq (p : Period) (t : ℕ) : p.field (localtime t) = p.shown (p.cells.cell t) := by
  cases p <;> rfl

/-- Neighbouring cells show differently. -/
lemma shown_ne_succ (p : Period) (c : ℕ) : p.shown c ≠ p.shown (c + 1) := by
  cases p
  case dayly =>
    simp only [shown]
    exact_mod_cast monthDay_ne_succ c
  case weekly | biweekly =>
    simp only [shown, weekDay]
    omega
  all_goals
    simp only [shown]
    omega

/-- Whether a period ends is the same for all moments of a cell. -/
lemma ends_congr (p : Period) {s t : ℕ} (h : p.cells.cell s = p.cells.cell t) :
    p.Ends s ↔ p.Ends t := by
  have hfield : p.field (localtime s) = p.field (localtime t) := by
    rw [field_eq, field_eq, h]
  cases p
  case biweekly =>
    have hday : s / 86400 = t / 86400 := h
    rw [Ends, Ends, hday, show (localtime s).wday = (localtime t).wday from hfield]
  all_goals
    simp only [field] at hfield
    simp only [Ends, hfield]

/-- A boundary lies within a step of less than a minute if and only if the field that is compared
changes and the period ends. -/
theorem boundary_iff (p : Period) (e : Fin 60) (t : ℕ) :
    (∃ b, p.Boundary b ∧ t < b ∧ b ≤ t + e) ↔
      p.field (localtime t) ≠ p.field (localtime (t + e)) ∧ p.Ends (t + e) :=
  p.cells.crossing_iff (fun t => p.field (localtime t)) p.begins_iff (fun _ _ => p.ends_congr)
    p.field_eq p.shown_ne_succ (Nat.le_of_lt_succ e.isLt) t

/-! ### The condition on a cycle -/

/-- What a cycle at `now` after a reading `last` needs, where the report remembers `past`, to close
on the boundaries alone.

* Where a period could end, the remembered time differs from the present one in the field that is
  compared if and only if the last reading does.
* A quarterly report takes the months from one on, while they are numbered from zero: it needs to
  remember the present month in February, May, August and November, and a last reading in the
  present month in January, April, July and October.
* A biweekly report needs, on the first reading of a Monday, a number of the week of the right
  parity, and later on the Monday an even one, unless it still remembers a Monday. -/
def Sound (weekNumber : TM → ℕ × TM) (past : TM) (last now : ℕ) : Period → Prop
  | .quarterly =>
      ((localtime now).mon % 3 = 1 → past.mon = (localtime now).mon) ∧
        ((localtime now).mon % 3 = 0 → (localtime last).mon = (localtime now).mon)
  | .biweekly => (localtime now).wday = 1 →
      if (localtime last).wday = 1 then past.wday = 1 ∨ (weekNumber (localtime now)).1 % 2 = 0
      else (past.wday ≠ 1 ∧ (weekNumber (localtime now)).1 % 2 = 1 ↔ isoWeek (now / 86400) % 2 = 1)
  | p => p.Ends now →
      (p.field past = p.field (localtime now) ↔
        p.field (localtime last) = p.field (localtime now))

/-- A report that remembers the last reading needs nothing more, unless it is quarterly or
biweekly. -/
lemma sound_of_remembered (weekNumber : TM → ℕ × TM) (last now : ℕ) {p : Period}
    (hq : p ≠ .quarterly) (hb : p ≠ .biweekly) :
    p.Sound weekNumber (localtime last) last now := by
  cases p
  case quarterly => exact absurd rfl hq
  case biweekly => exact absurd rfl hb
  all_goals exact fun _ => Iff.rfl

lemma tmod_eq_zero_iff {a n : ℤ} (ha : 0 ≤ a) : a.tmod n = 0 ↔ a % n = 0 := by
  rw [Int.tmod_eq_emod_of_nonneg ha]

/-- A check that a field has changed and the period ends. -/
lemma changed_iff {P : Prop} [Decidable P] {past last now : ℤ} {Q : Prop} (hP : P ↔ Q) :
    ((decide (past ≠ now ∧ P) = true ↔ last ≠ now ∧ Q) ↔ (Q → (past = now ↔ last = now))) := by
  rw [decide_eq_true_iff, hP]
  tauto

/-- The check of a quarterly report, for months from zero on. -/
lemma quarterly_iff {past last now : ℤ} :
    ((decide (past ≠ now ∧ (now - 1).tmod 3 = 0) = true ↔ last ≠ now ∧ now % 3 = 0) ↔
      (now % 3 = 1 → past = now) ∧ (now % 3 = 0 → last = now)) := by
  have hmod : (now - 1).tmod 3 = 0 ↔ now % 3 = 1 := by
    rw [← Int.dvd_iff_tmod_eq_zero]
    omega
  rw [decide_eq_true_iff, hmod]
  by_cases h1 : now % 3 = 1
  · simp [h1]
  · by_cases h0 : now % 3 = 0 <;> simp [h0, h1]

/-- The check of a biweekly report, for the week `w` by the program and `v` by the calendar. -/
lemma biweekly_iff {past last now : ℤ} {w v : ℕ} :
    ((decide (past ≠ now ∧ now = 1 ∧ ((w : ℤ) - 1).tmod 2 = 0) = true ↔
        last ≠ now ∧ now = 1 ∧ v % 2 = 1) ↔
      (now = 1 → if last = 1 then past = 1 ∨ w % 2 = 0
        else (past ≠ 1 ∧ w % 2 = 1 ↔ v % 2 = 1))) := by
  have hodd : ((w : ℤ) - 1).tmod 2 = 0 ↔ w % 2 = 1 := by
    rw [← Int.dvd_iff_tmod_eq_zero]
    omega
  rw [decide_eq_true_iff, hodd]
  by_cases hnow : now = 1
  · by_cases hlast : last = 1
    · simp [hnow, hlast, or_iff_not_imp_left]
    · simp [hnow, hlast]
  · simp [hnow]

/-- The step: a cycle closes the report exactly if there was a boundary if and only if it meets the
condition. -/
theorem checkFinish_sound (weekNumber : TM → ℕ × TM) (past : TM) (p : Period) (e : Fin 60)
    (t : ℕ) :
    ((p.checkFinish weekNumber past (localtime (t + e)) = true ↔
        ∃ b, p.Boundary b ∧ t < b ∧ b ≤ t + e) ↔
      p.Sound weekNumber past t (t + e)) := by
  have hmin : 0 ≤ (localtime (t + e)).min := Int.natCast_nonneg _
  have hhour : 0 ≤ (localtime (t + e)).hour := Int.natCast_nonneg _
  rw [boundary_iff]
  cases p
  case quarterly => exact quarterly_iff
  case biweekly => exact biweekly_iff
  case weekly => exact changed_iff Iff.rfl
  case min5 | min15 => exact changed_iff (tmod_eq_zero_iff hmin)
  case hour | dayly | monthly | annual =>
    simp [checkFinish, Sound, field, Ends, not_iff_not]
  all_goals exact changed_iff (tmod_eq_zero_iff hhour)

end Period

/-! ### Runs -/

/-- A report with the last reading of the clock before the present cycle, and the readings between
which the present report was begun, unless it is the first one. -/
structure Watch (L : Layout) where
  report : Report L
  last : ℕ
  opened : Option (ℕ × ℕ)

/-- A cycle: the time since the last reading, and what the cycle reads besides. -/
structure Tick (L : Layout) where
  elapsed : Fin 60
  input : ReportInput L

namespace Watch

variable {L : Layout} (weekNumber : TM → ℕ × TM)

/-- The reading of a cycle. -/
def now (w : Watch L) (i : Tick L) : ℕ := w.last + i.elapsed

/-- What a cycle reads. -/
def reads (w : Watch L) (i : Tick L) : ReportInput L := { i.input with cur := clock (w.now i) }

/-- The dataset that a cycle saves. -/
def saved (w : Watch L) (i : Tick L) : Option (Dataset L) :=
  (w.report.cycle weekNumber (w.reads i)).2

/-- One cycle. -/
def step (w : Watch L) (i : Tick L) : Watch L where
  report := (w.report.cycle weekNumber (w.reads i)).1
  last := w.now i
  opened := if (w.saved weekNumber i).isSome then some (w.last, w.now i) else w.opened

/-- A report that is started by `run` at the reading `t`. -/
def run (r : Report L) (t : ℕ) (source : Fin L.entries → BaseTotal) : Watch L :=
  ⟨r.run (clock t) source, t, none⟩

/-- `store` runs in the cycle if and only if a boundary of the period lies after the last reading
and not after this one. -/
def StoresAtBoundary (w : Watch L) (i : Tick L) : Prop :=
  (w.saved weekNumber i).isSome = true ↔
    ∃ b, w.report.period.Boundary b ∧ w.last < b ∧ b ≤ w.now i

/-- A report that is completed as valid was begun in the first cycle after a boundary, and this is
the first cycle after the next one. -/
def SpansPeriod (w : Watch L) (i : Tick L) : Prop :=
  ∀ d, w.saved weekNumber i = some d → d.mark = .validate →
    ∃ s t b b', w.opened = some (s, t) ∧ w.report.period.Boundary b ∧
      w.report.period.Boundary b' ∧ (s < b ∧ b ≤ t) ∧ (w.last < b' ∧ b' ≤ w.now i) ∧ b < b' ∧
      ∀ x, w.report.period.Boundary x → b < x → b' ≤ x

/-- The cycle meets the condition. -/
def Sound (w : Watch L) (i : Tick L) : Prop :=
  w.report.period.Sound weekNumber w.report.pastTM w.last (w.now i)

/-- The invariant of a report that closes on its boundaries: one that is marked as valid was begun
at a boundary, and there has been none since. -/
structure Inv (w : Watch L) : Prop where
  running : w.report.Running
  valid : w.report.present.mark = .validate → ∃ s t b, w.opened = some (s, t) ∧
    w.report.period.Boundary b ∧ (s < b ∧ b ≤ t) ∧ t ≤ s + 59 ∧ t ≤ w.last ∧
    ∀ x, w.report.period.Boundary x → t < x → w.last < x

variable {weekNumber} {w : Watch L} {i : Tick L}

lemma run_inv {r : Report L} (h : r.type = .periodic) (t : ℕ)
    (source : Fin L.entries → BaseTotal) : (run r t source).Inv where
  running := Report.run_running h _ source
  valid := nofun

lemma storesAtBoundary_iff (hw : w.Inv) :
    w.StoresAtBoundary weekNumber i ↔ w.Sound weekNumber i := by
  rw [StoresAtBoundary, saved, Report.cycle_isSome hw.running]
  exact Period.checkFinish_sound weekNumber w.report.pastTM w.report.period i.elapsed w.last

/-- Two boundaries within a step are the same. -/
lemma boundary_unique {p : Period} {s t b b' : ℕ} (ht : t ≤ s + 59) (hb : p.Boundary b)
    (hb' : p.Boundary b') (hs : s < b ∧ b ≤ t) (hs' : s < b' ∧ b' ≤ t) : b = b' := by
  obtain ⟨c, rfl⟩ := (p.begins_iff b).mp hb.1
  obtain ⟨c', rfl⟩ := (p.begins_iff b').mp hb'.1
  rw [p.cells.start_unique le_rfl hs.1 (hs.2.trans ht) hs'.1 (hs'.2.trans ht)]

/-- A report that closes on its boundaries spans the periods. -/
lemma Inv.spansPeriod (hw : w.Inv) (h : w.StoresAtBoundary weekNumber i) :
    w.SpansPeriod weekNumber i := by
  intro d hd hmark
  rw [Report.cycle_saved_mark hw.running hd] at hmark
  obtain ⟨s, t, b, hopened, hb, hst, ht, htl, hnone⟩ := hw.valid hmark
  obtain ⟨b', hb', hlast, hnow⟩ := h.mp (Option.isSome_iff_exists.mpr ⟨d, hd⟩)
  refine ⟨s, t, b, b', hopened, hb, hb', hst, ⟨hlast, hnow⟩, by omega, fun x hx hbx => ?_⟩
  have htx : t < x := by
    by_contra! hxt
    exact hbx.ne (boundary_unique ht hb hx hst ⟨hst.1.trans hbx, hxt⟩)
  by_contra! hxb
  exact hxb.ne (boundary_unique (Nat.add_le_add_left (Nat.le_of_lt_succ i.elapsed.isLt) _) hx hb'
    ⟨hnone x hx htx, hxb.le.trans hnow⟩ ⟨hlast, hnow⟩)

/-- A cycle that stores on a boundary alone keeps the invariant. -/
lemma Inv.step (hw : w.Inv) (h : w.StoresAtBoundary weekNumber i) :
    (w.step weekNumber i).Inv where
  running := hw.running.cycle _
  valid := by
    have hperiod : (w.step weekNumber i).report.period = w.report.period :=
      Report.cycle_period hw.running
    rw [hperiod]
    intro hvalid
    by_cases hs : (w.saved weekNumber i).isSome = true
    · obtain ⟨b, hb, hlast, hnow⟩ := h.mp hs
      exact ⟨w.last, w.now i, b, if_pos hs, hb, ⟨hlast, hnow⟩,
        Nat.add_le_add_left (Nat.le_of_lt_succ i.elapsed.isLt) _, le_rfl, fun _ _ hx => hx⟩
    · have hopen : w.report.closes weekNumber (w.reads i) = false := by
        rw [saved, Report.cycle_isSome hw.running] at hs
        exact Bool.eq_false_of_not_eq_true hs
      have hmark : (w.step weekNumber i).report.present.mark = w.report.present.mark :=
        (Report.cycle_mark hw.running).trans (by rw [hopen]; rfl)
      obtain ⟨s, t, b, hopened, hb, hst, ht, htl, hnone⟩ := hw.valid (hmark ▸ hvalid)
      refine ⟨s, t, b, (if_neg hs).trans hopened, hb, hst, ht, htl.trans (Nat.le_add_right _ _),
        fun x hx htx => ?_⟩
      by_contra! hxn
      exact hs (h.mpr ⟨x, hx, hnone x hx htx, hxn⟩)

/-- In every run of a periodic report, each cycle stores exactly if there was a boundary of the
period, and each valid report spans one period, if and only if each cycle meets the condition. -/
theorem boundaries_iff (lib : Time64) (depth : ℕ) (r : Report L) (h : r.type = .periodic) (t : ℕ)
    (source : Fin L.entries → BaseTotal) (cycles : List (Tick L)) :
    Along (step (Tritonn.weekNumber lib depth))
        (fun w i => w.StoresAtBoundary (Tritonn.weekNumber lib depth) i ∧
          w.SpansPeriod (Tritonn.weekNumber lib depth) i) (run r t source) cycles ↔
      Along (step (Tritonn.weekNumber lib depth)) (Sound (Tritonn.weekNumber lib depth))
        (run r t source) cycles :=
  Run.along_congr (A := fun _ _ => True) Inv
    (fun _ _ hw _ => ⟨fun hP => (storesAtBoundary_iff hw).mp hP.1, fun hQ =>
      have hstores := (storesAtBoundary_iff hw).mpr hQ
      ⟨hstores, hw.spansPeriod hstores⟩⟩)
    (fun _ _ hw _ hP => hw.step hP.1) (run_inv h t source) (Run.along_of_forall fun _ _ => trivial)

/-! ### The first of February -/

/-- A dataset without entries. -/
def noEntry : Layout := ⟨0, fun e => e.elim0, 0⟩

/-- Half a minute before February 1970. -/
def lateJanuary : ℕ := 31 * 86400 - 30

/-- A quarterly report whose memory happens to hold the time at which it is started. -/
def quarterly : Report noEntry :=
  let d : Dataset noEntry :=
    ⟨.undef, clock 0, clock 0, fun e => e.elim0, fun j => j.elim0⟩
  ⟨false, .periodic, .quarterly, .idle, d, d, localtime lateJanuary, clock 0⟩

/-- A cycle twenty seconds after the last reading. -/
def tick : Tick noEntry :=
  ⟨20, ⟨clock 0, clock 0, clock 0, fun e => e.elim0, fun e => e.elim0, fun j => j.elim0,
    fun e => e.elim0, fun j => j.elim0⟩⟩

/-- A library, which a quarterly report does not use. -/
def noTime : Time64 := ⟨fun tm => (0, tm), fun _ => localtime 0⟩

/-- The second cycle falls into February, and the report is stored. -/
theorem boundaries_fails :
    ¬ Along (step (Tritonn.weekNumber noTime 0))
      (fun w i => w.StoresAtBoundary (Tritonn.weekNumber noTime 0) i ∧
        w.SpansPeriod (Tritonn.weekNumber noTime 0) i)
      (run quarterly lateJanuary fun e => e.elim0) [tick, tick] := by
  rintro ⟨-, ⟨hstores, -⟩, -⟩
  obtain ⟨b, hb, hlast, hnow⟩ := hstores.mp (by rfl)
  have hends := ((Period.boundary_iff .quarterly 20 (lateJanuary + 20)).mp ⟨b, hb, hlast, hnow⟩).2
  exact absurd hends (show ¬ (localtime (lateJanuary + 40)).mon % 3 = 0 by decide +kernel)

/-- The first cycle of the same run, by `boundaries_iff`. -/
theorem boundaries_iff_quarterly :
    Along (step (Tritonn.weekNumber noTime 0))
        (fun w i => w.StoresAtBoundary (Tritonn.weekNumber noTime 0) i ∧
          w.SpansPeriod (Tritonn.weekNumber noTime 0) i)
        (run quarterly lateJanuary fun e => e.elim0) [tick] ↔
      Along (step (Tritonn.weekNumber noTime 0)) (Sound (Tritonn.weekNumber noTime 0))
        (run quarterly lateJanuary fun e => e.elim0) [tick] :=
  boundaries_iff noTime 0 quarterly rfl lateJanuary _ [tick]

end Watch

end Tritonn
