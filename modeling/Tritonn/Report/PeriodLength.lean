import Tritonn.Report.Boundaries
import Tritonn.Report.WeekNumber

/-!
`GetUNIXPeriod` against the boundaries that `CheckFinishPeriodic` recognises.

* `Period.Recognised` is a boundary for the code: the check is made between the second before and
  this one, and the number of the week is that of the ISO week (`isoNumber`);
* `Period.recognised_start` gives it as a condition on the number of the minute, hour, day, month or
  year that begins, and `Period.span` is the number of them until the next one (`next_start`);
* `Period.Spans` is the property of a boundary: the length leads to the next one, which decides
  about a report that is found unfinished;
* `Period.spans_iff` says that it holds if and only if the date meets `Agrees`.
-/

namespace Tritonn

open Calendar

namespace Period

variable {p : Period} {b c : ℕ}

/-! ### The boundaries -/

/-- The number of the ISO week by the fields of a broken-down time, which is not changed. -/
def isoNumber (tm : TM) : ℕ × TM :=
  (isoWeek (years.start (tm.year - 1970).toNat + tm.yday.toNat), tm)

lemma isoNumber_localtime (t : ℕ) : (isoNumber (localtime t)).1 = isoWeek (t / 86400) := by
  have hle := years.start_le (t / 86400)
  have hyear : ((localtime t).year - 1970).toNat = years.cell (t / 86400) := by
    simp only [localtime]
    omega
  have hyday : (localtime t).yday.toNat = yearDay (t / 86400) := rfl
  rw [isoNumber, hyear, hyday, yearDay, Nat.add_sub_cancel' hle]

/-- It is the number that `IsIso` is about. -/
lemma isoNumber_eq_isoWeek (t : ℕ) :
    ((isoNumber (localtime t)).1 : ℤ) = Proleptic.isoWeek (t / 86400 : ℕ) := by
  rw [isoNumber_localtime, Proleptic.isoWeek_natCast]

/-- `CheckFinishPeriodic` finds a boundary between the second before and this one. -/
def Recognised (p : Period) (b : ℕ) : Prop :=
  ∃ t, b = t + 1 ∧ p.checkFinish isoNumber (localtime t) (localtime b) = true

/-- What the check finds of the units of time that end a period: quarters end in February, May,
August and November. -/
def Closes (b : ℕ) : Period → Prop
  | .quarterly => (localtime b).mon % 3 = 1
  | p => p.Ends b

lemma sound_isoNumber (hp : p ≠ .quarterly) (t : ℕ) :
    p.Sound isoNumber (localtime t) t (t + 1) := by
  by_cases hb : p = .biweekly
  · subst hb
    rw [Sound, isoNumber_localtime]
    intro _
    split_ifs with hmonday
    · exact .inl hmonday
    · exact and_iff_right hmonday
  · exact sound_of_remembered isoNumber t (t + 1) hp hb

lemma closes_eq_ends (hp : p ≠ .quarterly) (b : ℕ) : p.Closes b = p.Ends b := by
  cases p
  case quarterly => exact absurd rfl hp
  all_goals rfl

/-- A boundary within one second. -/
lemma exists_boundary_iff (p : Period) (t : ℕ) :
    (∃ b, p.Boundary b ∧ t < b ∧ b ≤ t + 1) ↔ p.Boundary (t + 1) := by
  constructor
  · rintro ⟨b, hb, hlt, hle⟩
    rwa [le_antisymm hle hlt] at hb
  · intro h
    exact ⟨t + 1, h, t.lt_succ_self, le_rfl⟩

lemma checkFinish_iff (hp : p ≠ .quarterly) (t : ℕ) :
    p.checkFinish isoNumber (localtime t) (localtime (t + 1)) = true ↔ p.Boundary (t + 1) := by
  rw [← exists_boundary_iff]
  exact (checkFinish_sound isoNumber (localtime t) p 1 t).mpr (sound_isoNumber hp t)

/-- A quarter ends with a month that the code takes for the last of one. -/
lemma checkFinish_quarterly (t : ℕ) :
    quarterly.checkFinish isoNumber (localtime t) (localtime (t + 1)) = true ↔
      monthly.Boundary (t + 1) ∧ (localtime (t + 1)).mon % 3 = 1 := by
  have hmod : ((localtime (t + 1)).mon - 1).tmod 3 = 0 ↔ (localtime (t + 1)).mon % 3 = 1 := by
    rw [← Int.dvd_iff_tmod_eq_zero]
    omega
  rw [← checkFinish_iff (p := monthly) (by decide) t, checkFinish, checkFinish, decide_eq_true_iff,
    decide_eq_true_iff, hmod]

theorem recognised_iff (p : Period) (b : ℕ) :
    p.Recognised b ↔ 0 < b ∧ p.Begins b ∧ p.Closes b := by
  have hcheck : ∀ t, p.checkFinish isoNumber (localtime t) (localtime (t + 1)) = true ↔
      p.Begins (t + 1) ∧ p.Closes (t + 1) := by
    intro t
    by_cases hp : p = .quarterly
    · subst hp
      rw [checkFinish_quarterly, Boundary, Ends, and_true]
      rfl
    · rw [checkFinish_iff hp, Boundary, closes_eq_ends hp]
  constructor
  · rintro ⟨t, rfl, h⟩
    exact ⟨t.succ_pos, (hcheck t).mp h⟩
  · rintro ⟨hb, h⟩
    obtain ⟨t, rfl⟩ := Nat.exists_eq_succ_of_ne_zero hb.ne'
    exact ⟨t, rfl, (hcheck t).mpr h⟩

/-- Whether a unit of time that begins ends a period, by its number. -/
def Closing (c : ℕ) : Period → Prop
  | .min5 => c % 5 = 0
  | .min15 => c % 15 = 0
  | .hour | .dayly | .monthly | .annual => True
  | .hour2 => c % 2 = 0
  | .hour3 => c % 3 = 0
  | .hour4 => c % 4 = 0
  | .hour6 => c % 6 = 0
  | .hour8 => c % 8 = 0
  | .hour12 => c % 12 = 0
  | .weekly => c % 7 = 4
  | .biweekly => c % 7 = 4 ∧ isoWeek c % 2 = 1
  | .quarterly => c % 3 = 1

lemma closes_start (p : Period) (c : ℕ) : p.Closes (p.cells.start c) ↔ p.Closing c := by
  have hfield := p.field_eq (p.cells.start c)
  rw [Cells.cell_start] at hfield
  cases p
  case biweekly =>
    have hday : dayCells.start c / 86400 = c := dayCells.cell_start c
    simp only [field, shown, cells, weekDay] at hfield
    simp only [Closes, Ends, Closing, cells, hfield, hday]
    omega
  all_goals
    simp only [field, shown, cells, weekDay] at hfield
    simp only [Closes, Ends, Closing, cells, hfield]
  all_goals omega

/-- The boundaries by the number of the unit of time that begins. -/
theorem recognised_start (p : Period) (c : ℕ) :
    p.Recognised (p.cells.start c) ↔ 0 < c ∧ p.Closing c := by
  rw [recognised_iff, closes_start, Cells.start_pos_iff]
  have hbegins : p.Begins (p.cells.start c) := (p.begins_iff _).mpr ⟨c, rfl⟩
  tauto

/-- The next one. -/
def Next (p : Period) (b b' : ℕ) : Prop := IsLeast {x | p.Recognised x ∧ b < x} b'

lemma exists_start (h : p.Recognised b) : ∃ c, p.cells.start c = b :=
  (p.begins_iff b).mp ((recognised_iff p b).mp h).2.1

lemma recognised_iff_start (p : Period) (x : ℕ) :
    p.Recognised x ↔ ∃ k, p.cells.start k = x ∧ (0 < k ∧ p.Closing k) := by
  constructor
  · intro h
    obtain ⟨k, rfl⟩ := exists_start h
    exact ⟨k, rfl, (recognised_start p k).mp h⟩
  · rintro ⟨k, rfl, hk⟩
    exact (recognised_start p k).mpr hk

/-- How many units of time a period has that ends where the number `c` begins. -/
def span (c : ℕ) : Period → ℕ
  | .min5 => 5
  | .min15 => 15
  | .hour | .dayly | .monthly | .annual => 1
  | .hour2 => 2
  | .hour3 | .quarterly => 3
  | .hour4 => 4
  | .hour6 => 6
  | .hour8 => 8
  | .hour12 => 12
  | .weekly => 7
  | .biweekly => if isoWeek c = 53 then 7 else 14

/-- Weeks that are fourteen days apart are both odd, and the one between them is not, unless the
first is the last of its year. -/
lemma biweekly_closing (h : biweekly.Closing c) :
    biweekly.Closing (c + biweekly.span c) ∧
      ∀ i, 0 < i → i < biweekly.span c → ¬ biweekly.Closing (c + i) := by
  obtain ⟨hmonday, hodd⟩ := h
  have hnext := Proleptic.isoWeek_add_seven hmonday
  have hafter := Proleptic.isoWeek_add_seven (d := c + 7) (by omega)
  rw [show c + 7 + 7 = c + 14 from rfl] at hafter
  simp only [Closing, span]
  split_ifs with hlast
  · refine ⟨by omega, fun i hi hi7 hc => ?_⟩
    omega
  · refine ⟨by omega, fun i hi hi14 hc => ?_⟩
    obtain rfl : i = 7 := by omega
    omega

/-- The period ends with the next boundary. -/
lemma closing_span (h : p.Closing c) :
    p.Closing (c + p.span c) ∧ ∀ i, 0 < i → i < p.span c → ¬ p.Closing (c + i) := by
  cases p
  case biweekly => exact biweekly_closing h
  all_goals
    simp only [Closing, span] at h ⊢
    refine ⟨by omega, fun i hi hlt => ?_⟩
    omega

lemma span_pos (p : Period) (c : ℕ) : 0 < p.span c := by
  cases p
  case biweekly =>
    rw [span]
    split_ifs
    · decide
    · decide
  all_goals exact Nat.succ_pos _

/-- The next boundary after one. -/
theorem next_start (hpos : 0 < c) (h : p.Closing c) :
    p.Next (p.cells.start c) (p.cells.start (c + p.span c)) := by
  obtain ⟨hspan, hnone⟩ := closing_span h
  have hset : {x | p.Recognised x ∧ p.cells.start c < x} =
      {x | (∃ k, p.cells.start k = x ∧ (0 < k ∧ p.Closing k)) ∧ p.cells.start c < x} :=
    Set.ext fun x => and_congr_left fun _ => recognised_iff_start p x
  rw [Next, hset]
  exact p.cells.isLeast_start (span_pos p c) ⟨by omega, hspan⟩
    fun i hi hlt hc => hnone i hi hlt hc.2

/-! ### The lengths -/

/-- `DayInMonthShift` counts the months from one on, and no year has a day more. -/
lemma dayInMonthShift_eq (year : UInt16) {k : ℕ} (hk : k ≤ 12) :
    (dayInMonthShift year (.ofInt k)).toNat =
      [0, 31, 28, 31, 30, 31, 30, 31, 31, 30, 31, 30, 31].getD k 0 := by
  interval_cases k
  all_goals
    rw [dayInMonthShift, isLeapYear_eq_zero]
    rfl

/-- The condition. -/
def Agrees (b : ℕ) : Period → Prop
  | .biweekly => isoWeek (b / 86400) ≠ 53
  | .monthly => (localtime b).mon = 7
  | .quarterly =>
      (localtime b).mon ≠ 4 ∧ ((localtime b).mon = 1 → IsLeap (localtime b).year.toNat)
  | .annual => ¬ IsLeap (localtime b).year.toNat
  | _ => True

lemma monthStart_cells (c : ℕ) : monthCells.start c = 86400 * monthStart c := rfl

lemma localtime_month (c : ℕ) : (localtime (monthCells.start c)).mon = (c % 12 : ℕ) := by
  have hfield := monthly.field_eq (monthCells.start c)
  rwa [show monthly.cells = monthCells from rfl, Cells.cell_start] at hfield

lemma localtime_year (c : ℕ) : (localtime (monthCells.start c)).year.toNat = 1970 + c / 12 := by
  have hcell : years.cell (monthCells.start c / 86400) = c / 12 :=
    congrArg (· / 12) (monthCells.cell_start c)
  rw [localtime, hcell, Int.toNat_natCast]

/-- The months but for February. -/
lemma monthLength_of_mod {i : ℕ} (h : c % 12 = i) (hi : i ≠ 1) :
    monthLength c = [31, 28, 31, 30, 31, 30, 31, 31, 30, 31, 30].getD i 31 := by
  have hmonth : i < 12 := h ▸ Nat.mod_lt c (by decide)
  rw [monthLength, h]
  interval_cases i
  case «1» => exact absurd rfl hi
  all_goals rfl

lemma monthLength_february (h : c % 12 = 1) :
    monthLength c = if IsLeap (1970 + c / 12) then 29 else 28 := by
  rw [monthLength, h]
  rfl

/-- A report that begins with a month is given the length of the month before. -/
lemma monthly_length (c : ℕ) :
    monthCells.start c + monthly.getUNIXPeriod (localtime (monthCells.start c)) =
        monthCells.start (c + 1) ↔ monthly.Agrees (monthCells.start c) := by
  have hmonth : c % 12 < 12 := Nat.mod_lt c (by decide)
  rw [getUNIXPeriod, Agrees, localtime_month, dayInMonthShift_eq _ hmonth.le, monthStart_cells,
    monthStart_cells, monthStart]
  by_cases hfebruary : c % 12 = 1
  · rw [monthLength_february hfebruary, hfebruary]
    simp only [List.getD_cons_zero, List.getD_cons_succ]
    split_ifs
    · omega
    · omega
  · rw [monthLength_of_mod rfl hfebruary]
    generalize c % 12 = i at hmonth hfebruary
    interval_cases i
    all_goals
      simp only [List.getD_cons_zero, List.getD_cons_succ, List.getD_nil]
      omega

/-- A report that begins with a quarter is given the months from the one before on. -/
lemma quarterly_length (h : quarterly.Closing c) :
    monthCells.start c + quarterly.getUNIXPeriod (localtime (monthCells.start c)) =
        monthCells.start (c + 3) ↔ quarterly.Agrees (monthCells.start c) := by
  have hmonth : c % 12 < 12 := Nat.mod_lt c (by decide)
  have hclosing : c % 3 = 1 := h
  have hsum : monthStart (c + 3) =
      monthStart c + monthLength c + monthLength (c + 1) + monthLength (c + 2) := rfl
  have hnext : ((c % 12 : ℕ) : ℤ) + 1 = (c % 12 + 1 : ℕ) := by push_cast; rfl
  have hlast : ((c % 12 : ℕ) : ℤ) + 2 = (c % 12 + 2 : ℕ) := by push_cast; rfl
  rw [getUNIXPeriod, Agrees, localtime_year, localtime_month, hnext, hlast,
    dayInMonthShift_eq _ hmonth.le, dayInMonthShift_eq _ (by omega),
    dayInMonthShift_eq _ (by omega), monthStart_cells, monthStart_cells, hsum]
  have hquarter : c % 12 = 1 ∨ c % 12 = 4 ∨ c % 12 = 7 ∨ c % 12 = 10 := by omega
  rcases hquarter with hc | hc | hc | hc
  · rw [hc, monthLength_february hc, monthLength_of_mod (i := 2) (by omega) (by decide),
      monthLength_of_mod (i := 3) (by omega) (by decide)]
    simp only [List.getD_cons_zero, List.getD_cons_succ]
    split_ifs with hleap
    · simp only [hleap, implies_true, and_true]
      omega
    · simp only [hleap, imp_false]
      omega
  · rw [hc, monthLength_of_mod hc (by decide), monthLength_of_mod (i := 5) (by omega) (by decide),
      monthLength_of_mod (i := 6) (by omega) (by decide)]
    simp only [List.getD_cons_zero, List.getD_cons_succ]
    omega
  · rw [hc, monthLength_of_mod hc (by decide), monthLength_of_mod (i := 8) (by omega) (by decide),
      monthLength_of_mod (i := 9) (by omega) (by decide)]
    simp only [List.getD_cons_zero, List.getD_cons_succ]
    omega
  · rw [hc, monthLength_of_mod hc (by decide), monthLength_of_mod (i := 11) (by omega) (by decide),
      monthLength_of_mod (i := 0) (by omega) (by decide)]
    simp only [List.getD_cons_zero, List.getD_cons_succ, List.getD_nil]
    omega

/-- A report that begins with a year is given 365 days. -/
lemma annual_length (c : ℕ) :
    yearCells.start c + annual.getUNIXPeriod (localtime (yearCells.start c)) =
        yearCells.start (c + 1) ↔ annual.Agrees (yearCells.start c) := by
  have hstart : ∀ c, yearCells.start c = 86400 * years.start c := fun _ => rfl
  have hyear : (localtime (yearCells.start c)).year.toNat = 1970 + c := by
    have hmonth := localtime_year (12 * c)
    rwa [Nat.mul_div_cancel_left c (by decide)] at hmonth
  rw [getUNIXPeriod, Agrees, hyear, isLeapYear_eq_zero, hstart, hstart, Proleptic.years_succ,
    UInt16.toNat_zero]
  split_ifs with hleap
  · exact iff_of_false (by omega) (not_not.mpr hleap)
  · exact iff_of_true (by omega) hleap

/-- The length leads to the next boundary if and only if the date meets the condition. -/
theorem getUNIXPeriod_iff (h : p.Closing c) :
    p.cells.start c + p.getUNIXPeriod (localtime (p.cells.start c)) =
        p.cells.start (c + p.span c) ↔ p.Agrees (p.cells.start c) := by
  have hminute : ∀ c, minuteCells.start c = 60 * c := fun _ => rfl
  have hhour : ∀ c, hourCells.start c = 3600 * c := fun _ => rfl
  have hday : ∀ c, dayCells.start c = 86400 * c := fun _ => rfl
  cases p
  case monthly => exact monthly_length c
  case quarterly => exact quarterly_length h
  case annual => exact annual_length c
  case biweekly =>
    have hcell : 86400 * c / 86400 = c := dayCells.cell_start c
    simp only [cells, getUNIXPeriod, Agrees, span, hday, hcell]
    split_ifs
    · omega
    · omega
  all_goals
    simp only [cells, getUNIXPeriod, Agrees, span, hminute, hhour, hday, iff_true]
    omega

/-! ### Reports that are found unfinished -/

/-- A report that was begun at `b` and is found unfinished goes on before `b'` and is completed and
begun anew from then on. -/
def ResumesUntil (p : Period) (b b' : ℕ) : Prop :=
  ∀ (L : Layout) (r : Report L) (inp : ReportInput L) (t : ℕ), r.type = .periodic →
    r.period = p → r.status = .idle → r.present.timeStart = clock b → inp.cur = clock t →
    if t < b' then
      (r.cycle isoNumber inp).2 = none ∧ (r.cycle isoNumber inp).1.status = .running ∧
        (r.cycle isoNumber inp).1.present.timeStart = clock b
    else
      (r.cycle isoNumber inp).2.isSome = true ∧ (r.cycle isoNumber inp).1.status = .running ∧
        (r.cycle isoNumber inp).1.present.timeStart = inp.begin

lemma resumesUntil_length (hb : 0 < b) :
    p.ResumesUntil b (b + p.getUNIXPeriod (localtime b)) := by
  intro L r inp t htype hperiod hstatus hstart hcur
  have hunix : (clock b).unix ≠ 0 := Int.natCast_ne_zero.mpr hb.ne'
  have hover : ((p.getUNIXPeriod (localtime b) : ℕ) : ℤ) ≤ (clock t).unix - (clock b).unix ↔
      ¬ t < b + p.getUNIXPeriod (localtime b) := by
    simp only [clock]
    omega
  have htm : (clock b).tm = localtime b := rfl
  by_cases ht : t < b + p.getUNIXPeriod (localtime b)
  · rw [if_pos ht]
    simp [Report.cycle, Report.calculate, Report.periodic, Report.average, htype, hstatus, hstart,
      hcur, hunix, hperiod, htm, hover, ht]
  · rw [if_neg ht]
    simp [Report.cycle, Report.calculate, Report.periodic, Report.average, Report.close,
      Report.start, htype, hstatus, hstart, hcur, hunix, hperiod, htm, hover, ht]

/-- The length leads from a boundary to the next one. -/
def Spans (p : Period) (b : ℕ) : Prop :=
  ∃ b', p.Next b b' ∧ b + p.getUNIXPeriod (localtime b) = b' ∧ p.ResumesUntil b b'

/-- The length of the period that begins at a boundary leads to the next one if and only if the date
meets the condition. -/
theorem spans_iff (h : p.Recognised b) : p.Spans b ↔ p.Agrees b := by
  obtain ⟨c, rfl⟩ := exists_start h
  obtain ⟨hpos, hclosing⟩ := (recognised_start p c).mp h
  have hnext := next_start hpos hclosing
  rw [← getUNIXPeriod_iff hclosing]
  constructor
  · rintro ⟨b', hb', hlength, -⟩
    rw [hlength, hnext.unique hb']
  · intro hlength
    refine ⟨_, hnext, hlength, ?_⟩
    rw [← hlength]
    exact resumesUntil_length (p.cells.start_pos_iff.mpr hpos)

/-- The quarter that begins in February 1972, by `spans_iff`. -/
theorem spans_iff_leap : quarterly.Recognised (monthCells.start 25) ∧
    quarterly.Spans (monthCells.start 25) := by
  have h : quarterly.Recognised (monthCells.start 25) :=
    (recognised_start quarterly 25).mpr ⟨by decide, rfl⟩
  refine ⟨h, (spans_iff h).mpr ⟨?_, fun _ => ?_⟩⟩
  · rw [localtime_month]
    decide
  · rw [localtime_year]
    decide

/-- February 1970 is given the 31 days of January. -/
theorem spans_fails : ¬ ∀ (p : Period) (b : ℕ), p.Recognised b → p.Spans b := by
  intro h
  obtain ⟨b', hb', hlength, -⟩ :=
    h monthly (monthCells.start 1) ((recognised_start monthly 1).mpr ⟨by decide, trivial⟩)
  have hnext := next_start (p := monthly) (c := 1) (by decide) trivial
  rw [hb'.unique hnext] at hlength
  have hmonth := (monthly_length 1).mp hlength
  rw [Agrees, localtime_month] at hmonth
  exact absurd hmonth (by decide)

end Period

end Tritonn
