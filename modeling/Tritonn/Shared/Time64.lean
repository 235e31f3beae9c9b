import Tritonn.Shared.Utc

/-!
`gmtime64_r` and `timegm64` of `src/shared/time64.c`, with their loops.

* `gmtime64R` is `gmtime64_r`: it skips to 2008 and whole Gregorian cycles, and counts the years and
  the months from there, forwards or backwards; it gives no date if the year is no `int`;
* `timegm64` is the way back;
* `IsDate` says of a broken-down time that its fields are those of a date of the Gregorian calendar,
  with the weekday and the day of the year.

`gmtime64R_eq` and `timegm64_eq` say that the loops end inside the tables and compute the closed
forms of `gmtime64` and `timegm`; `gmtime64R_iff` that the two functions are inverse to each other,
between the moments and the dates.
-/

namespace Tritonn

open Proleptic

namespace Time64

/-! ### The functions of the source -/

/-- `IS_LEAP`, of a year from 1900 on. -/
def isLeap (n : ℤ) : Fin 2 :=
  if (n + 1900).tmod 400 = 0 ∨ (n + 1900).tmod 4 = 0 ∧ (n + 1900).tmod 100 ≠ 0 then 1 else 0

/-- `IS_LEAP_ABS`, of a year from zero on. -/
def isLeapAbs (n : ℤ) : Fin 2 :=
  if n.tmod 400 = 0 ∨ n.tmod 4 = 0 ∧ n.tmod 100 ≠ 0 ∧ 0 < n then 1 else 0

/-- `length_of_year`. -/
def lengthOfYear : Fin 2 → ℤ := ![365, 366]

/-- `days_in_month`. -/
def daysInMonth : Fin 2 → List ℤ :=
  ![[31, 28, 31, 30, 31, 30, 31, 31, 30, 31, 30, 31],
    [31, 29, 31, 30, 31, 30, 31, 31, 30, 31, 30, 31]]

/-- `julian_days_by_month`. -/
def julianDaysByMonth : Fin 2 → List ℤ :=
  ![[0, 31, 59, 90, 120, 151, 181, 212, 243, 273, 304, 334],
    [0, 31, 60, 91, 121, 152, 182, 213, 244, 274, 305, 335]]

/-- `days_in_gregorian_cycle`. -/
def daysInGregorianCycle : ℤ := 365 * 400 + 100 - 4 + 1

/-- `CHEAT_DAYS`. -/
def cheatDays : ℤ := 1199145600 / 24 / 60 / 60

/-- `WRAP_TIME64`. -/
def wrapTime64 (a b m : ℤ) : ℤ × ℤ := if a < 0 then (a + m, b - 1) else (a, b)

/-- The loop over the years from the epoch on; without result if it takes more turns. -/
def yearsUp : ℕ → ℤ → ℤ → Option (ℤ × ℤ)
  | 0, _, _ => none
  | n + 1, m, year =>
      if lengthOfYear (isLeap year) ≤ m then yearsUp n (m - lengthOfYear (isLeap year)) (year + 1)
      else some (m, year)

/-- The loop over the years before it. -/
def yearsDown : ℕ → ℤ → ℤ → Option (ℤ × ℤ)
  | 0, _, _ => none
  | n + 1, m, year =>
      if m < -lengthOfYear (isLeap year) then
        yearsDown n (m + lengthOfYear (isLeap year)) (year - 1)
      else some (m, year)

/-- The loop over the months, along a row of the table; undefined behind its end. -/
def monthsUp : List ℤ → ℤ → ℕ → Option (ℤ × ℕ)
  | [], _, _ => none
  | d :: row, m, mon => if d ≤ m then monthsUp row (m - d) (mon + 1) else some (m, mon)

/-- The loop from the last month back, along the reversed row, with the line behind it. -/
def monthsDown : List ℤ → ℤ → ℕ → Option (ℤ × ℕ)
  | [], _, _ => none
  | d :: row, m, mon => if m < -d then monthsDown row (m + d) (mon - 1) else some (m + d, mon)

/-- The day of the month, the month and the year of a day. -/
def yearAndMonth (day : ℤ) : Option (ℤ × ℕ × ℤ) :=
  let (m, year) := if cheatDays ≤ day then (day - cheatDays, 108) else (day, 70)
  if 0 ≤ m then do
    let cycles := m.tdiv daysInGregorianCycle
    let (m, year) ← yearsUp 401 (m - cycles * daysInGregorianCycle) (year + cycles * 400)
    let (m, mon) ← monthsUp (daysInMonth (isLeap year)) m 0
    some (m, mon, year)
  else do
    let cycles := m.tdiv daysInGregorianCycle + 1
    let (m, year) ← yearsDown 801 (m - cycles * daysInGregorianCycle) (year - 1 + cycles * 400)
    let (m, mon) ← monthsDown (daysInMonth (isLeap year)).reverse m 11
    some (m, mon, year)

/-- The second, the minute, the hour and the day of a moment. -/
def clock (time : ℤ) : ℤ × ℤ × ℤ × ℤ :=
  let (sec, min) := wrapTime64 (time.tmod 60) ((time.tdiv 60).tmod 60) 60
  let (min, hour) := wrapTime64 min (((time.tdiv 60).tdiv 60).tmod 24) 60
  let (hour, tday) := wrapTime64 hour (((time.tdiv 60).tdiv 60).tdiv 24) 24
  (sec, min, hour, tday)

/-- `check_tm`, which also lets a leap second pass; false if the month is outside of the table. -/
def checkTm (tm : TM) : Bool :=
  0 ≤ tm.sec && tm.sec ≤ 60 && 0 ≤ tm.min && tm.min ≤ 59 && 0 ≤ tm.hour && tm.hour ≤ 23 &&
    1 ≤ tm.mday && 0 ≤ tm.mon && (daysInMonth (isLeap tm.year))[tm.mon.toNat]?.any (tm.mday ≤ ·) &&
    tm.mon ≤ 11 && 0 ≤ tm.wday && tm.wday ≤ 6 &&
    0 ≤ tm.yday && tm.yday ≤ lengthOfYear (isLeap tm.year)

/-- `gmtime64_r`: a date, unless its year is no `int`; undefined if a loop takes more turns than it
is given or leaves the table, or if an assertion fails. -/
def gmtime64R (inTime : ℤ) : Option (Option TM) := do
  let (sec, min, hour, tday) := clock inTime
  let wday := (tday + 4).tmod 7
  let wday := if wday < 0 then wday + 7 else wday
  let (m, mon, year) ← yearAndMonth tday
  if (Int32.ofInt year).toInt ≠ year then some none
  else do
    let start ← (julianDaysByMonth (isLeap year))[mon]?
    let p : TM := ⟨sec, min, hour, m + 1, mon, year, wday, start + m⟩
    if checkTm p then some (some p) else none

/-- The loop of `timegm64` from 1970 on. -/
def daysUp : ℕ → ℤ → ℤ → ℤ → Option ℤ
  | 0, _, _, _ => none
  | n + 1, year, origYear, days =>
      if year < origYear then daysUp n (year + 1) origYear (days + lengthOfYear (isLeap year))
      else some days

/-- The loop before it, which is run once at least. -/
def daysDown : ℕ → ℤ → ℤ → ℤ → Option ℤ
  | 0, _, _, _ => none
  | n + 1, year, origYear, days =>
      if origYear ≤ year - 1 then
        daysDown n (year - 1) origYear (days - lengthOfYear (isLeap year))
      else some (days - lengthOfYear (isLeap year))

/-- The days before a year, which are added to those that are there. -/
def daysTo (origYear days : ℤ) : Option ℤ :=
  if 70 < origYear then daysUp 500 70 origYear days
  else if origYear < 70 then daysDown 500 69 origYear days
  else some days

/-- An entry of a row of `julian_days_by_month`; undefined outside of it. -/
def julianDay (leap : Fin 2) (mon : ℤ) : Option ℤ :=
  if mon < 0 then none else (julianDaysByMonth leap)[mon.toNat]?

/-- `timegm64`. -/
def timegm64 (date : TM) : Option ℤ := do
  let cycles := if 100 < date.year ∨ date.year < -300 then (date.year - 100).tdiv 400 else 0
  let origYear := date.year - cycles * 400
  let days := cycles * daysInGregorianCycle
  let days ← daysTo origYear days
  let start ← julianDay (isLeap origYear) date.mon
  let days := days + start + (date.mday - 1)
  some (days * 60 * 60 * 24 + date.hour * 60 * 60 + date.min * 60 + date.sec)

/-! ### The tables -/

lemma isLeap_eq (n : ℤ) : isLeap n = if IsLeap (n + 1900) then 1 else 0 := by
  have hmod (k : ℤ) : (n + 1900).tmod k = 0 ↔ (n + 1900) % k = 0 := by
    rw [← Int.dvd_iff_tmod_eq_zero, Int.dvd_iff_emod_eq_zero]
  have hiff : ((n + 1900).tmod 400 = 0 ∨ (n + 1900).tmod 4 = 0 ∧ (n + 1900).tmod 100 ≠ 0) ↔
      IsLeap (n + 1900) := by
    rw [ne_eq, hmod, hmod, hmod, IsLeap]
    omega
  rw [isLeap, if_congr hiff rfl rfl]

lemma lengthOfYear_isLeap (n : ℤ) : lengthOfYear (isLeap n) = yearLength (n + 1900) := by
  rw [isLeap_eq, yearLength_eq]
  split_ifs
  · rfl
  · rfl

lemma julianDaysByMonth_isLeap (n : ℤ) : julianDaysByMonth (isLeap n) = julianDays (n + 1900) := by
  rw [isLeap_eq, julianDays]
  split_ifs
  · rfl
  · rfl

lemma yearStart_succ (n : ℤ) :
    yearStart (n + 1 + 1900) = yearStart (n + 1900) + lengthOfYear (isLeap n) := by
  rw [lengthOfYear_isLeap, yearLength, add_right_comm]
  ring

lemma length_pos (n : ℤ) : 365 ≤ lengthOfYear (isLeap n) := by
  rw [lengthOfYear_isLeap]
  have h := yearLength_cases (n + 1900)
  omega

/-- A Gregorian cycle more. -/
lemma yearStart_cycles (y c : ℤ) :
    yearStart (y + c * 400) = yearStart y + c * daysInGregorianCycle := by
  rw [yearStart, yearStart, daysInGregorianCycle]
  omega

/-! ### The loops of `gmtime64_r` -/

/-- The years are counted up to that of the day. -/
lemma yearsUp_eq {n : ℕ} {m year : ℤ} (h0 : 0 ≤ m) (hn : m < 365 * n) :
    yearsUp n m year = some (yearDay (yearStart (year + 1900) + m),
      yearOf (yearStart (year + 1900) + m) - 1900) := by
  induction n generalizing m year with
  | zero => omega
  | succ n ih =>
      have hpos := length_pos year
      have hsucc := yearStart_succ year
      rw [yearsUp]
      by_cases hle : lengthOfYear (isLeap year) ≤ m
      · rw [if_pos hle, ih (by omega) (by push_cast at hn; omega), hsucc]
        rw [show yearStart (year + 1900) + lengthOfYear (isLeap year) +
          (m - lengthOfYear (isLeap year)) = yearStart (year + 1900) + m by ring]
      · have hyear : yearOf (yearStart (year + 1900) + m) = year + 1900 :=
          yearOf_eq (by omega) (by rw [add_right_comm, hsucc]; omega)
        rw [if_neg hle, yearDay, hyear, add_sub_cancel_left, add_sub_cancel_right]

/-- The years are counted down to that of the day, whose distance to the next year is left. -/
lemma yearsDown_eq {n : ℕ} {m year : ℤ} (h0 : m < 0) (hn : -m ≤ 365 * n) :
    yearsDown n m year =
      some (yearDay (yearStart (year + 1 + 1900) + m) -
          yearLength (yearOf (yearStart (year + 1 + 1900) + m)),
        yearOf (yearStart (year + 1 + 1900) + m) - 1900) := by
  induction n generalizing m year with
  | zero => omega
  | succ n ih =>
      have hpos := length_pos year
      have hsucc := yearStart_succ year
      rw [yearsDown]
      by_cases hlt : m < -lengthOfYear (isLeap year)
      · rw [if_pos hlt, ih (by omega) (by push_cast at hn; omega), sub_add_cancel, hsucc]
        rw [show yearStart (year + 1900) + (m + lengthOfYear (isLeap year)) =
          yearStart (year + 1900) + lengthOfYear (isLeap year) + m by ring]
      · have hyear : yearOf (yearStart (year + 1 + 1900) + m) = year + 1900 :=
          yearOf_eq (by omega) (by rw [add_right_comm year 1900 1]; omega)
        rw [if_neg hlt, yearDay, hyear, ← lengthOfYear_isLeap, add_sub_cancel_right, hsucc]
        congr 2
        ring

/-- The month of a day, from the table of their first days. -/
def monthAt (leap : Fin 2) (yday : ℤ) : ℕ := (julianDaysByMonth leap).countP (· ≤ yday) - 1

/-- Along the rows of the tables the days of a year are counted off up to their month, from both
ends. -/
lemma months_eq_of_fin : ∀ (leap : Fin 2) (yday : Fin 366), (yday : ℤ) < lengthOfYear leap →
    (julianDaysByMonth leap)[monthAt leap yday]? =
        some ((julianDaysByMonth leap).getD (monthAt leap yday) 0) ∧
      monthsUp (daysInMonth leap) yday 0 =
        some (yday - (julianDaysByMonth leap).getD (monthAt leap yday) 0, monthAt leap yday) ∧
      monthsDown (daysInMonth leap).reverse (yday - lengthOfYear leap) 11 =
        some (yday - (julianDaysByMonth leap).getD (monthAt leap yday) 0, monthAt leap yday) := by
  decide +kernel

lemma monthAt_isLeap (n yday : ℤ) : monthAt (isLeap n) yday = monthOfDay (n + 1900) yday := by
  rw [monthAt, julianDaysByMonth_isLeap, monthOfDay]

/-- The same for a day of a year. -/
lemma months_eq (day : ℤ) :
    (julianDaysByMonth (isLeap (yearOf day - 1900)))[monthOfDay (yearOf day) (yearDay day)]? =
        some ((julianDays (yearOf day)).getD (monthOfDay (yearOf day) (yearDay day)) 0) ∧
      monthsUp (daysInMonth (isLeap (yearOf day - 1900))) (yearDay day) 0 =
        some (yearDay day - (julianDays (yearOf day)).getD
          (monthOfDay (yearOf day) (yearDay day)) 0, monthOfDay (yearOf day) (yearDay day)) ∧
      monthsDown (daysInMonth (isLeap (yearOf day - 1900))).reverse
          (yearDay day - yearLength (yearOf day)) 11 =
        some (yearDay day - (julianDays (yearOf day)).getD
          (monthOfDay (yearOf day) (yearDay day)) 0, monthOfDay (yearOf day) (yearDay day)) := by
  have h0 := yearDay_nonneg day
  have hlt := yearDay_lt day
  have hcases := yearLength_cases (yearOf day)
  have hlen := lengthOfYear_isLeap (yearOf day - 1900)
  have hmon := monthAt_isLeap (yearOf day - 1900) (yearDay day)
  have hjulian := julianDaysByMonth_isLeap (yearOf day - 1900)
  rw [sub_add_cancel] at hlen hmon hjulian
  obtain ⟨k, hk⟩ : ∃ k : Fin 366, (k : ℤ) = yearDay day :=
    ⟨⟨(yearDay day).toNat, by omega⟩, by simp only; omega⟩
  have h := months_eq_of_fin (isLeap (yearOf day - 1900)) k (by omega)
  rw [hk, hmon, hlen, hjulian] at h
  rwa [hjulian]

/-- The year, the month and the day of the month of a day. -/
lemma yearAndMonth_eq (day : ℤ) :
    yearAndMonth day = some (yearDay day - (julianDays (yearOf day)).getD
      (monthOfDay (yearOf day) (yearDay day)) 0, monthOfDay (yearOf day) (yearDay day),
      yearOf day - 1900) := by
  obtain ⟨-, hup, hdown⟩ := months_eq day
  obtain ⟨m, year, hm, hday⟩ : ∃ m year : ℤ,
      (if cheatDays ≤ day then (day - cheatDays, 108) else (day, (70 : ℤ))) = (m, year) ∧
        day = yearStart (year + 1900) + m := by
    split_ifs
    · exact ⟨_, _, rfl, (add_sub_cancel _ _).symm⟩
    · exact ⟨_, _, rfl, (zero_add _).symm⟩
  rw [yearAndMonth, hm]
  dsimp only
  by_cases h0 : 0 ≤ m
  · have hcycle : yearStart (year + m.tdiv daysInGregorianCycle * 400 + 1900) +
        (m - m.tdiv daysInGregorianCycle * daysInGregorianCycle) = day := by
      rw [add_right_comm, yearStart_cycles, hday]
      ring
    have hyears : yearsUp 401 (m - m.tdiv daysInGregorianCycle * daysInGregorianCycle)
        (year + m.tdiv daysInGregorianCycle * 400) = some (yearDay day, yearOf day - 1900) := by
      rw [yearsUp_eq, hcycle]
      · rw [Int.tdiv_eq_ediv_of_nonneg h0, daysInGregorianCycle]
        omega
      · rw [Int.tdiv_eq_ediv_of_nonneg h0, daysInGregorianCycle]
        omega
    rw [if_pos h0, hyears]
    simp only [Option.bind_eq_bind, Option.bind_some, hup]
  · have hcycle : yearStart (year - 1 + (m.tdiv daysInGregorianCycle + 1) * 400 + 1 + 1900) +
        (m - (m.tdiv daysInGregorianCycle + 1) * daysInGregorianCycle) = day := by
      have hshift := yearStart_cycles (year + 1900) (m.tdiv daysInGregorianCycle + 1)
      rw [show year - 1 + (m.tdiv daysInGregorianCycle + 1) * 400 + 1 + 1900 =
        year + 1900 + (m.tdiv daysInGregorianCycle + 1) * 400 by ring, hshift, hday]
      ring
    have hdiv : m.tdiv daysInGregorianCycle = -(-m / daysInGregorianCycle) := by
      rw [← neg_neg m, Int.neg_tdiv, Int.tdiv_eq_ediv_of_nonneg (by omega), neg_neg]
    have hyears : yearsDown 801 (m - (m.tdiv daysInGregorianCycle + 1) * daysInGregorianCycle)
        (year - 1 + (m.tdiv daysInGregorianCycle + 1) * 400) =
          some (yearDay day - yearLength (yearOf day), yearOf day - 1900) := by
      rw [yearsDown_eq, hcycle]
      · rw [hdiv, daysInGregorianCycle]
        omega
      · rw [hdiv, daysInGregorianCycle]
        omega
    rw [if_neg h0, hyears]
    simp only [Option.bind_eq_bind, Option.bind_some, hdown]

/-- `tm_year` is an `int`. -/
def FitsInt (year : ℤ) : Prop := -2 ^ 31 ≤ year ∧ year < 2 ^ 31

instance (year : ℤ) : Decidable (FitsInt year) := inferInstanceAs (Decidable (_ ∧ _))

lemma toInt_ofInt_iff (year : ℤ) : (Int32.ofInt year).toInt = year ↔ FitsInt year := by
  rw [Int32.toInt_ofInt, FitsInt, Int.bmod_def, show (Int32.size : ℤ) = 2 ^ 32 from rfl]
  omega

lemma wrapTime64_of_nonneg {a b m : ℤ} (h : 0 ≤ a) : wrapTime64 a b m = (a, b) :=
  if_neg (not_lt.mpr h)

lemma clock_eq (t : ℤ) : clock t = (t % 60, t / 60 % 60, t / 3600 % 24, t / 86400) := by
  rcases le_total 0 t with h | h
  · have h60 : 0 ≤ t / 60 := Int.ediv_nonneg h (by decide)
    have h3600 : 0 ≤ t / 60 / 60 := Int.ediv_nonneg h60 (by decide)
    rw [clock, Int.tdiv_eq_ediv_of_nonneg h, Int.tdiv_eq_ediv_of_nonneg h60,
      Int.tdiv_eq_ediv_of_nonneg h3600, Int.tmod_eq_emod_of_nonneg h,
      Int.tmod_eq_emod_of_nonneg h60, Int.tmod_eq_emod_of_nonneg h3600]
    rw [wrapTime64_of_nonneg (Int.emod_nonneg _ (by decide))]
    dsimp only
    rw [wrapTime64_of_nonneg (Int.emod_nonneg _ (by decide))]
    dsimp only
    rw [wrapTime64_of_nonneg (Int.emod_nonneg _ (by decide))]
    simp only [Prod.mk.injEq, true_and]
    omega
  · obtain ⟨u, rfl⟩ : ∃ u, t = -u := ⟨-t, (neg_neg t).symm⟩
    have hu : 0 ≤ u := by omega
    have h60 : 0 ≤ u / 60 := Int.ediv_nonneg hu (by decide)
    have h3600 : 0 ≤ u / 60 / 60 := Int.ediv_nonneg h60 (by decide)
    simp only [clock, Int.neg_tdiv, Int.neg_tmod]
    rw [Int.tdiv_eq_ediv_of_nonneg hu, Int.tdiv_eq_ediv_of_nonneg h60,
      Int.tdiv_eq_ediv_of_nonneg h3600, Int.tmod_eq_emod_of_nonneg hu,
      Int.tmod_eq_emod_of_nonneg h60, Int.tmod_eq_emod_of_nonneg h3600]
    simp only [wrapTime64]
    split_ifs
    all_goals
      simp only [Prod.mk.injEq]
      omega

/-! ### The dates -/

/-- The fields are those of a date: the parts of the day, the month and its day in their ranges, and
the number of the day in its year and its weekday as they follow. -/
structure IsDate (tm : TM) : Prop where
  year : FitsInt tm.year
  sec : 0 ≤ tm.sec ∧ tm.sec < 60
  min : 0 ≤ tm.min ∧ tm.min < 60
  hour : 0 ≤ tm.hour ∧ tm.hour < 24
  mon : 0 ≤ tm.mon ∧ tm.mon < 12
  mday : 1 ≤ tm.mday ∧ tm.mday ≤ (daysInMonth (isLeap tm.year)).getD tm.mon.toNat 0
  yday : tm.yday = (julianDaysByMonth (isLeap tm.year)).getD tm.mon.toNat 0 + tm.mday - 1
  wday : tm.wday = weekDay (yearStart (tm.year + 1900) + tm.yday)

/-- A day of a year is in its month. -/
lemma monthAt_of_fin : ∀ (leap : Fin 2) (yday : Fin 366), (yday : ℤ) < lengthOfYear leap →
    (julianDaysByMonth leap).getD (monthAt leap yday) 0 ≤ yday ∧
      (yday : ℤ) < (julianDaysByMonth leap).getD (monthAt leap yday) 0 +
        (daysInMonth leap).getD (monthAt leap yday) 0 := by
  decide +kernel

/-- A day of a month is one of the year, and its month is that month. -/
lemma monthAt_start_of_fin : ∀ (leap : Fin 2) (mon : Fin 12) (mday : Fin 31),
    (mday : ℤ) < (daysInMonth leap).getD mon 0 →
      monthAt leap ((julianDaysByMonth leap).getD mon 0 + mday) = mon ∧
        0 ≤ (julianDaysByMonth leap).getD mon 0 ∧
        (julianDaysByMonth leap).getD mon 0 + mday < lengthOfYear leap := by
  decide +kernel

/-- A date passes the assertions. -/
lemma IsDate.checkTm {tm : TM} (h : IsDate tm) : Time64.checkTm tm = true := by
  obtain ⟨-, ⟨hs, hs'⟩, ⟨hm, hm'⟩, ⟨hh, hh'⟩, ⟨hmon, hmon'⟩, ⟨hd, hd'⟩, hyday, hwday⟩ := h
  obtain ⟨hw, hw'⟩ := weekDay_mem (yearStart (tm.year + 1900) + tm.yday)
  have hlength : ∀ leap (i : Fin 12), (daysInMonth leap)[i.val]? =
      some ((daysInMonth leap).getD i 0) ∧ (daysInMonth leap).getD i 0 ≤ 31 := by decide
  obtain ⟨hget, h31⟩ := hlength (isLeap tm.year) ⟨tm.mon.toNat, by omega⟩
  dsimp only at hget h31
  obtain ⟨-, hstart, hlt⟩ := monthAt_start_of_fin (isLeap tm.year) ⟨tm.mon.toNat, by omega⟩
    ⟨(tm.mday - 1).toNat, by omega⟩ (by dsimp only; omega)
  dsimp only at hstart hlt
  rw [Time64.checkTm, hget, Option.any_some]
  simp only [Bool.and_eq_true, decide_eq_true_eq]
  omega

/-- The closed form gives dates. -/
lemma isDate_gmtime64 {t : ℤ} (h : FitsInt (yearOf (t / 86400) - 1900)) : IsDate (gmtime64 t) := by
  have h0 := yearDay_nonneg (t / 86400)
  have hlt := yearDay_lt (t / 86400)
  have hcases := yearLength_cases (yearOf (t / 86400))
  have hlen := lengthOfYear_isLeap (yearOf (t / 86400) - 1900)
  have hmon := monthAt_isLeap (yearOf (t / 86400) - 1900) (yearDay (t / 86400))
  have hjulian := julianDaysByMonth_isLeap (yearOf (t / 86400) - 1900)
  have hmonth := monthOfDay_lt (yearOf (t / 86400)) (yearDay (t / 86400))
  rw [sub_add_cancel] at hlen hmon hjulian
  obtain ⟨k, hk⟩ : ∃ k : Fin 366, (k : ℤ) = yearDay (t / 86400) :=
    ⟨⟨(yearDay (t / 86400)).toNat, by omega⟩, by simp only; omega⟩
  obtain ⟨hle, hlt'⟩ := monthAt_of_fin (isLeap (yearOf (t / 86400) - 1900)) k (by omega)
  rw [hk, hmon, hjulian] at hle hlt'
  have hnat : (gmtime64 t).mon.toNat = monthOfDay (yearOf (t / 86400)) (yearDay (t / 86400)) := by
    simp only [gmtime64]
    omega
  constructor
  case year => exact h
  case sec => exact ⟨Int.emod_nonneg _ (by decide), Int.emod_lt_of_pos _ (by decide)⟩
  case min => exact ⟨Int.emod_nonneg _ (by decide), Int.emod_lt_of_pos _ (by decide)⟩
  case hour => exact ⟨Int.emod_nonneg _ (by decide), Int.emod_lt_of_pos _ (by decide)⟩
  case mon =>
    simp only [gmtime64]
    omega
  case mday =>
    rw [hnat]
    simp only [gmtime64]
    omega
  case yday =>
    rw [hnat]
    simp only [gmtime64, hjulian]
    ring
  case wday =>
    simp only [gmtime64]
    rw [sub_add_cancel, ← eq_yearStart_add]

/-- `gmtime64_r` gives the date of the closed form, if its year is an `int`. -/
theorem gmtime64R_eq (t : ℤ) :
    gmtime64R t =
      some (if FitsInt (yearOf (t / 86400) - 1900) then some (gmtime64 t) else none) := by
  obtain ⟨hstart, -, -⟩ := months_eq (t / 86400)
  have hwday : (if (t / 86400 + 4).tmod 7 < 0 then (t / 86400 + 4).tmod 7 + 7
      else (t / 86400 + 4).tmod 7) = weekDay (t / 86400) := by
    rw [weekDay]
    rcases le_total 0 (t / 86400 + 4) with h | h
    · rw [Int.tmod_eq_emod_of_nonneg h, if_neg (by omega)]
    · rw [show t / 86400 + 4 = -(-(t / 86400 + 4)) by ring, Int.neg_tmod,
        Int.tmod_eq_emod_of_nonneg (by omega)]
      split_ifs
      all_goals omega
  rw [gmtime64R, clock_eq]
  simp only [yearAndMonth_eq, Option.bind_eq_bind, Option.bind_some, hwday, ne_eq, toInt_ofInt_iff]
  by_cases hfits : FitsInt (yearOf (t / 86400) - 1900)
  · have hp : (⟨t % 60, t / 60 % 60, t / 3600 % 24, yearDay (t / 86400) -
        (julianDays (yearOf (t / 86400))).getD
          (monthOfDay (yearOf (t / 86400)) (yearDay (t / 86400))) 0 + 1,
        monthOfDay (yearOf (t / 86400)) (yearDay (t / 86400)), yearOf (t / 86400) - 1900,
        weekDay (t / 86400), (julianDays (yearOf (t / 86400))).getD
          (monthOfDay (yearOf (t / 86400)) (yearDay (t / 86400))) 0 + (yearDay (t / 86400) -
        (julianDays (yearOf (t / 86400))).getD
          (monthOfDay (yearOf (t / 86400)) (yearDay (t / 86400))) 0)⟩ : TM) = gmtime64 t := by
      rw [add_sub_cancel, gmtime64]
    rw [if_neg (not_not.mpr hfits), if_pos hfits, hstart, Option.bind_some, hp,
      if_pos (isDate_gmtime64 hfits).checkTm]
  · rw [if_pos hfits, if_neg hfits]

/-! ### The way back -/

lemma daysUp_eq {n : ℕ} {year origYear days : ℤ} (h : year ≤ origYear) (hn : origYear - year < n) :
    daysUp n year origYear days =
      some (days + yearStart (origYear + 1900) - yearStart (year + 1900)) := by
  induction n generalizing year days with
  | zero => omega
  | succ n ih =>
      rw [daysUp]
      by_cases hlt : year < origYear
      · rw [if_pos hlt, ih (by omega) (by push_cast at hn; omega), yearStart_succ]
        congr 1
        ring
      · rw [if_neg hlt, le_antisymm h (not_lt.mp hlt), add_sub_cancel_right]

lemma daysDown_eq {n : ℕ} {year origYear days : ℤ} (h : origYear ≤ year)
    (hn : year - origYear < n) :
    daysDown n year origYear days =
      some (days + yearStart (origYear + 1900) - yearStart (year + 1 + 1900)) := by
  induction n generalizing year days with
  | zero => omega
  | succ n ih =>
      have hsucc := yearStart_succ year
      rw [daysDown]
      by_cases hle : origYear ≤ year - 1
      · rw [if_pos hle, ih hle (by push_cast at hn; omega), sub_add_cancel, hsucc]
        congr 1
        ring
      · rw [if_neg hle, hsucc, show year = origYear by omega]
        congr 1
        ring

/-- The leap years come again with the Gregorian cycles. -/
lemma isLeap_cycles (n c : ℤ) : isLeap (n - c * 400) = isLeap n := by
  have hiff : IsLeap (n - c * 400 + 1900) ↔ IsLeap (n + 1900) := by
    rw [IsLeap, IsLeap]
    omega
  rw [isLeap_eq, isLeap_eq, if_congr hiff rfl rfl]

/-- `timegm64` gives the moment of the closed form. -/
theorem timegm64_eq {date : TM} (h0 : 0 ≤ date.mon) (h12 : date.mon < 12) :
    timegm64 date = some (timegm date) := by
  obtain ⟨c, hc⟩ : ∃ c, (if 100 < date.year ∨ date.year < -300 then (date.year - 100).tdiv 400
      else 0) = c := ⟨_, rfl⟩
  have hrange : -300 ≤ date.year - c * 400 ∧ date.year - c * 400 < 500 := by
    rcases le_total 0 (date.year - 100) with h | h
    · rw [Int.tdiv_eq_ediv_of_nonneg h] at hc
      split_ifs at hc
      all_goals omega
    · rw [show date.year - 100 = -(100 - date.year) by ring, Int.neg_tdiv,
        Int.tdiv_eq_ediv_of_nonneg (by omega)] at hc
      split_ifs at hc
      all_goals omega
  have hstart : yearStart (date.year - c * 400 + 1900) + c * daysInGregorianCycle =
      yearStart (date.year + 1900) := by
    rw [← yearStart_cycles]
    congr 1
    ring
  have h70 : yearStart (70 + 1900) = 0 := rfl
  have hdays : daysTo (date.year - c * 400) (c * daysInGregorianCycle) =
      some (yearStart (date.year + 1900)) := by
    rw [daysTo, ← hstart]
    split_ifs with hup hdown
    · rw [daysUp_eq hup.le (by push_cast; omega), h70]
      congr 1
      ring
    · rw [daysDown_eq (by omega) (by push_cast; omega), show (69 : ℤ) + 1 + 1900 = 70 + 1900 by rfl,
        h70]
      congr 1
      ring
    · rw [show date.year - c * 400 = 70 by omega, h70, zero_add]
  have hmon : julianDay (isLeap date.year) date.mon =
      some ((julianDays (date.year + 1900)).getD date.mon.toNat 0) := by
    have hlen : date.mon.toNat < (julianDaysByMonth (isLeap date.year)).length := by
      have h : ∀ leap, (julianDaysByMonth leap).length = 12 := by decide
      rw [h]
      omega
    rw [julianDay, if_neg (not_lt.mpr h0), ← julianDaysByMonth_isLeap,
      List.getElem?_eq_getElem hlen, List.getD_eq_getElem _ _ hlen]
  have hfull : fullYear date = date.year + 1900 := by
    rw [fullYear]
    omega
  have hmod : date.mon % 12 = date.mon := Int.emod_eq_of_lt h0 h12
  rw [timegm64, hc]
  dsimp only
  rw [hdays, isLeap_cycles, hmon]
  simp only [Option.bind_eq_bind, Option.bind_some]
  rw [timegm, hfull, hmod]
  congr 1
  ring

/-- A date is that of its moment. -/
lemma gmtime64_timegm {tm : TM} (h : IsDate tm) :
    yearOf (timegm tm / 86400) = tm.year + 1900 ∧ gmtime64 (timegm tm) = tm := by
  obtain ⟨sec, min, hour, mday, mon, year, wday, yday⟩ := tm
  obtain ⟨-, ⟨hs, hs'⟩, ⟨hm, hm'⟩, ⟨hh, hh'⟩, ⟨hmon, hmon'⟩, ⟨hd, hd'⟩, hyday, hwday⟩ := h
  dsimp only at hs hs' hm hm' hh hh' hmon hmon' hd hd' hyday hwday ⊢
  obtain ⟨k, rfl⟩ : ∃ k : ℕ, mon = k := ⟨mon.toNat, by omega⟩
  rw [Int.toNat_natCast] at hd' hyday
  have hlength : ∀ leap (i : Fin 12), (daysInMonth leap).getD i 0 ≤ 31 := by decide
  have h31 := hlength (isLeap year) ⟨k, by omega⟩
  dsimp only at h31
  obtain ⟨hmonth, hstart, hlt⟩ := monthAt_start_of_fin (isLeap year) ⟨k, by omega⟩
    ⟨(mday - 1).toNat, by omega⟩ (by dsimp only; omega)
  dsimp only at hmonth hstart hlt
  have hfull : fullYear ⟨sec, min, hour, mday, k, year, wday, yday⟩ = year + 1900 := by
    rw [fullYear]
    dsimp only
    omega
  have hday : timegm ⟨sec, min, hour, mday, k, year, wday, yday⟩ =
      86400 * (yearStart (year + 1900) + yday) + (3600 * hour + 60 * min + sec) := by
    have hmod : ((k : ℤ) % 12).toNat = k := by omega
    rw [timegm, hfull, hyday, julianDaysByMonth_isLeap]
    dsimp only
    rw [hmod]
    ring
  generalize timegm ⟨sec, min, hour, mday, k, year, wday, yday⟩ = t at hday ⊢
  have hdiv : t / 86400 = yearStart (year + 1900) + yday := by omega
  have hshift : (julianDaysByMonth (isLeap year)).getD k 0 + ((mday - 1).toNat : ℤ) = yday := by
    omega
  rw [hshift] at hmonth hlt
  have hyear : yearOf (yearStart (year + 1900) + yday) = year + 1900 := by
    have hnext := yearStart_succ year
    exact yearOf_eq (by omega) (by rw [add_right_comm year 1900 1]; omega)
  have hyd : yearDay (yearStart (year + 1900) + yday) = yday := by
    rw [yearDay, hyear]
    ring
  refine ⟨by rw [hdiv, hyear], ?_⟩
  rw [gmtime64, hdiv, hyear, hyd, ← monthAt_isLeap, hmonth, ← julianDaysByMonth_isLeap, ← hwday,
    TM.mk.injEq]
  refine ⟨?_, ?_, ?_, ?_, rfl, add_sub_cancel_right _ _, rfl, rfl⟩
  all_goals omega

/-- `gmtime64_r` is never undefined and gives no date exactly if the year is no `int`; its dates are
those of the calendar, and `timegm64` leads from each of them, and from no other, back to the
moment. -/
theorem gmtime64R_iff (t : ℤ) :
    (∃ date, gmtime64R t = some date ∧ (date = none ↔ ¬ FitsInt (yearOf (t / 86400) - 1900))) ∧
      ∀ tm, gmtime64R t = some (some tm) ↔ IsDate tm ∧ timegm64 tm = some t := by
  refine ⟨⟨_, gmtime64R_eq t, ?_⟩, fun tm => ⟨fun h => ?_, fun ⟨hdate, h⟩ => ?_⟩⟩
  · by_cases hfits : FitsInt (yearOf (t / 86400) - 1900)
    · rw [if_pos hfits]
      exact iff_of_false (Option.some_ne_none _) (not_not.mpr hfits)
    · rw [if_neg hfits]
      exact iff_of_true rfl hfits
  · rw [gmtime64R_eq] at h
    split_ifs at h with hfits
    · obtain rfl := Option.some.inj (Option.some.inj h)
      have hdate := isDate_gmtime64 hfits
      exact ⟨hdate, by rw [timegm64_eq hdate.mon.1 hdate.mon.2, timegm_gmtime64]⟩
    · cases h
  · rw [timegm64_eq hdate.mon.1 hdate.mon.2] at h
    obtain rfl := Option.some.inj h
    obtain ⟨hyear, hgm⟩ := gmtime64_timegm hdate
    rw [gmtime64R_eq, hyear, add_sub_cancel_right, if_pos hdate.year, hgm]

/-- The leap day of the year before Christ has a moment. -/
example : (gmtime64R (-62162121600)).map (Option.map fun tm => (tm.mday, tm.mon, tm.year)) =
    some (some (29, 1, -1900)) := by decide +kernel

end Time64

end Tritonn
