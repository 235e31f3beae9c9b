import Tritonn.Shared.Utc

/-!
The clock of the reports: `src/shared/common.cpp` (`IsLeapYear`, `DayInMonthShift`) and the period
functions of `src/tritonn/data_report.cpp`.

* `getUNIXPeriod` is the length of a period by the calendar of its start;
* `checkFinish` decides from two broken-down times whether a period has ended between
  them, and `checkedTM` is what it leaves of the later one;
* `weekNumber` is `WeekNumber`, over the functions of `src/shared/time64.c`.

The reports and their theorems take the number of the week as a parameter, which is a function with
the side effect of `WeekNumber`: the broken-down time that it is given is changed.
-/

namespace Tritonn

/-- `rReportTime`. -/
structure ReportTime where
  unix : ℤ
  tm : TM
  deriving DecidableEq

/-- `IsLeapYear`, with the condition of the source. -/
def isLeapYear (year : UInt16) : UInt16 :=
  if year % 4 = 0 ∧ year % 100 ≠ 0 ∧ year % 400 = 0 then 1 else 0

/-- The table `days` of `DayInMonthShift`. -/
def days : List UInt16 := [31, 28, 31, 30, 31, 30, 31, 31, 30, 31, 30, 31]

/-- `DayInMonthShift`, for months that may lie beyond the end of the year. -/
def dayInMonthShift (year month : UInt16) : UInt16 :=
  if month = 0 then 0
  else if 12 < month then dayInMonthShift (year + 1) (month - 12)
  else if month = 2 then days.getD 1 0 + isLeapYear year
  else days.getD (month - 1).toNat 0
termination_by month.toNat
decreasing_by
  rename_i h
  have h12 : 12 < month.toNat := by simpa [UInt16.lt_iff_toNat_lt] using h
  rw [UInt16.toNat_sub_of_le _ _ (by simpa [UInt16.le_iff_toNat_le] using h12.le)]
  simp only [UInt16.reduceToNat]
  omega

/-- What `WeekNumber` uses of `time64.c`: `mktime64`, with the broken-down time that it leaves, and
`gmtime64_r`. -/
structure Time64 where
  mktime : TM → ℤ × TM
  gmtime : ℤ → TM

/-- The table `iso8601` of `WeekNumber`. -/
def iso8601 : List ℤ := [6, 7, 8, 9, 10, 4, 5]

/-- `WeekNumber`, with the broken-down time that it leaves behind its reference. `depth` bounds the
calls of itself: they are as many as the stack of the program holds, and what it returns without
any is of no account. -/
def weekNumber (lib : Time64) : ℕ → TM → ℕ × TM
  | 0, curtm => (0, curtm)
  | depth + 1, curtm =>
      let (curtime, curtm) := lib.mktime curtm
      let startOfYear := curtime - curtm.yday
      let endOfYear := curtime + (365 + (isLeapYear (.ofInt curtm.year)).toNat - curtm.yday)
      let nds := curtm.yday + iso8601.getD (lib.gmtime startOfYear).wday.toNat 0
      let wk := nds.tdiv 7
      if wk = 0 then ((weekNumber lib depth (lib.gmtime (startOfYear - 1))).1, curtm)
      else if wk = 53 ∧ (lib.gmtime endOfYear).wday < 4 then (1, curtm)
      else (wk.toNat, curtm)

/-- `rReport::Period`. -/
inductive Period where
  | hour
  | hour2
  | hour3
  | hour4
  | hour6
  | hour8
  | hour12
  | dayly
  | weekly
  | biweekly
  | monthly
  | quarterly
  | annual
  | min5
  | min15
  deriving DecidableEq, Repr

namespace Period

/-- `rReport::GetUNIXPeriod`, in seconds, for a report that began at `ts`. -/
def getUNIXPeriod (ts : TM) : Period → ℕ
  | .hour => 3600
  | .hour2 => 3600 * 2
  | .hour3 => 3600 * 3
  | .hour4 => 3600 * 4
  | .hour6 => 3600 * 6
  | .hour8 => 3600 * 8
  | .hour12 => 3600 * 12
  | .dayly => 3600 * 24
  | .weekly => 86400 * 7
  | .biweekly => 86400 * 14
  | .monthly => 86400 * (dayInMonthShift (.ofInt ts.year) (.ofInt ts.mon)).toNat
  | .quarterly =>
      86400 * (dayInMonthShift (.ofInt ts.year) (.ofInt ts.mon)).toNat +
      86400 * (dayInMonthShift (.ofInt ts.year) (.ofInt (ts.mon + 1))).toNat +
      86400 * (dayInMonthShift (.ofInt ts.year) (.ofInt (ts.mon + 2))).toNat
  | .annual => 86400 * ((isLeapYear (.ofInt ts.year)).toNat + 365)
  | .min5 => 60 * 5
  | .min15 => 60 * 15

/-- `rReport::CheckFinishPeriodic`, between the remembered time and the present one; `%` is the
remainder of `int`. -/
def checkFinish (weekNumber : TM → ℕ × TM) (past cur : TM) : Period → Bool
  | .hour => past.hour ≠ cur.hour
  | .hour2 => past.hour ≠ cur.hour ∧ cur.hour.tmod 2 = 0
  | .hour3 => past.hour ≠ cur.hour ∧ cur.hour.tmod 3 = 0
  | .hour4 => past.hour ≠ cur.hour ∧ cur.hour.tmod 4 = 0
  | .hour6 => past.hour ≠ cur.hour ∧ cur.hour.tmod 6 = 0
  | .hour8 => past.hour ≠ cur.hour ∧ cur.hour.tmod 8 = 0
  | .hour12 => past.hour ≠ cur.hour ∧ cur.hour.tmod 12 = 0
  | .dayly => past.mday ≠ cur.mday
  | .weekly => past.wday ≠ cur.wday ∧ cur.wday = 1
  | .biweekly =>
      past.wday ≠ cur.wday ∧ cur.wday = 1 ∧ (((weekNumber cur).1 : ℤ) - 1).tmod 2 = 0
  | .monthly => past.mon ≠ cur.mon
  | .quarterly => past.mon ≠ cur.mon ∧ (cur.mon - 1).tmod 3 = 0
  | .annual => past.year ≠ cur.year
  | .min5 => past.min ≠ cur.min ∧ cur.min.tmod 5 = 0
  | .min15 => past.min ≠ cur.min ∧ cur.min.tmod 15 = 0

/-- The broken-down time of the cycle after `rReport::CheckFinishPeriodic`, which it remembers: the
present one, unless `WeekNumber` was called and has changed it. -/
def checkedTM (weekNumber : TM → ℕ × TM) (past cur : TM) : Period → TM
  | .biweekly => if past.wday ≠ cur.wday ∧ cur.wday = 1 then (weekNumber cur).2 else cur
  | _ => cur

end Period

end Tritonn
