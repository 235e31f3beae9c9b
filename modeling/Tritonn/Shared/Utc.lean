import Tritonn.Lib.Proleptic

/-!
Broken-down times and moments, as `src/shared/time64.c` has them.

* `TM` is `struct tm`;
* `gmtime64` is the broken-down time of a moment, and `timegm` the moment of a broken-down time, in
  closed form and for years in both directions.

The loops of the source that compute them are `Time64.gmtime64R` and `Time64.timegm64`.
-/

namespace Tritonn

open Proleptic

/-- The fields of `struct tm` that are read. -/
structure TM where
  sec : ℤ
  min : ℤ
  hour : ℤ
  mday : ℤ
  mon : ℤ
  year : ℤ
  wday : ℤ
  yday : ℤ
  deriving DecidableEq

/-- The row of `julian_days_by_month` for a year. -/
def julianDays (y : ℤ) : List ℤ :=
  if IsLeap y then [0, 31, 60, 91, 121, 152, 182, 213, 244, 274, 305, 335]
  else [0, 31, 59, 90, 120, 151, 181, 212, 243, 273, 304, 334]

/-- The month of a day of a year. -/
def monthOfDay (y yday : ℤ) : ℕ := (julianDays y).countP (· ≤ yday) - 1

/-- The broken-down time of a moment, by the calendar. -/
def gmtime64 (t : ℤ) : TM where
  sec := t % 60
  min := t / 60 % 60
  hour := t / 3600 % 24
  mday :=
    yearDay (t / 86400) -
      (julianDays (yearOf (t / 86400))).getD
        (monthOfDay (yearOf (t / 86400)) (yearDay (t / 86400))) 0 + 1
  mon := monthOfDay (yearOf (t / 86400)) (yearDay (t / 86400))
  year := yearOf (t / 86400) - 1900
  wday := weekDay (t / 86400)
  yday := yearDay (t / 86400)

/-- The year of a broken-down time whose month may lie outside of it. -/
def fullYear (tm : TM) : ℤ := tm.year + 1900 + tm.mon / 12

/-- The moment of a broken-down time, whose fields may lie outside of their ranges. The last two are
not used. -/
def timegm (tm : TM) : ℤ :=
  86400 * (yearStart (fullYear tm) + (julianDays (fullYear tm)).getD (tm.mon % 12).toNat 0 +
    tm.mday - 1) + 3600 * tm.hour + 60 * tm.min + tm.sec

@[simp] lemma gmtime64_wday (t : ℤ) : (gmtime64 t).wday = weekDay (t / 86400) := rfl

@[simp] lemma gmtime64_yday (t : ℤ) : (gmtime64 t).yday = yearDay (t / 86400) := rfl

lemma monthOfDay_lt (y yday : ℤ) : monthOfDay y yday < 12 := by
  have hle := List.countP_le_length (p := (fun s => decide (s ≤ yday))) (l := julianDays y)
  have hlength : (julianDays y).length = 12 := by
    rw [julianDays]
    split_ifs
    · rfl
    · rfl
  rw [monthOfDay]
  omega

theorem timegm_gmtime64 (t : ℤ) : timegm (gmtime64 t) = t := by
  have hmon := monthOfDay_lt (yearOf (t / 86400)) (yearDay (t / 86400))
  have hyear : fullYear (gmtime64 t) = yearOf (t / 86400) := by
    simp only [fullYear, gmtime64]
    omega
  have hmod : ((gmtime64 t).mon % 12).toNat =
      monthOfDay (yearOf (t / 86400)) (yearDay (t / 86400)) := by
    simp only [gmtime64]
    omega
  rw [timegm, hyear, hmod]
  simp only [gmtime64]
  rw [yearDay]
  omega

end Tritonn
