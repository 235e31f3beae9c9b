import Tritonn.Report.Period
import Tritonn.Shared.SafeYear

/-!
`WeekNumber` of `src/shared/common.cpp`, over the functions of `src/shared/time64.c`.

* `time64` are the functions that it uses, over the `mktime` of the system, which is that of a zone
  with zero offset (`RightInRange`);
* `InYears` are the moments for whose dates `mktime64` is right and whose neighbours have a date,
  and `weekNumber_succ` says what a call does there;
* `weekNumber_eventually` says that it ends, and with what: the days that it takes off are seconds,
  so that the weekday of the first of January is in fact that of the moment (`startWeekDay`);
* `IsIso` is the property, and `Coincides` the condition on the date, by its weekday, its number in
  the year and the weekdays of two moments that are some minutes off;
* `isIso_iff` says that the number is that of the ISO week if and only if the date meets the
  condition;
* `isIso_fails` is the sixth of January 2025.
-/

namespace Tritonn

open Proleptic

open Time64 (IsDate DateInSafeRange FitsInt gmtime64R gmtime64R_eq gmtime64_timegm isDate_gmtime64
  mktime64 mktime64_date safeDate safeDate_yday)

/-- `mktime64`, over the `mktime` of the system, and `gmtime64_r`. Where they are undefined or give
no date, what stands here is of no account. -/
def time64 (mktime : TM → ℤ × TM) : Time64 where
  mktime tm := (mktime64 mktime tm).getD (0, tm)
  gmtime t := (gmtime64R t).join.getD (gmtime64 0)

lemma time64_mktime (mktime : TM → ℤ × TM) (tm : TM) :
    (time64 mktime).mktime tm = (mktime64 mktime tm).getD (0, tm) := by rw [time64]

lemma time64_gmtime (mktime : TM → ℤ × TM) (t : ℤ) :
    (time64 mktime).gmtime t = (gmtime64R t).join.getD (gmtime64 0) := by rw [time64]

/-! ### What it returns -/

/-- The condition of `IsLeapYear` is met by no year. -/
lemma isLeapYear_eq_zero (year : UInt16) : isLeapYear year = 0 := by
  rw [isLeapYear, if_neg]
  rintro ⟨-, h100, h400⟩
  have hne : year.toNat % 100 ≠ 0 := fun h => h100 (UInt16.toNat_inj.mp (by simpa using h))
  have heq : year.toNat % 400 = 0 := by simpa using congrArg UInt16.toNat h400
  omega

/-- The table, with Sunday as zero. -/
def weekEntry (w : ℤ) : ℤ := if w = 0 then 6 else if w ≤ 4 then w + 6 else w - 1

lemma iso8601_getD {w : ℤ} (h0 : 0 ≤ w) (h7 : w < 7) : iso8601.getD w.toNat 0 = weekEntry w := by
  interval_cases w
  all_goals rfl

lemma weekEntry_mem (d : ℤ) : 4 ≤ weekEntry (weekDay d) ∧ weekEntry (weekDay d) ≤ 10 := by
  obtain ⟨hw, hw7⟩ := weekDay_mem d
  rw [weekEntry]
  split_ifs
  all_goals omega

/-- The days of a year for which there is another call, by the weekday. -/
lemma add_weekEntry_lt_iff {y : ℤ} (hy : 0 ≤ y) (d : ℤ) :
    y + weekEntry (weekDay d) < 7 ↔
      weekDay d = 5 ∧ y ≤ 2 ∨ weekDay d = 6 ∧ y ≤ 1 ∨ weekDay d = 0 ∧ y = 0 := by
  obtain ⟨hw, hw7⟩ := weekDay_mem d
  rw [weekEntry]
  split_ifs
  all_goals omega

/-- The weekday of the moment that `WeekNumber` takes for the beginning of the year. -/
def startWeekDay (t : ℤ) : ℤ := weekDay ((t - yearDay (t / 86400)) / 86400)

/-- That of the moment that it takes for the end. -/
def endWeekDay (t : ℤ) : ℤ := weekDay ((t + (365 - yearDay (t / 86400))) / 86400)

/-- The days that it counts. -/
def nds (t : ℤ) : ℤ := yearDay (t / 86400) + weekEntry (startWeekDay t)

lemma nds_nonneg (t : ℤ) : 0 ≤ nds t :=
  add_nonneg (yearDay_nonneg _) ((by decide : (0 : ℤ) ≤ 4).trans (weekEntry_mem _).1)

/-- The year of a moment is behind 1200, and the year after it is an `int`, too. -/
def InYears (t : ℤ) : Prop := 1200 < yearOf (t / 86400) ∧ FitsInt (yearOf (t / 86400) + 1 - 1900)

instance (t : ℤ) : Decidable (InYears t) := inferInstanceAs (Decidable (_ ∧ _))

section Calls

variable {mktime : TM → ℤ × TM}

/-- The `mktime` of a system in a zone with zero offset is right in the safe range. -/
def RightInRange (mktime : TM → ℤ × TM) : Prop :=
  ∀ tm, IsDate tm → DateInSafeRange tm → mktime tm = (timegm tm, tm)

/-- There `mktime64` is the way back. -/
lemma InYears.mktime_eq (hmktime : RightInRange mktime) {t : ℤ} (ht : InYears t) :
    (time64 mktime).mktime (gmtime64 t) = (t, safeDate (gmtime64 t)) := by
  obtain ⟨hlate, hfits⟩ := ht
  have hdate : IsDate (gmtime64 t) := isDate_gmtime64 (by rw [FitsInt] at hfits ⊢; omega)
  have hyear : (gmtime64 t).year + 1900 = yearOf (t / 86400) := sub_add_cancel _ _
  have hright : ∀ tm, IsDate tm → DateInSafeRange tm → mktime tm = (timegm tm - 0, tm) := by
    intro tm htm hrange
    rw [hmktime tm htm hrange, sub_zero]
  obtain ⟨s, hs, hzero⟩ := mktime64_date (fun _ => 0) hright hdate
  rw [time64_mktime, hs, timegm_gmtime64, hzero.mpr (hyear ▸ hlate), sub_zero, add_zero,
    Option.getD_some]

/-- Nor do the moments some minutes off lack a date. -/
lemma InYears.gmtime_eq {t u : ℤ} (ht : InYears t) (hlow : t - 86400 ≤ u)
    (hhigh : u ≤ t + 86400) : (time64 mktime).gmtime u = gmtime64 u := by
  obtain ⟨hlate, hfits⟩ := ht
  obtain ⟨hstart, hend⟩ := yearOf_spec (t / 86400)
  obtain ⟨hstart', hend'⟩ := yearOf_spec (u / 86400)
  have hbefore := yearStart_strictMono.lt_iff_lt
    (a := yearOf (t / 86400) - 1) (b := yearOf (u / 86400) + 1)
  have hbehind := yearStart_strictMono.lt_iff_lt
    (a := yearOf (u / 86400)) (b := yearOf (t / 86400) + 1 + 1)
  have hlength := yearLength_cases (yearOf (t / 86400) - 1)
  have hlength' := yearLength_cases (yearOf (t / 86400) + 1)
  rw [yearLength, sub_add_cancel] at hlength
  rw [yearLength] at hlength'
  have hfits' : FitsInt (yearOf (u / 86400) - 1900) := by
    rw [FitsInt] at hfits ⊢
    omega
  rw [time64_gmtime, gmtime64R_eq, if_pos hfits', Option.join_some, Option.getD_some]

/-- One call. -/
lemma weekNumber_succ (hmktime : RightInRange mktime) (depth : ℕ) {t : ℤ} (ht : InYears t) :
    (weekNumber (time64 mktime) (depth + 1) (gmtime64 t)).1 =
      if nds t < 7 then
        (weekNumber (time64 mktime) depth (gmtime64 (t - yearDay (t / 86400) - 1))).1
      else if nds t / 7 = 53 ∧ endWeekDay t < 4 then 1
      else (nds t / 7).toNat := by
  have h0 := yearDay_nonneg (t / 86400)
  have hlt := yearDay_lt (t / 86400)
  have hlength := yearLength_cases (yearOf (t / 86400))
  have hnds : yearDay (t / 86400) + iso8601.getD (startWeekDay t).toNat 0 = nds t := by
    have hweek : 0 ≤ startWeekDay t ∧ startWeekDay t < 7 := weekDay_mem _
    rw [iso8601_getD hweek.1 hweek.2, nds]
  have hzero : nds t / 7 = 0 ↔ nds t < 7 := by
    have hnonneg := nds_nonneg t
    omega
  have hend : 365 + ((UInt16.toNat 0 : ℕ) : ℤ) = 365 := rfl
  rw [weekNumber]
  simp only [ht.mktime_eq hmktime, safeDate_yday, gmtime64_yday, isLeapYear_eq_zero, hend]
  rw [ht.gmtime_eq (u := t - yearDay (t / 86400)) (by omega) (by omega),
    ht.gmtime_eq (u := t - yearDay (t / 86400) - 1) (by omega) (by omega),
    ht.gmtime_eq (u := t + (365 - yearDay (t / 86400))) (by omega) (by omega)]
  have hstart : weekDay ((t - yearDay (t / 86400)) / 86400) = startWeekDay t := rfl
  have hlast : weekDay ((t + (365 - yearDay (t / 86400))) / 86400) = endWeekDay t := rfl
  simp only [gmtime64_wday, hstart, hnds, hlast, Int.tdiv_eq_ediv_of_nonneg (nds_nonneg t)]
  by_cases hfirst : nds t < 7
  · rw [if_pos (hzero.mpr hfirst), if_pos hfirst]
  rw [if_neg (mt hzero.mp hfirst), if_neg hfirst]
  split_ifs
  · rfl
  · rfl

/-- What calls of enough depth return. -/
def Eventually (mktime : TM → ℤ × TM) (t : ℤ) (n : ℕ) : Prop :=
  ∃ k, ∀ depth, k ≤ depth → (weekNumber (time64 mktime) depth (gmtime64 t)).1 = n

/-- A call that does not call itself. -/
lemma eventually_of_le (hmktime : RightInRange mktime) {t : ℤ} (ht : InYears t) (h : 7 ≤ nds t) :
    Eventually mktime t
      (if nds t / 7 = 53 ∧ endWeekDay t < 4 then 1 else (nds t / 7).toNat) := by
  refine ⟨1, fun depth hdepth => ?_⟩
  obtain ⟨depth, rfl⟩ := Nat.exists_eq_succ_of_ne_zero (Nat.one_le_iff_ne_zero.mp hdepth)
  rw [Nat.succ_eq_add_one, weekNumber_succ hmktime depth ht, if_neg (not_lt.mpr h)]

/-- A call that does. -/
lemma eventually_of_lt (hmktime : RightInRange mktime) {t : ℤ} (ht : InYears t) (h : nds t < 7)
    {n : ℕ} (hn : Eventually mktime (t - yearDay (t / 86400) - 1) n) : Eventually mktime t n := by
  obtain ⟨k, hk⟩ := hn
  refine ⟨k + 1, fun depth hdepth => ?_⟩
  obtain ⟨depth, rfl⟩ := Nat.exists_eq_succ_of_ne_zero (by omega : depth ≠ 0)
  rw [Nat.succ_eq_add_one, weekNumber_succ hmktime depth ht, if_pos h]
  exact hk depth (by omega)

/-- The number for the days before the first Monday of a year, by the weekday of the first of
January. -/
def firstWeek (start : ℤ) : ℕ :=
  if weekDay start = 5 then 53 else if weekDay start = 6 ∨ weekDay start = 0 then 52 else 1

/-- Some minutes before, it is the same day or the one before. -/
lemma ediv_sub_cases {t e : ℤ} (h0 : 0 ≤ e) (h : e ≤ 366) :
    (t - e) / 86400 = t / 86400 ∨ (t - e) / 86400 = t / 86400 - 1 := by omega

/-- The days of a year from whose calls another one returns without a call have a first of January
before Friday. `q` and `r` are the days of the moments that stand for the beginning of the year. -/
lemma firstWeek_of_stop {S y z q r : ℤ} (hy : 0 ≤ y) (hz : 0 ≤ z) (hzy : z ≤ y)
    (hq : q = S + y ∨ q = S + y - 1 ∧ y ≠ 0) (hr : r = S + z ∨ r = S + z - 1 ∧ z ≠ 0)
    (hzq : S + z ≤ q) (hgo : y + weekEntry (weekDay q) < 7)
    (hstop : 7 ≤ z + weekEntry (weekDay r)) :
    (z + weekEntry (weekDay r)) / 7 = 1 ∧ firstWeek S = 1 := by
  rw [add_weekEntry_lt_iff hy] at hgo
  have hnot := mt (add_weekEntry_lt_iff hz r).mpr (not_lt.mpr hstop)
  have hweek : (z + weekEntry (weekDay r)) / 7 = 1 := by
    have hentry := (weekEntry_mem r).2
    omega
  -- the first of January is no Friday, Saturday or Sunday
  have hstart : weekDay S ≠ 5 ∧ ¬ (weekDay S = 6 ∨ weekDay S = 0) := by
    simp only [weekDay] at hgo hnot ⊢
    rcases hgo with ⟨hgo, hy2⟩ | ⟨hgo, hy1⟩ | ⟨hgo, hy0⟩
    all_goals omega
  refine ⟨hweek, ?_⟩
  rw [firstWeek, if_neg hstart.1, if_neg hstart.2]

/-- The last second before a first of January from which a call is made. -/
lemma eventually_newYear (hmktime : RightInRange mktime) {Y : ℤ}
    (hY : 1200 < Y ∧ FitsInt (Y + 1 - 1900))
    (h : weekDay (yearStart Y) = 5 ∨ weekDay (yearStart Y) = 6 ∨ weekDay (yearStart Y) = 0) :
    Eventually mktime (86400 * yearStart Y - 1) (firstWeek (yearStart Y)) := by
  have hlength := yearLength_cases (Y - 1)
  rw [yearLength, Int.sub_add_cancel] at hlength
  have hyear : yearOf ((86400 * yearStart Y - 1) / 86400) = Y - 1 :=
    yearOf_eq (by omega) (by rw [Int.sub_add_cancel]; omega)
  have hyday : yearDay ((86400 * yearStart Y - 1) / 86400) =
      yearStart Y - 1 - yearStart (Y - 1) := by
    rw [yearDay, hyear]
    omega
  have hlast : nds (86400 * yearStart Y - 1) / 7 = 53 ∧
        4 ≤ endWeekDay (86400 * yearStart Y - 1) ∧ weekDay (yearStart Y) = 5 ∨
      nds (86400 * yearStart Y - 1) / 7 = 52 ∧ weekDay (yearStart Y) ≠ 5 := by
    rw [nds, startWeekDay, endWeekDay, hyday]
    simp only [weekEntry, weekDay] at h ⊢
    split_ifs
    all_goals omega
  -- the first of January 1201 is a Monday, so that no call leads behind 1200
  have h1201 : Y ≠ 1201 := by
    rintro rfl
    revert h
    decide
  have hyears : InYears (86400 * yearStart Y - 1) := by
    rw [InYears, hyear, FitsInt]
    rw [FitsInt] at hY
    omega
  have hreturn := eventually_of_le hmktime hyears (by omega)
  rcases hlast with ⟨hweek, hend, hday⟩ | ⟨hweek, hday⟩
  · rw [firstWeek, if_pos hday]
    rwa [hweek, if_neg (by omega)] at hreturn
  · rw [firstWeek, if_neg hday, if_pos (h.resolve_left hday)]
    rwa [hweek, if_neg (by omega)] at hreturn

/-- In the days before the first Monday the calls go back by seconds, to the year before or to a
moment that has a number. -/
lemma eventually_firstWeek (hmktime : RightInRange mktime) {t : ℤ} (ht : InYears t)
    (h : nds t < 7) : Eventually mktime t (firstWeek (yearStart (yearOf (t / 86400)))) := by
  generalize hk : (t - 86400 * yearStart (yearOf (t / 86400))).toNat = k
  induction k using Nat.strong_induction_on generalizing t with
  | _ k ih =>
      subst hk
      obtain ⟨hlow, hhigh⟩ := yearOf_spec (t / 86400)
      refine eventually_of_lt hmktime ht h ?_
      have hyday0 := yearDay_nonneg (t / 86400)
      have hfew : yearDay (t / 86400) ≤ 2 := by
        rw [nds] at h
        have hentry := (weekEntry_mem ((t - yearDay (t / 86400)) / 86400)).1
        rw [← startWeekDay] at hentry
        omega
      have hday := eq_yearStart_add (t / 86400)
      set S := yearStart (yearOf (t / 86400)) with hS
      set y := yearDay (t / 86400) with hy
      rcases le_or_gt (86400 * S) (t - y - 1) with hsame | hbefore
      · -- still in the same year
        have hyear : yearOf ((t - y - 1) / 86400) = yearOf (t / 86400) :=
          yearOf_eq (by omega) (by omega)
        have hyears : InYears (t - y - 1) := by rwa [InYears, hyear]
        have hyday := eq_yearStart_add ((t - y - 1) / 86400)
        rw [hyear, ← hS] at hyday
        rcases lt_or_ge (nds (t - y - 1)) 7 with hagain | hstop
        · have hnext := ih _ (by rw [hyear]; omega) hyears hagain rfl
          rwa [hyear] at hnext
        · have hz := yearDay_nonneg ((t - y - 1) / 86400)
          obtain ⟨hweek, hone⟩ := firstWeek_of_stop (S := S) (q := (t - y) / 86400)
            (r := (t - y - 1 - yearDay ((t - y - 1) / 86400)) / 86400) hyday0 hz (by omega)
            (by omega) (by omega) (by omega) h hstop
          have hreturn := eventually_of_le hmktime hyears hstop
          have hnds : nds (t - y - 1) / 7 = 1 := hweek
          rw [hone]
          rwa [hnds, if_neg (by omega)] at hreturn
      · -- the last second of the year before
        have hy0 : y = 0 := by omega
        have hlast : t - y - 1 = 86400 * S - 1 := by omega
        have hstart : startWeekDay t = weekDay S := by
          rw [startWeekDay, ← hy, hy0, sub_zero, hday, hy0, add_zero]
        rw [hlast]
        refine eventually_newYear hmktime ht ?_
        rw [nds, ← hy, hy0, hstart, add_weekEntry_lt_iff le_rfl] at h
        rcases h with ⟨h, _⟩ | ⟨h, _⟩ | ⟨h, _⟩
        · exact .inl h
        · exact .inr (.inl h)
        · exact .inr (.inr h)

/-- The number that is returned in the end. -/
def codeWeek (t : ℤ) : ℕ :=
  if nds t < 7 then firstWeek (yearStart (yearOf (t / 86400)))
  else if nds t / 7 = 53 ∧ endWeekDay t < 4 then 1
  else (nds t / 7).toNat

/-- Every call ends. -/
theorem weekNumber_eventually (hmktime : RightInRange mktime) {t : ℤ} (ht : InYears t) :
    Eventually mktime t (codeWeek t) := by
  rw [codeWeek]
  by_cases h : nds t < 7
  · rw [if_pos h]
    exact eventually_firstWeek hmktime ht h
  · rw [if_neg h]
    exact eventually_of_le hmktime ht (not_lt.mp h)

end Calls

/-! ### The dates for which it is right -/

/-- A date whose weekday `w` and number of the day in its year by seven give the right number. -/
def Regular (w r : ℤ) : Prop :=
  (w = 1 ∨ w = 4 → r ≤ 3) ∧ (w = 2 ∨ w = 3 → r ≠ 5) ∧ (w = 5 ∨ w = 0 → r ≠ 1 ∧ r ≠ 2)

/-- The same in the first seconds of a day, as many as the year has days before it. -/
def Shifted (w r : ℤ) : Prop :=
  (w = 1 ∨ w = 5 → 1 ≤ r ∧ r ≤ 3) ∧ (w = 2 ∨ w = 4 → r ≤ 4) ∧ (w = 6 ∨ w = 0 → r ≠ 2)

/-- The day is one of the first of a year, in which the calls go back. -/
def IsFirst (t : ℤ) : Prop :=
  startWeekDay t = 5 ∧ yearDay (t / 86400) ≤ 2 ∨ startWeekDay t = 6 ∧ yearDay (t / 86400) ≤ 1 ∨
    startWeekDay t = 0 ∧ yearDay (t / 86400) = 0

/-- The day is one of the last of a year, whose week may be the first of the next one. -/
def IsLast (t : ℤ) : Prop := startWeekDay t ≤ 4 ∧ 365 ≤ yearDay (t / 86400) + startWeekDay t

instance (t : ℤ) : Decidable (IsFirst t) := inferInstanceAs (Decidable (_ ∨ _))

instance (t : ℤ) : Decidable (IsLast t) := inferInstanceAs (Decidable (_ ∧ _))

/-- The days of the year before the Monday of a moment's week. -/
def mondayDay (t : ℤ) : ℤ := yearDay (t / 86400) - (t / 86400 + 3) % 7

/-- The condition. -/
def Coincides (t : ℤ) : Prop :=
  if IsFirst t then
    ¬ (weekDay (yearStart (yearOf (t / 86400))) = 6 ∧ yearLength (yearOf (t / 86400) - 1) = 366)
  else if IsLast t then
    if endWeekDay t < 4 then yearLength (yearOf (t / 86400)) ≤ mondayDay t + 3
    else 361 ≤ mondayDay t ∧ mondayDay t + 3 < yearLength (yearOf (t / 86400))
  else if startWeekDay t = weekDay (t / 86400) then
    Regular (weekDay (t / 86400)) (yearDay (t / 86400) % 7)
  else Shifted (weekDay (t / 86400)) (yearDay (t / 86400) % 7)

lemma nds_lt_iff (t : ℤ) : nds t < 7 ↔ IsFirst t :=
  add_weekEntry_lt_iff (yearDay_nonneg _) _

lemma nds_div_iff (t : ℤ) : nds t / 7 = 53 ↔ IsLast t := by
  have h0 := yearDay_nonneg (t / 86400)
  have hlt := yearDay_lt (t / 86400)
  have hlength := yearLength_cases (yearOf (t / 86400))
  obtain ⟨hweek, hweek'⟩ : 0 ≤ startWeekDay t ∧ startWeekDay t < 7 := weekDay_mem _
  rw [nds, weekEntry, IsLast]
  split_ifs
  all_goals omega

instance (w r : ℤ) : Decidable (Regular w r) := inferInstanceAs (Decidable (_ ∧ _))

instance (w r : ℤ) : Decidable (Shifted w r) := inferInstanceAs (Decidable (_ ∧ _))

instance (t : ℤ) : Decidable (Coincides t) := inferInstanceAs (Decidable (ite _ _ _))

/-- The number of the week by the Monday. -/
lemma isoWeek_monday (t : ℤ) :
    isoWeek (t / 86400) =
      if mondayDay t + 3 < 0 then
        (mondayDay t + 3 + yearLength (yearOf (t / 86400) - 1)) / 7 + 1
      else if yearLength (yearOf (t / 86400)) ≤ mondayDay t + 3 then 1
      else (mondayDay t + 3) / 7 + 1 := by
  rw [isoWeek_eq, mondayDay]
  split_ifs
  all_goals omega

/-- The first days of a year. -/
lemma coincides_first {t : ℤ} (h : IsFirst t) :
    (firstWeek (yearStart (yearOf (t / 86400))) : ℤ) = isoWeek (t / 86400) ↔
      ¬ (weekDay (yearStart (yearOf (t / 86400))) = 6 ∧
        yearLength (yearOf (t / 86400) - 1) = 366) := by
  have h0 := yearDay_nonneg (t / 86400)
  have hlength := yearLength_cases (yearOf (t / 86400) - 1)
  have hlength' := yearLength_cases (yearOf (t / 86400))
  have hday := eq_yearStart_add (t / 86400)
  rw [isoWeek_monday, mondayDay]
  rw [IsFirst, startWeekDay] at h
  have hq := ediv_sub_cases (t := t) (e := yearDay (t / 86400)) h0 (by omega)
  have hq0 : yearDay (t / 86400) = 0 → (t - yearDay (t / 86400)) / 86400 = t / 86400 := by
    intro hy
    rw [hy, sub_zero]
  generalize (t - yearDay (t / 86400)) / 86400 = q at *
  generalize yearLength (yearOf (t / 86400) - 1) = L' at *
  generalize yearLength (yearOf (t / 86400)) = L at *
  generalize yearDay (t / 86400) = y at *
  generalize yearStart (yearOf (t / 86400)) = S at *
  generalize t / 86400 = d at *
  subst hday
  -- the Monday of the week lies as far back as the weekday of the first of January says
  have hmonday : weekDay S = 0 ∧ y - (S + y + 3) % 7 = -6 ∨
      3 ≤ weekDay S ∧ weekDay S ≤ 6 ∧ y - (S + y + 3) % 7 = 1 - weekDay S := by
    simp only [weekDay] at h ⊢
    rcases hq with rfl | rfl
    · omega
    · omega
  rw [firstWeek]
  generalize y - (S + y + 3) % 7 = m at *
  generalize weekDay S = w at *
  split_ifs
  all_goals
    push_cast
    omega

/-- The last days. -/
lemma coincides_last {t : ℤ} (h : IsLast t) :
    (if endWeekDay t < 4 then 1 else nds t / 7) = isoWeek (t / 86400) ↔
      if endWeekDay t < 4 then yearLength (yearOf (t / 86400)) ≤ mondayDay t + 3
      else 361 ≤ mondayDay t ∧ mondayDay t + 3 < yearLength (yearOf (t / 86400)) := by
  have hlength := yearLength_cases (yearOf (t / 86400))
  have hlt := yearDay_lt (t / 86400)
  have hmonday : yearDay (t / 86400) - 6 ≤ mondayDay t ∧ mondayDay t ≤ yearDay (t / 86400) := by
    rw [mondayDay]
    omega
  rw [(nds_div_iff t).mpr h, isoWeek_monday]
  obtain ⟨hweek, hday⟩ := h
  split_ifs
  all_goals omega

/-- The other days. -/
lemma coincides_middle {t : ℤ} (hfirst : ¬ IsFirst t) (hlast : ¬ IsLast t) :
    nds t / 7 = isoWeek (t / 86400) ↔
      if startWeekDay t = weekDay (t / 86400) then
        Regular (weekDay (t / 86400)) (yearDay (t / 86400) % 7)
      else Shifted (weekDay (t / 86400)) (yearDay (t / 86400) % 7) := by
  have h0 := yearDay_nonneg (t / 86400)
  have hlt := yearDay_lt (t / 86400)
  have hlength := yearLength_cases (yearOf (t / 86400))
  have hlength' := yearLength_cases (yearOf (t / 86400) - 1)
  have hq := ediv_sub_cases (t := t) (e := yearDay (t / 86400)) h0 (by omega)
  have hq0 : yearDay (t / 86400) = 0 → (t - yearDay (t / 86400)) / 86400 = t / 86400 := by
    intro hy
    rw [hy, sub_zero]
  rw [isoWeek_monday, mondayDay]
  rw [IsFirst, startWeekDay] at hfirst
  rw [IsLast, startWeekDay] at hlast
  rw [nds, startWeekDay]
  generalize (t - yearDay (t / 86400)) / 86400 = q at *
  generalize yearLength (yearOf (t / 86400) - 1) = L' at *
  generalize yearLength (yearOf (t / 86400)) = L at *
  generalize yearDay (t / 86400) = y at *
  generalize t / 86400 = d at *
  -- the weekday decides about the entry of the table and about the Monday
  have hw : 0 ≤ weekDay d ∧ weekDay d < 7 := by
    rw [weekDay]
    omega
  have hm : (d + 3) % 7 = (weekDay d + 6) % 7 := by
    rw [weekDay]
    omega
  have hn : weekDay q = weekDay d ∨ weekDay q = (weekDay d + 6) % 7 ∧ y ≠ 0 := by
    rw [weekDay, weekDay]
    omega
  rw [hm]
  clear hq hq0 hm
  generalize weekDay q = n at *
  generalize weekDay d = w at *
  obtain ⟨hw0, hw7⟩ := hw
  interval_cases w
  all_goals rcases hn with rfl | ⟨rfl, hy⟩
  all_goals
    norm_num [weekEntry, Regular, Shifted] at hfirst hlast ⊢
    split_ifs
    all_goals omega

lemma nds_div_toNat (t : ℤ) : (((nds t / 7).toNat : ℕ) : ℤ) = nds t / 7 :=
  Int.toNat_of_nonneg (Int.ediv_nonneg (nds_nonneg t) (by decide))

/-- The dates whose number is the right one. -/
theorem codeWeek_eq_iff (t : ℤ) : (codeWeek t : ℤ) = isoWeek (t / 86400) ↔ Coincides t := by
  rw [codeWeek, Coincides]
  by_cases hfirst : IsFirst t
  · rw [if_pos ((nds_lt_iff t).mpr hfirst), if_pos hfirst]
    exact coincides_first hfirst
  rw [if_neg (mt (nds_lt_iff t).mp hfirst), if_neg hfirst]
  by_cases hlast : IsLast t
  · rw [if_pos hlast, ← coincides_last hlast]
    by_cases hend : endWeekDay t < 4
    · rw [if_pos ⟨(nds_div_iff t).mpr hlast, hend⟩, if_pos hend, Nat.cast_one]
    · rw [if_neg (fun h => hend h.2), if_neg hend, nds_div_toNat]
  · rw [if_neg (fun h => hlast ((nds_div_iff t).mp h.1)), if_neg hlast, nds_div_toNat]
    exact coincides_middle hfirst hlast

/-- The calls end with the number of the ISO week of the date. -/
def IsIso (mktime : TM → ℤ × TM) (tm : TM) : Prop :=
  ∃ k, ∀ depth, k ≤ depth →
    ((weekNumber (time64 mktime) depth tm).1 : ℤ) = isoWeek (timegm tm / 86400)

/-- For every date behind 1200 whose next year is an `int` the calls end, and the number is that of
the ISO week if and only if the date meets the condition. -/
theorem isIso_iff (mktime : TM → ℤ × TM) (hmktime : RightInRange mktime) (tm : TM) (h : IsDate tm)
    (hyear : 1200 < tm.year + 1900) (hnext : FitsInt (tm.year + 1)) :
    IsIso mktime tm ↔ Coincides (timegm tm) := by
  obtain ⟨hof, hgm⟩ := gmtime64_timegm h
  have hyears : InYears (timegm tm) := by
    rw [InYears, hof, show tm.year + 1900 + 1 - 1900 = tm.year + 1 by ring]
    exact ⟨hyear, hnext⟩
  obtain ⟨k, hk⟩ := weekNumber_eventually hmktime hyears
  rw [hgm] at hk
  rw [← codeWeek_eq_iff]
  constructor
  · rintro ⟨l, hl⟩
    rw [← hk (max k l) (le_max_left k l)]
    exact hl (max k l) (le_max_right k l)
  · intro hweek
    exact ⟨k, fun depth hdepth => by rw [hk depth hdepth, hweek]⟩

/-- The first of January 2101, a Saturday of the last week of 2100. -/
def newYear2101 : TM := ⟨0, 0, 12, 1, 0, 201, 6, 0⟩

/-- Its week is found by a call for the last second of 2100, through the safe years of both. -/
theorem isIso_iff_newYear2101 : IsIso (fun tm => (timegm tm, tm)) newYear2101 ∧
    isoWeek (timegm newYear2101 / 86400) = 52 := by
  refine ⟨(isIso_iff (fun tm => (timegm tm, tm)) (fun _ _ _ => rfl) newYear2101 ?_ (by decide)
    (by decide)).mpr (by decide +kernel), by decide +kernel⟩
  constructor
  all_goals decide +kernel

/-- The sixth of January 2025, a Monday. -/
def sixthOfJanuary : TM where
  sec := 0
  min := 0
  hour := 12
  mday := 6
  mon := 0
  year := 125
  wday := 1
  yday := 5

/-- The number of its week is 1 rather than 2. -/
theorem isIso_fails : RightInRange (fun tm => (timegm tm, tm)) ∧
    ¬ ∀ tm, IsDate tm → IsIso (fun tm => (timegm tm, tm)) tm := by
  refine ⟨fun _ _ _ => rfl, fun h => ?_⟩
  have hdate : IsDate sixthOfJanuary := by
    constructor
    all_goals decide +kernel
  obtain ⟨k, hk⟩ := h sixthOfJanuary hdate
  have hweek := hk (k + 1) k.le_succ
  have hright : RightInRange fun tm => (timegm tm, tm) := fun _ _ _ => rfl
  have hcall := weekNumber_succ hright k (t := timegm sixthOfJanuary) (by decide)
  rw [(gmtime64_timegm hdate).2, if_neg (by decide), if_neg (by decide)] at hcall
  rw [hcall] at hweek
  exact absurd hweek (by decide)

end Tritonn
