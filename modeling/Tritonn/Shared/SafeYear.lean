import Tritonn.Shared.Time64

/-!
`localtime64_r` and `mktime64` of `src/shared/time64.c`, over those of the system.

* `safeYear` is the year between 1971 and 2037 that stands for another one: `Matches` says that it
  begins with the same weekday, and that it and the year before it are as long;
* `localtime64R` asks the system about the safe year and puts the year back, and `getCurrentTime`
  is the caller in `src/shared/common.cpp`, which reads the clock as 32 bits;
* `mktime64` adds the seconds between the years, which `secondsBetweenYears` counts year by year.

`safeYear_spec` says that every year has a safe year that matches.  `localDates` concludes that the
local date is right for every moment, with the offset that the zone has in the safe year.
`mktime64_iff` says that the moment of a date is right if and only if the date is not before 1201:
for earlier years the whole Gregorian cycles are counted with the wrong sign.
-/

namespace Tritonn

open Proleptic

namespace Time64

/-! ### The functions of the source -/

/-- `is_exception_century`. -/
def IsExceptionCentury (year : ℤ) : Prop := year.tmod 100 = 0 ∧ ¬ year.tmod 400 = 0

instance (year : ℤ) : Decidable (IsExceptionCentury year) := inferInstanceAs (Decidable (_ ∧ _))

/-- `cycle_offset`. -/
def cycleOffset (year : ℤ) : ℤ :=
  let yearDiff := if 2000 < year then year - 2000 - 1 else year - 2000
  (yearDiff.tdiv 100 - yearDiff.tdiv 400) * 16

/-- `safe_years_high`. -/
def safeYearsHigh : List ℤ :=
  [2016, 2017, 2018, 2019, 2020, 2021, 2022, 2023, 2024, 2025, 2026, 2027, 2028, 2029, 2030, 2031,
    2032, 2033, 2034, 2035, 2036, 2037, 2010, 2011, 2012, 2013, 2014, 2015]

/-- `safe_years_low`. -/
def safeYearsLow : List ℤ :=
  [1996, 1997, 1998, 1971, 1972, 1973, 1974, 1975, 1976, 1977, 1978, 1979, 1980, 1981, 1982, 1983,
    1984, 1985, 1986, 1987, 1988, 1989, 1990, 1991, 1992, 1993, 1994, 1995]

/-- The `year_cycle` of `safe_year`, which is an index into its tables. -/
def yearCycle (year : ℤ) : ℤ :=
  let yearCycle := year + cycleOffset year
  let yearCycle := if year < 1971 then yearCycle - 8 else yearCycle
  let yearCycle := if IsExceptionCentury year then yearCycle + 11 else yearCycle
  let yearCycle := if IsExceptionCentury (year - 1) then yearCycle + 17 else yearCycle
  let yearCycle := yearCycle.tmod 28
  if yearCycle < 0 then 28 + yearCycle else yearCycle

/-- `safe_year`; undefined if one of its assertions fails. -/
def safeYear (year : ℤ) : Option ℤ :=
  if 1971 ≤ year ∧ year ≤ 2037 then some year
  else if yearCycle year < 0 then none
  else
    ((if year < 1971 then safeYearsLow else safeYearsHigh)[(yearCycle year).toNat]?).filter
      fun safe => safe ≤ 2037 ∧ 1971 ≤ safe

/-- `SHOULD_USE_SYSTEM_LOCALTIME`. -/
def ShouldUseSystemLocaltime (time : ℤ) : Prop := time ≤ 2147483647 ∧ -2147483647 - 1 ≤ time

instance (time : ℤ) : Decidable (ShouldUseSystemLocaltime time) :=
  inferInstanceAs (Decidable (_ ∧ _))

/-- The date that the system is asked about. -/
def mapped (gmTm : TM) : Option TM :=
  if 2037 - 1900 < gmTm.year ∨ gmTm.year < 1970 - 1900 then
    (safeYear (gmTm.year + 1900)).map fun safe => { gmTm with year := safe - 1900 }
  else some gmTm

/-- The date of the safe year is moved to the year, or to the one next to it where the local date
lies there. -/
def moved (origYear gmMon : ℤ) (localTm : TM) : TM :=
  let monthDiff := localTm.mon - gmMon
  let year := if monthDiff = 11 then origYear - 1 else origYear
  let year := if monthDiff = -11 then year + 1 else year
  { localTm with year := year }

/-- The correction of the last day of a year that is not as long as the safe one. -/
def corrected (localTm : TM) : TM :=
  if (isLeap localTm.year).val = 0 ∧ localTm.yday = 365 then
    { localTm with yday := localTm.yday - 1 }
  else localTm

/-- `localtime64_r` over the `localtime_r` of the system: a date, unless one of the two gives none;
undefined if an assertion fails, or if the system gives none in its own range. -/
def localtime64R (localtimeR : ℤ → Option TM) (time : ℤ) : Option (Option TM) :=
  if ShouldUseSystemLocaltime time then do
    let safeDate ← localtimeR time
    if checkTm safeDate then some (some safeDate) else none
  else do
    match ← gmtime64R time with
    | none => some none
    | some gmTm => do
        let safeTm ← mapped gmTm
        let safeTime ← timegm64 safeTm
        match localtimeR safeTime with
        | none => some none
        | some safeDate =>
            let localTm := corrected (moved gmTm.year safeTm.mon safeDate)
            if checkTm localTm then some (some localTm) else none

/-- The loop of `seconds_between_years` up to the left year; without result if it takes more
turns. -/
def secondsUp : ℕ → ℤ → ℤ → ℤ → Option ℤ
  | 0, _, _, _ => none
  | n + 1, leftYear, rightYear, seconds =>
      if leftYear ≠ rightYear then
        secondsUp n leftYear (rightYear + 1)
          (seconds + lengthOfYear (isLeapAbs rightYear) * 60 * 60 * 24)
      else some seconds

/-- The loop down to the left year. -/
def secondsDown : ℕ → ℤ → ℤ → ℤ → Option ℤ
  | 0, _, _, _ => none
  | n + 1, leftYear, rightYear, seconds =>
      if leftYear ≠ rightYear then
        secondsDown n leftYear (rightYear - 1)
          (seconds - lengthOfYear (isLeapAbs rightYear) * 60 * 60 * 24)
      else some seconds

/-- The left year of `seconds_between_years` and the seconds behind its Gregorian cycles. -/
def skipped (leftYear : ℤ) : ℤ × ℤ :=
  if 2400 < leftYear then
    let cycles := (leftYear - 2400).tdiv 400
    (leftYear - cycles * 400, cycles * (daysInGregorianCycle * 60 * 60 * 24))
  else if leftYear < 1600 then
    let cycles := (leftYear - 1600).tdiv 400
    (leftYear + cycles * 400, cycles * (daysInGregorianCycle * 60 * 60 * 24))
  else (leftYear, 0)

/-- `seconds_between_years`. -/
def secondsBetweenYears (leftYear rightYear : ℤ) : Option ℤ :=
  let (left, seconds) := skipped leftYear
  if rightYear < leftYear then secondsUp ((left - rightYear).toNat + 1) left rightYear seconds
  else secondsDown ((rightYear - left).toNat + 1) left rightYear seconds

/-- `cmp_date`. -/
def cmpDate (left right : TM) : Ordering :=
  (compare left.year right.year).then <| (compare left.mon right.mon).then <|
    (compare left.mday right.mday).then <| (compare left.hour right.hour).then <|
      (compare left.min right.min).then (compare left.sec right.sec)

/-- `SYSTEM_MKTIME_MIN`. -/
def systemMktimeMin : TM := ⟨52, 45, 12, 13, 11, 1, 5, 346⟩

/-- `SYSTEM_MKTIME_MAX`. -/
def systemMktimeMax : TM := ⟨7, 14, 19, 18, 0, 138, 1, 17⟩

/-- `date_in_safe_range`. -/
def DateInSafeRange (date : TM) : Prop :=
  cmpDate date systemMktimeMin ≠ .lt ∧ cmpDate date systemMktimeMax ≠ .gt

instance (date : TM) : Decidable (DateInSafeRange date) := inferInstanceAs (Decidable (_ ∧ _))

/-- `mktime64` over the `mktime` of the system: the moment and the date that it leaves. -/
def mktime64 (mktime : TM → ℤ × TM) (inputDate : TM) : Option (ℤ × TM) :=
  if DateInSafeRange inputDate then some (mktime inputDate)
  else do
    let safe ← safeYear (inputDate.year + 1900)
    let (time, safeDate) := mktime { inputDate with year := safe - 1900 }
    let seconds ← secondsBetweenYears (inputDate.year + 1900) (safeDate.year + 1900)
    some (time + seconds, safeDate)

/-- `getCurrentTime`: the moment and the local date, whose year is counted from zero. -/
def getCurrentTime (localtimeR : ℤ → Option TM) (tvSec : ℤ) : Option (ℤ × Option TM) := do
  let t64 := tvSec % 2 ^ 32
  let stm ← localtime64R localtimeR t64
  some (t64, stm.map fun stm => { stm with year := stm.year + 1900 })

/-! ### The safe years -/

/-- The year begins with the same weekday, and it and the year before it are as long. -/
def Matches (year safe : ℤ) : Prop :=
  (1971 ≤ safe ∧ safe ≤ 2037) ∧ weekDay (yearStart safe) = weekDay (yearStart year) ∧
    (IsLeap safe ↔ IsLeap year) ∧ (IsLeap (safe - 1) ↔ IsLeap (year - 1))

instance (year safe : ℤ) : Decidable (Matches year safe) := inferInstanceAs (Decidable (_ ∧ _))

/-- A Gregorian cycle later the same years match. -/
lemma matches_cycles {year safe : ℤ} (c : ℤ) (h : Matches year safe) :
    Matches (year + c * 400) safe := by
  obtain ⟨hrange, hweek, hleap, hprev⟩ := h
  refine ⟨hrange, ?_, ?_, ?_⟩
  · rw [hweek, yearStart_cycles, weekDay, weekDay, daysInGregorianCycle]
    omega
  · rw [hleap, IsLeap, IsLeap]
    omega
  · rw [hprev, IsLeap, IsLeap]
    omega

/-- The index by the remainder, from a year before which or behind which none is looked up. -/
lemma yearCycle_eq (year : ℤ) :
    yearCycle year =
      (year + cycleOffset year + (if year < 1971 then -8 else 0) +
        (if IsExceptionCentury year then 11 else 0) +
        (if IsExceptionCentury (year - 1) then 17 else 0)) % 28 := by
  have htmod (k : ℤ) : (if k.tmod 28 < 0 then 28 + k.tmod 28 else k.tmod 28) = k % 28 := by
    rcases le_total 0 k with h | h
    · rw [Int.tmod_eq_emod_of_nonneg h, if_neg (by omega)]
    · obtain ⟨u, rfl⟩ : ∃ u, k = -u := ⟨-k, (neg_neg k).symm⟩
      rw [Int.neg_tmod, Int.tmod_eq_emod_of_nonneg (by omega)]
      split_ifs
      all_goals omega
  rw [yearCycle, htmod]
  congr 1
  split_ifs
  all_goals ring

lemma isExceptionCentury_cycles (year c : ℤ) :
    IsExceptionCentury (year + c * 400) ↔ IsExceptionCentury year := by
  have hmod (y k : ℤ) : y.tmod k = 0 ↔ y % k = 0 := by
    rw [← Int.dvd_iff_tmod_eq_zero, Int.dvd_iff_emod_eq_zero]
  rw [IsExceptionCentury, IsExceptionCentury, hmod, hmod, hmod, hmod]
  omega

/-- The safe years come again with the Gregorian cycles, on either side. -/
lemma safeYear_cycle {year c : ℤ} (h : 2038 ≤ year ∧ 0 ≤ c ∨ year ≤ 1970 ∧ c ≤ 0) :
    safeYear (year + c * 400) = safeYear year := by
  have hoff : (cycleOffset (year + c * 400) - cycleOffset year) % 28 = c * 48 % 28 := by
    rcases h with ⟨hy, hc⟩ | ⟨hy, hc⟩
    · rw [cycleOffset, cycleOffset, if_pos (by omega), if_pos (by omega),
        Int.tdiv_eq_ediv_of_nonneg (by omega), Int.tdiv_eq_ediv_of_nonneg (by omega),
        Int.tdiv_eq_ediv_of_nonneg (by omega), Int.tdiv_eq_ediv_of_nonneg (by omega)]
      omega
    · obtain ⟨u, hu⟩ : ∃ u, year - 2000 = -u := ⟨-(year - 2000), (neg_neg _).symm⟩
      obtain ⟨v, hv⟩ : ∃ v, year + c * 400 - 2000 = -v :=
        ⟨-(year + c * 400 - 2000), (neg_neg _).symm⟩
      rw [cycleOffset, cycleOffset, if_neg (by omega), if_neg (by omega), hu, hv]
      simp only [Int.neg_tdiv]
      rw [Int.tdiv_eq_ediv_of_nonneg (by omega), Int.tdiv_eq_ediv_of_nonneg (by omega),
        Int.tdiv_eq_ediv_of_nonneg (by omega), Int.tdiv_eq_ediv_of_nonneg (by omega)]
      omega
  have hcycle : yearCycle (year + c * 400) = yearCycle year := by
    have hprev := isExceptionCentury_cycles (year - 1) c
    rw [show year - 1 + c * 400 = year + c * 400 - 1 by ring] at hprev
    rw [yearCycle_eq, yearCycle_eq, if_congr (isExceptionCentury_cycles year c) rfl rfl,
      if_congr hprev rfl rfl, if_congr (show year + c * 400 < 1971 ↔ year < 1971 by omega) rfl rfl]
    omega
  rw [safeYear, safeYear, if_neg (by omega : ¬(1971 ≤ year + c * 400 ∧ _)),
    if_neg (by omega : ¬(1971 ≤ year ∧ _)), hcycle,
    if_congr (show year + c * 400 < 1971 ↔ year < 1971 by omega) rfl rfl]

/-- The safe years of one Gregorian cycle on either side. -/
lemma safeYear_of_fin : ∀ i : Fin 400,
    (safeYear (2038 + i)).any (fun s => Matches (2038 + i) s) ∧
      (safeYear (1970 - i)).any (fun s => Matches (1970 - i) s) := by
  decide +kernel

/-- Every year has a safe year that matches. -/
theorem safeYear_spec (year : ℤ) : ∃ safe, safeYear year = some safe ∧ Matches year safe := by
  have hbase (i : Fin 400) {y c : ℤ} (hc : year = y + c * 400)
      (hcycle : 2038 ≤ y ∧ 0 ≤ c ∨ y ≤ 1970 ∧ c ≤ 0)
      (hany : (safeYear y).any (fun s => Matches y s)) :
      ∃ safe, safeYear year = some safe ∧ Matches year safe := by
    obtain ⟨safe, hsafe, hmatch⟩ := (Option.any_eq_true _ _).mp hany
    rw [hc, safeYear_cycle hcycle]
    exact ⟨safe, hsafe, matches_cycles c (of_decide_eq_true hmatch)⟩
  rcases le_or_gt year 2037 with hle | hgt
  · rcases le_or_gt 1971 year with hge | hlt
    · exact ⟨year, if_pos ⟨hge, hle⟩, ⟨hge, hle⟩, rfl, Iff.rfl, Iff.rfl⟩
    · have hi : ((1970 - year) % 400).toNat < 400 := by omega
      refine hbase ⟨_, hi⟩ (y := 1970 - (((1970 - year) % 400).toNat : ℕ))
        (c := -((1970 - year) / 400)) (by omega) (by omega) (safeYear_of_fin ⟨_, hi⟩).2
  · have hi : ((year - 2038) % 400).toNat < 400 := by omega
    refine hbase ⟨_, hi⟩ (y := 2038 + (((year - 2038) % 400).toNat : ℕ))
      (c := (year - 2038) / 400) (by omega) (by omega) (safeYear_of_fin ⟨_, hi⟩).1

/-! ### The local date -/

/-- In a year that begins with the same weekday and is as long the date is the same. -/
lemma gmtime64_shift {u v y z : ℤ} (hy : yearOf (u / 86400) = y) (hz : yearOf (v / 86400) = z)
    (hweek : weekDay (yearStart z) = weekDay (yearStart y)) (hleap : IsLeap z ↔ IsLeap y)
    (h : v = u + 86400 * (yearStart z - yearStart y)) :
    gmtime64 v = { gmtime64 u with year := z - 1900 } := by
  have hday : v / 86400 = u / 86400 + (yearStart z - yearStart y) := by omega
  have hyday : yearDay (v / 86400) = yearDay (u / 86400) := by
    rw [yearDay, yearDay, hy, hz, hday]
    ring
  have hjulian : julianDays z = julianDays y := by
    rw [julianDays, julianDays, if_congr hleap rfl rfl]
  have hwday : weekDay (v / 86400) = weekDay (u / 86400) := by
    rw [weekDay, weekDay] at hweek ⊢
    omega
  simp only [gmtime64, monthOfDay, hy, hz, hyday, hjulian, hwday, TM.mk.injEq, and_true]
  omega

/-- The days of a year lie in its months one after the other. -/
lemma monthAt_succ_of_fin : ∀ (leap : Fin 2) (yday : Fin 365), (yday : ℤ) + 1 < lengthOfYear leap →
    monthAt leap yday ≤ monthAt leap (yday + 1) ∧
      monthAt leap (yday + 1) ≤ monthAt leap yday + 1 := by
  decide +kernel

/-- The months of the first and the last day. -/
lemma monthAt_ends : ∀ leap : Fin 2, monthAt leap 0 = 0 ∧
    monthAt leap (lengthOfYear leap - 1) = 11 := by
  decide +kernel

lemma gmtime64_mon (t : ℤ) : (gmtime64 t).mon =
    monthAt (isLeap (yearOf (t / 86400) - 1900)) (yearDay (t / 86400)) := by
  rw [monthAt_isLeap, sub_add_cancel]
  rfl

/-- Two days of one year that lie next to each other are less than eleven months apart. -/
lemma mon_near {t u : ℤ} (hyear : yearOf (u / 86400) = yearOf (t / 86400))
    (hle : u / 86400 ≤ t / 86400 + 1) (hge : t / 86400 - 1 ≤ u / 86400) :
    (gmtime64 u).mon - (gmtime64 t).mon ≠ 11 ∧ (gmtime64 u).mon - (gmtime64 t).mon ≠ -11 := by
  have hnext {d e : ℤ} (hde : e = d + 1) (hy : yearOf e = yearOf d) :
      monthAt (isLeap (yearOf d - 1900)) (yearDay d) ≤
          monthAt (isLeap (yearOf d - 1900)) (yearDay e) ∧
        monthAt (isLeap (yearOf d - 1900)) (yearDay e) ≤
          monthAt (isLeap (yearOf d - 1900)) (yearDay d) + 1 := by
    have h0 := yearDay_nonneg d
    have hlt := yearDay_lt e
    have hcases := yearLength_cases (yearOf d)
    have hlen := lengthOfYear_isLeap (yearOf d - 1900)
    have hsucc : yearDay e = yearDay d + 1 := by
      rw [yearDay, yearDay, hy, hde]
      ring
    rw [sub_add_cancel] at hlen
    rw [hy] at hlt
    have h := monthAt_succ_of_fin (isLeap (yearOf d - 1900)) ⟨(yearDay d).toNat, by omega⟩
      (by dsimp only; omega)
    have hnat : ((yearDay d).toNat : ℤ) = yearDay d := by omega
    rwa [hnat, ← hsucc] at h
  rw [gmtime64_mon, gmtime64_mon, hyear]
  rcases lt_trichotomy (u / 86400) (t / 86400) with hlt | heq | hgt
  · have h := @hnext (u / 86400) (t / 86400) (by omega) hyear.symm
    rw [hyear] at h
    omega
  · rw [heq]
    omega
  · have h := @hnext (t / 86400) (u / 86400) (by omega) hyear
    omega

/-- The moment of the safe year that the system is asked about. -/
def safeMoment (t : ℤ) : ℤ :=
  if ShouldUseSystemLocaltime t then t
  else t + 86400 * (yearStart ((safeYear (yearOf (t / 86400))).getD 1971) -
    yearStart (yearOf (t / 86400)))

lemma moved_prev {y m : ℤ} {tm : TM} (h : tm.mon - m = 11) :
    moved y m tm = { tm with year := y - 1 } := by
  simp only [moved, if_pos h, if_neg (show ¬tm.mon - m = -11 by omega)]

lemma moved_same {y m : ℤ} {tm : TM} (h : tm.mon - m ≠ 11 ∧ tm.mon - m ≠ -11) :
    moved y m tm = { tm with year := y } := by
  simp only [moved, if_neg h.1, if_neg h.2]

lemma moved_next {y m : ℤ} {tm : TM} (h : tm.mon - m = -11) :
    moved y m tm = { tm with year := y + 1 } := by
  simp only [moved, if_pos h, if_neg (show ¬tm.mon - m = 11 by omega)]

/-- Nothing is corrected, as only leap years have a day of this number. -/
lemma corrected_gmtime64 (u : ℤ) : corrected (gmtime64 u) = gmtime64 u := by
  have hlt := yearDay_lt (u / 86400)
  have hlen := lengthOfYear_isLeap (yearOf (u / 86400) - 1900)
  rw [corrected, if_neg]
  rintro ⟨hleap, hyday⟩
  simp only [gmtime64] at hleap hyday
  rw [Fin.val_eq_zero_iff.mp hleap, sub_add_cancel] at hlen
  rw [hyday, ← hlen] at hlt
  exact absurd hlt (by decide)

/-- The first of January. -/
lemma gmtime64_newYear {u y : ℤ} (h : u / 86400 = yearStart y) :
    gmtime64 u =
      ⟨u % 60, u / 60 % 60, u / 3600 % 24, 1, 0, y - 1900, weekDay (yearStart y), 0⟩ := by
  have hyear : yearOf (yearStart y) = y :=
    yearOf_eq le_rfl (yearStart_strictMono (show y < y + 1 by omega))
  have hyday : yearDay (yearStart y) = 0 := by rw [yearDay, hyear, sub_self]
  have hmon : monthOfDay y 0 = 0 := by
    have hends := (monthAt_ends (isLeap (y - 1900))).1
    rwa [monthAt_isLeap, sub_add_cancel] at hends
  have hjulian : (julianDays y).getD 0 0 = 0 := by
    rw [julianDays]
    split_ifs
    · rfl
    · rfl
  rw [gmtime64, h, hyear, hyday, hmon, hjulian]
  rfl

/-- The last of December. -/
lemma gmtime64_mon_last {u y : ℤ} (h : u / 86400 = yearStart (y + 1) - 1) :
    (gmtime64 u).mon = 11 := by
  have hcases := yearLength_cases y
  rw [yearLength] at hcases
  have hyear : yearOf (u / 86400) = y := yearOf_eq (by omega) (by omega)
  have hlast : yearDay (u / 86400) = lengthOfYear (isLeap (y - 1900)) - 1 := by
    rw [lengthOfYear_isLeap, sub_add_cancel, yearLength, yearDay, hyear]
    omega
  rw [gmtime64_mon, hyear, hlast, (monthAt_ends _).2]
  rfl

/-- The date of the safe year is moved to that of the year. -/
lemma moved_eq {t o safe : ℤ} (ho : -86400 ≤ o ∧ o ≤ 86400)
    (hmatch : Matches (yearOf (t / 86400)) safe) :
    moved (yearOf (t / 86400) - 1900) (gmtime64 t).mon
        (gmtime64 (t + 86400 * (yearStart safe - yearStart (yearOf (t / 86400))) + o)) =
      gmtime64 (t + o) := by
  obtain ⟨-, hweek, hleap, hprev⟩ := hmatch
  obtain ⟨hlow, hhigh⟩ := yearOf_spec (t / 86400)
  set y := yearOf (t / 86400) with hy
  have hlen : yearLength safe = yearLength y := by
    rw [yearLength_eq, yearLength_eq, if_congr hleap rfl rfl]
  have hlen' : yearLength (safe - 1) = yearLength (y - 1) := by
    rw [yearLength_eq, yearLength_eq, if_congr hprev rfl rfl]
  have hcases := yearLength_cases y
  have hcases' := yearLength_cases (y - 1)
  rw [yearLength, yearLength] at hlen
  rw [yearLength, yearLength, sub_add_cancel, sub_add_cancel] at hlen'
  rw [yearLength] at hcases
  rw [yearLength, sub_add_cancel] at hcases'
  set T := t + 86400 * (yearStart safe - yearStart y) with hT
  have hday : (T + o) / 86400 = (t + o) / 86400 + (yearStart safe - yearStart y) := by omega
  rcases lt_or_ge ((t + o) / 86400) (yearStart y) with hbefore | hsame
  · -- the first of January, and locally still the last of December
    have hyear : yearOf ((t + o) / 86400) = y - 1 :=
      yearOf_eq (by omega) (by rw [sub_add_cancel]; omega)
    have hyear' : yearOf ((T + o) / 86400) = safe - 1 :=
      yearOf_eq (by omega) (by rw [sub_add_cancel]; omega)
    have hshift := gmtime64_shift (u := T + o) (v := t + o) hyear' hyear
      (by rw [weekDay, weekDay] at hweek ⊢; omega) hprev.symm (by omega)
    have hmon : (gmtime64 t).mon = 0 := by
      rw [gmtime64_newYear (show t / 86400 = yearStart y by omega)]
    have hmon' : (gmtime64 (T + o)).mon = 11 :=
      gmtime64_mon_last (y := safe - 1) (by rw [sub_add_cancel]; omega)
    rw [moved_prev (by rw [hmon, hmon']; rfl), hshift, sub_right_comm]
  · rcases lt_or_ge ((t + o) / 86400) (yearStart (y + 1)) with hin | hafter
    · -- the same year
      have hyear : yearOf ((t + o) / 86400) = y := yearOf_eq hsame hin
      have hyear' : yearOf ((T + o) / 86400) = safe := yearOf_eq (by omega) (by omega)
      have hshift := gmtime64_shift (u := T + o) (v := t + o) hyear' hyear hweek.symm hleap.symm
        (by omega)
      have hnear := mon_near (t := t) (u := t + o) (hyear.trans hy) (by omega) (by omega)
      have hmon : (gmtime64 (T + o)).mon = (gmtime64 (t + o)).mon := by rw [hshift]
      rw [moved_same (by rw [hmon]; exact hnear), hshift]
    · -- the last of December, and locally already the first of January
      have hmon : (gmtime64 t).mon = 11 := gmtime64_mon_last (y := y) (by omega)
      have hnext := gmtime64_newYear (u := t + o) (y := y + 1) (by omega)
      have hnext' := gmtime64_newYear (u := T + o) (y := safe + 1) (by omega)
      have hmod : (T + o) % 60 = (t + o) % 60 ∧ (T + o) / 60 % 60 = (t + o) / 60 % 60 ∧
          (T + o) / 3600 % 24 = (t + o) / 3600 % 24 := by omega
      have hwday : weekDay (yearStart (safe + 1)) = weekDay (yearStart (y + 1)) := by
        rw [weekDay, weekDay] at hweek ⊢
        omega
      rw [moved_next (by rw [hmon, hnext']; rfl), hnext, hnext', hmod.1, hmod.2.1, hmod.2.2, hwday,
        sub_add_eq_add_sub]

/-- The year of a moment outside of the range of the system is mapped. -/
lemma year_of_not_should {t : ℤ} (h : ¬ ShouldUseSystemLocaltime t) :
    2037 < yearOf (t / 86400) ∨ yearOf (t / 86400) < 1970 := by
  have hstart : yearStart 1970 = 0 ∧ yearStart 2038 = 24837 := ⟨rfl, rfl⟩
  obtain ⟨hlow, hhigh⟩ := yearOf_spec (t / 86400)
  by_contra hnot
  rw [not_or, not_lt, not_lt] at hnot
  have hge := yearStart_strictMono.monotone (show 1970 ≤ yearOf (t / 86400) from hnot.2)
  have hle := yearStart_strictMono.monotone (show yearOf (t / 86400) + 1 ≤ 2038 by omega)
  rw [ShouldUseSystemLocaltime] at h
  omega

/-- The system is asked about moments in its range. -/
lemma should_safeMoment (t : ℤ) : ShouldUseSystemLocaltime (safeMoment t) := by
  by_cases h : ShouldUseSystemLocaltime t
  · rwa [safeMoment, if_pos h]
  · obtain ⟨safe, hsafe, ⟨hlow, hhigh⟩, -, hleap, -⟩ := safeYear_spec (yearOf (t / 86400))
    have hlen : yearLength safe = yearLength (yearOf (t / 86400)) := by
      rw [yearLength_eq, yearLength_eq, if_congr hleap rfl rfl]
    rw [yearLength, yearLength] at hlen
    have hstart : yearStart 1971 = 365 ∧ yearStart 2038 = 24837 := ⟨rfl, rfl⟩
    have hge := yearStart_strictMono.monotone hlow
    have hle := yearStart_strictMono.monotone (show safe + 1 ≤ 2038 by omega)
    have hspec := yearOf_spec (t / 86400)
    rw [safeMoment, if_neg h, hsafe, Option.getD_some, ShouldUseSystemLocaltime]
    omega

/-- The years of two moments that are a day apart. -/
lemma yearOf_near {t o : ℤ} (ho : -86400 ≤ o ∧ o ≤ 86400) :
    yearOf (t / 86400) - 1 ≤ yearOf ((t + o) / 86400) ∧
      yearOf ((t + o) / 86400) ≤ yearOf (t / 86400) + 1 := by
  obtain ⟨hlow, hhigh⟩ := yearOf_spec (t / 86400)
  obtain ⟨hlow', hhigh'⟩ := yearOf_spec ((t + o) / 86400)
  have hcases := yearLength_cases (yearOf (t / 86400) - 1)
  have hcases' := yearLength_cases (yearOf (t / 86400) + 1)
  rw [yearLength, sub_add_cancel] at hcases
  rw [yearLength] at hcases'
  have hlt := yearStart_strictMono.lt_iff_lt (a := yearOf (t / 86400) - 1)
    (b := yearOf ((t + o) / 86400) + 1)
  have hgt := yearStart_strictMono.lt_iff_lt (a := yearOf ((t + o) / 86400))
    (b := yearOf (t / 86400) + 1 + 1)
  omega

/-- `localtime64_r` gives the local date for every moment whose year is an `int` with the one before
and the one behind it: in the zone of a system whose `localtime_r` is right in its own range, with
the offset that the zone has at the moment of the safe year. -/
lemma localtime64R_eq (offset : ℤ → ℤ) (hoffset : ∀ s, -86400 ≤ offset s ∧ offset s ≤ 86400)
    (localtimeR : ℤ → Option TM)
    (hlocal : ∀ s, ShouldUseSystemLocaltime s → localtimeR s = some (gmtime64 (s + offset s)))
    (t : ℤ) (hyear : FitsInt (yearOf (t / 86400) - 1901) ∧ FitsInt (yearOf (t / 86400) - 1899)) :
    localtime64R localtimeR t = some (some (gmtime64 (t + offset (safeMoment t)))) := by
  have ho := hoffset (safeMoment t)
  have hask := hlocal _ (should_safeMoment t)
  have hcheck : checkTm (gmtime64 (t + offset (safeMoment t))) = true := by
    have hnear := yearOf_near (t := t) ho
    refine (isDate_gmtime64 ?_).checkTm
    rw [FitsInt, FitsInt] at hyear
    rw [FitsInt]
    omega
  rw [localtime64R]
  by_cases h : ShouldUseSystemLocaltime t
  · have hmoment : safeMoment t = t := if_pos h
    rw [hmoment] at hask hcheck ⊢
    rw [if_pos h, hask, Option.bind_eq_bind, Option.bind_some, if_pos hcheck]
  · have hfits : FitsInt (yearOf (t / 86400) - 1900) := by
      rw [FitsInt, FitsInt] at hyear
      rw [FitsInt]
      omega
    obtain ⟨safe, hsafe, hmatch⟩ := safeYear_spec (yearOf (t / 86400))
    have hmoment : safeMoment t =
        t + 86400 * (yearStart safe - yearStart (yearOf (t / 86400))) := by
      rw [safeMoment, if_neg h, hsafe, Option.getD_some]
    have hyears := year_of_not_should h
    have hsafeYear : yearOf (safeMoment t / 86400) = safe := by
      obtain ⟨hlow, hhigh⟩ := yearOf_spec (t / 86400)
      have hlen : yearLength safe = yearLength (yearOf (t / 86400)) := by
        rw [yearLength_eq, yearLength_eq, if_congr hmatch.2.2.1 rfl rfl]
      rw [yearLength, yearLength] at hlen
      exact yearOf_eq (by omega) (by omega)
    have hmapped : mapped (gmtime64 t) = some (gmtime64 (safeMoment t)) := by
      have hgm : (gmtime64 t).year + 1900 = yearOf (t / 86400) := sub_add_cancel _ _
      rw [mapped, if_pos (by omega), hgm, hsafe, Option.map_some,
        gmtime64_shift rfl hsafeYear hmatch.2.1 hmatch.2.2.1 hmoment]
    have hback : timegm64 (gmtime64 (safeMoment t)) = some (safeMoment t) := by
      have hmon := monthOfDay_lt (yearOf (safeMoment t / 86400)) (yearDay (safeMoment t / 86400))
      rw [timegm64_eq (Int.natCast_nonneg _) (Int.ofNat_lt.mpr hmon), timegm_gmtime64]
    have hmon : (gmtime64 (safeMoment t)).mon = (gmtime64 t).mon := by
      rw [gmtime64_shift rfl hsafeYear hmatch.2.1 hmatch.2.2.1 hmoment]
    have hmoved := moved_eq (t := t) ho hmatch
    rw [← hmoment] at hmoved
    rw [if_neg h, gmtime64R_eq, if_pos hfits]
    simp only [Option.bind_eq_bind, Option.bind_some, hmapped, hback, hask]
    rw [hmon, show (gmtime64 t).year = yearOf (t / 86400) - 1900 from rfl, hmoved,
      corrected_gmtime64, if_pos hcheck]

/-- `getCurrentTime` gives the local date as long as the clock fits into 32 bits. -/
lemma getCurrentTime_eq {offset : ℤ → ℤ} (hoffset : ∀ s, -86400 ≤ offset s ∧ offset s ≤ 86400)
    {localtimeR : ℤ → Option TM}
    (hlocal : ∀ s, ShouldUseSystemLocaltime s → localtimeR s = some (gmtime64 (s + offset s)))
    {t : ℤ} (h0 : 0 ≤ t) (hlt : t < 2 ^ 32) :
    getCurrentTime localtimeR t =
      let date := gmtime64 (t + offset (safeMoment t))
      some (t, some { date with year := yearOf ((t + offset (safeMoment t)) / 86400) }) := by
  have hstart : yearStart 1970 = 0 ∧ yearStart 2108 = 50403 := ⟨rfl, rfl⟩
  obtain ⟨hlow, hhigh⟩ := yearOf_spec (t / 86400)
  have hge := yearStart_strictMono.lt_iff_lt (a := 1970) (b := yearOf (t / 86400) + 1)
  have hle := yearStart_strictMono.lt_iff_lt (a := yearOf (t / 86400)) (b := 2108)
  have hyear : FitsInt (yearOf (t / 86400) - 1901) ∧ FitsInt (yearOf (t / 86400) - 1899) := by
    rw [FitsInt, FitsInt]
    omega
  rw [getCurrentTime, Int.emod_eq_of_lt h0 hlt,
    localtime64R_eq offset hoffset localtimeR hlocal t hyear]
  simp only [Option.bind_eq_bind, Option.bind_some, Option.map_some]
  rw [show (gmtime64 (t + offset (safeMoment t))).year + 1900 =
    yearOf ((t + offset (safeMoment t)) / 86400) from sub_add_cancel _ _]

/-- In the zone of a system whose `localtime_r` is right in its own range `localtime64_r` gives the
local date for every moment whose year is an `int` with those beside it, with the offset that the
zone has at the moment of the safe year; and `getCurrentTime` gives it as long as the clock fits
into 32 bits. -/
theorem localDates (offset : ℤ → ℤ) (hoffset : ∀ s, -86400 ≤ offset s ∧ offset s ≤ 86400)
    (localtimeR : ℤ → Option TM)
    (hlocal : ∀ s, ShouldUseSystemLocaltime s → localtimeR s = some (gmtime64 (s + offset s))) :
    (∀ t, FitsInt (yearOf (t / 86400) - 1901) ∧ FitsInt (yearOf (t / 86400) - 1899) →
        localtime64R localtimeR t = some (some (gmtime64 (t + offset (safeMoment t))))) ∧
      ∀ t, 0 ≤ t → t < 2 ^ 32 → getCurrentTime localtimeR t =
        let date := gmtime64 (t + offset (safeMoment t))
        some (t, some { date with year := yearOf ((t + offset (safeMoment t)) / 86400) }) :=
  ⟨localtime64R_eq offset hoffset localtimeR hlocal, fun _ => getCurrentTime_eq hoffset hlocal⟩

/-- The new year of 2100, three hours east: the system is asked about the last of December 2037. -/
theorem localDates_2100 : getCurrentTime (fun s => some (gmtime64 (s + 10800))) 4102441200 =
    some (4102441200, some ⟨0, 0, 2, 1, 0, 2100, 5, 0⟩) :=
  ((localDates (fun _ => 10800) (fun _ => by decide) (fun s => some (gmtime64 (s + 10800)))
    (fun _ _ => rfl)).2 4102441200 (by decide) (by decide)).trans (by decide +kernel)

/-! ### The moment of a date -/

/-- From the year one on the leap years are right. -/
lemma lengthOfYear_isLeapAbs {n : ℤ} (h : 0 < n) :
    lengthOfYear (isLeapAbs n) = yearLength n := by
  have hmod (k : ℤ) : n.tmod k = 0 ↔ n % k = 0 := by
    rw [← Int.dvd_iff_tmod_eq_zero, Int.dvd_iff_emod_eq_zero]
  have hiff : (n.tmod 400 = 0 ∨ n.tmod 4 = 0 ∧ n.tmod 100 ≠ 0 ∧ 0 < n) ↔ IsLeap n := by
    rw [ne_eq, hmod, hmod, hmod, IsLeap]
    omega
  rw [isLeapAbs, if_congr hiff rfl rfl, yearLength_eq]
  split_ifs
  · rfl
  · rfl

lemma le_lengthOfYear : ∀ leap, 365 ≤ lengthOfYear leap := by decide

lemma secondsUp_eq {n : ℕ} {left right seconds : ℤ} (h0 : 0 < right) (hle : right ≤ left)
    (hn : left - right < n) :
    secondsUp n left right seconds =
      some (seconds + 86400 * (yearStart left - yearStart right)) := by
  induction n generalizing right seconds with
  | zero => omega
  | succ n ih =>
      rw [secondsUp]
      by_cases hne : left ≠ right
      · rw [if_pos hne, ih (by omega) (by omega) (by push_cast at hn; omega),
          lengthOfYear_isLeapAbs h0, yearLength]
        congr 1
        ring
      · rw [if_neg hne, not_ne_iff.mp hne, sub_self, mul_zero, add_zero]

/-- The loop down counts the years behind the left one. -/
lemma secondsDown_eq {n : ℕ} {left right seconds : ℤ} (h0 : 0 ≤ left) (hle : left ≤ right)
    (hn : right - left < n) :
    secondsDown n left right seconds =
      some (seconds - 86400 * (yearStart (right + 1) - yearStart (left + 1))) := by
  induction n generalizing right seconds with
  | zero => omega
  | succ n ih =>
      rw [secondsDown]
      by_cases hne : left ≠ right
      · rw [if_pos hne, ih (by omega) (by push_cast at hn; omega),
          lengthOfYear_isLeapAbs (by omega), yearLength, sub_add_cancel]
        congr 1
        ring
      · rw [if_neg hne, not_ne_iff.mp hne, sub_self, mul_zero, sub_zero]

/-- Whatever the left year, each year that is counted has at least 365 days. -/
lemma secondsDown_le {n : ℕ} {left right : ℤ} (seconds : ℤ) (hle : left ≤ right)
    (hn : right - left < n) :
    ∃ s, secondsDown n left right seconds = some s ∧
      s ≤ seconds - 86400 * 365 * (right - left) := by
  induction n generalizing right seconds with
  | zero => omega
  | succ n ih =>
      rw [secondsDown]
      by_cases hne : left ≠ right
      · obtain ⟨s, hs, hbound⟩ := @ih (right - 1)
          (seconds - lengthOfYear (isLeapAbs right) * 60 * 60 * 24) (by omega)
          (by push_cast at hn; omega)
        have hlength := le_lengthOfYear (isLeapAbs right)
        refine ⟨s, by rw [if_pos hne, hs], hbound.trans ?_⟩
        omega
      · exact ⟨seconds, if_neg hne, by omega⟩

/-- The seconds between the years are right if and only if the left one is behind 1200. -/
lemma secondsBetweenYears_iff {left right : ℤ} (hright : 1971 ≤ right ∧ right ≤ 2037)
    (hleft : left < 1971 ∨ 2037 < left) (hlen : yearLength right = yearLength left) :
    ∃ s, secondsBetweenYears left right = some s ∧
      (s = 86400 * (yearStart left - yearStart right) ↔ 1200 < left) := by
  rw [yearLength, yearLength] at hlen
  rw [secondsBetweenYears]
  by_cases hup : right < left
  · -- The left year is one behind 2037, and the cycles are skipped as they should be.
    have hskip : ∃ c, skipped left =
        (left - c * 400, c * (daysInGregorianCycle * 60 * 60 * 24)) ∧ 2037 < left - c * 400 := by
      rw [skipped]
      by_cases h : 2400 < left
      · rw [if_pos h]
        refine ⟨_, rfl, ?_⟩
        rw [Int.tdiv_eq_ediv_of_nonneg (by omega)]
        omega
      · rw [if_neg h, if_neg (by omega)]
        exact ⟨0, by rw [zero_mul, sub_zero, zero_mul], by omega⟩
    obtain ⟨c, hc, hlt⟩ := hskip
    have hcycles := yearStart_cycles (left - c * 400) c
    rw [sub_add_cancel] at hcycles
    rw [hc]
    dsimp only
    rw [if_pos hup, secondsUp_eq (by omega) (by omega) (by push_cast; omega)]
    refine ⟨_, rfl, iff_of_true ?_ (by omega)⟩
    rw [hcycles]
    ring
  · rcases lt_or_ge 1200 left with hlate | hearly
    · -- No cycles are skipped, and the lengths of the first and the last year are the same.
      have hskip : skipped left = (left, 0) := by
        rw [skipped, if_neg (by omega)]
        split_ifs
        · rw [show left - 1600 = -(1600 - left) by ring, Int.neg_tdiv,
            Int.tdiv_eq_ediv_of_nonneg (by omega), show (1600 - left) / 400 = 0 by omega, neg_zero]
          dsimp only
          rw [zero_mul, zero_mul, add_zero]
        · rfl
      rw [hskip]
      dsimp only
      rw [if_neg hup, secondsDown_eq (by omega) (by omega) (by push_cast; omega)]
      exact ⟨_, rfl, iff_of_true (by omega) hlate⟩
    · -- The cycles are added to the year instead of being taken off it.
      obtain ⟨c, hc, hpos, hbound⟩ : ∃ c, skipped left =
          (left - c * 400, -c * (daysInGregorianCycle * 60 * 60 * 24)) ∧ 1 ≤ c ∧
            1600 - left < 400 * c + 400 := by
        refine ⟨(1600 - left) / 400, ?_, by omega, by omega⟩
        rw [skipped, if_neg (by omega), if_pos (by omega),
          show left - 1600 = -(1600 - left) by ring, Int.neg_tdiv,
          Int.tdiv_eq_ediv_of_nonneg (by omega)]
        dsimp only
        rw [neg_mul, ← sub_eq_add_neg]
      rw [hc]
      dsimp only
      obtain ⟨s, hs, hle⟩ := secondsDown_le (n := (right - (left - c * 400)).toNat + 1)
        (-c * (daysInGregorianCycle * 60 * 60 * 24)) (show left - c * 400 ≤ right by omega)
        (by push_cast; omega)
      rw [if_neg hup, hs]
      refine ⟨s, rfl, iff_of_false ?_ (by omega)⟩
      rw [daysInGregorianCycle] at hle
      rw [yearStart, yearStart]
      omega

/-- The date that the system is asked about. -/
def safeDate (date : TM) : TM :=
  if DateInSafeRange date then date
  else { date with year := (safeYear (date.year + 1900)).getD 1971 - 1900 }

@[simp] lemma safeDate_yday (date : TM) : (safeDate date).yday = date.yday := by
  rw [safeDate]
  split_ifs <;> rfl

/-- The years between the bounds are in the safe range, and no others but theirs are. -/
lemma dateInSafeRange_year {date : TM} :
    (71 ≤ date.year ∧ date.year ≤ 137 → DateInSafeRange date) ∧
      (DateInSafeRange date → 1 ≤ date.year ∧ date.year ≤ 138) := by
  have hcmp (right : TM) : (date.year < right.year → cmpDate date right = .lt) ∧
      (right.year < date.year → cmpDate date right = .gt) := by
    refine ⟨fun h => ?_, fun h => ?_⟩
    · rw [cmpDate, compare_lt_iff_lt.mpr h]
      rfl
    · rw [cmpDate, compare_gt_iff_gt.mpr h]
      rfl
  obtain ⟨hmin, hmin'⟩ := hcmp systemMktimeMin
  obtain ⟨hmax, hmax'⟩ := hcmp systemMktimeMax
  refine ⟨fun ⟨hlow, hhigh⟩ => ⟨?_, ?_⟩, fun ⟨hlow, hhigh⟩ => ⟨?_, ?_⟩⟩
  · rw [hmin' (by rw [systemMktimeMin]; dsimp only; omega)]
    decide
  · rw [hmax (by rw [systemMktimeMax]; dsimp only; omega)]
    decide
  · by_contra h
    exact hlow (hmin (by rw [systemMktimeMin]; dsimp only; omega))
  · by_contra h
    exact hhigh (hmax' (by rw [systemMktimeMax]; dsimp only; omega))

/-- With the safe year a date is one again, its moment being moved by the years in between. -/
lemma isDate_safe {date : TM} (h : IsDate date) {safe : ℤ}
    (hmatch : Matches (date.year + 1900) safe) :
    IsDate { date with year := safe - 1900 } ∧
      timegm { date with year := safe - 1900 } =
        timegm date - 86400 * (yearStart (date.year + 1900) - yearStart safe) := by
  obtain ⟨⟨hlow, hhigh⟩, hweek, hleap, -⟩ := hmatch
  have heq : isLeap (safe - 1900) = isLeap date.year := by
    rw [isLeap_eq, isLeap_eq, sub_add_cancel, if_congr hleap rfl rfl]
  refine ⟨⟨?_, h.sec, h.min, h.hour, h.mon, ?_, ?_, ?_⟩, ?_⟩
  · rw [FitsInt]
    dsimp only
    omega
  · rw [heq]
    exact h.mday
  · rw [heq]
    exact h.yday
  · dsimp only
    rw [h.wday, sub_add_cancel, weekDay, weekDay]
    rw [weekDay, weekDay] at hweek
    omega
  · have hmon := h.mon
    have hfull : fullYear { date with year := safe - 1900 } = safe := by
      rw [fullYear]
      dsimp only
      omega
    have hfull' : fullYear date = date.year + 1900 := by
      rw [fullYear]
      omega
    have hjulian : julianDays safe = julianDays (date.year + 1900) := by
      rw [julianDays, julianDays, if_congr hleap rfl rfl]
    rw [timegm, timegm, hfull, hfull', hjulian]
    ring

/-- What `mktime64` gives for a date, over a system whose `mktime` is right in the safe range: the
moment, but for some seconds, which are none if and only if the year is behind 1200, and the date
with the safe year. -/
lemma mktime64_date (offset : TM → ℤ) {mktime : TM → ℤ × TM}
    (hmktime : ∀ tm, IsDate tm → DateInSafeRange tm → mktime tm = (timegm tm - offset tm, tm))
    {date : TM} (h : IsDate date) :
    ∃ s, mktime64 mktime date = some (timegm date - offset (safeDate date) + s, safeDate date) ∧
      (s = 0 ↔ 1200 < date.year + 1900) := by
  by_cases hrange : DateInSafeRange date
  · have hyear := dateInSafeRange_year.2 hrange
    rw [mktime64, safeDate, if_pos hrange, if_pos hrange, hmktime date h hrange]
    exact ⟨0, by rw [add_zero], iff_of_true rfl (by omega)⟩
  · have hyear := mt dateInSafeRange_year.1 hrange
    obtain ⟨safe, hsafe, hmatch⟩ := safeYear_spec (date.year + 1900)
    obtain ⟨hdate, htimegm⟩ := isDate_safe h hmatch
    obtain ⟨⟨hlow, hhigh⟩, -, hleap, -⟩ := hmatch
    have hin : DateInSafeRange { date with year := safe - 1900 } :=
      dateInSafeRange_year.1 ⟨by dsimp only; omega, by dsimp only; omega⟩
    have hlen : yearLength safe = yearLength (date.year + 1900) := by
      rw [yearLength_eq, yearLength_eq, if_congr hleap rfl rfl]
    obtain ⟨s, hs, hiff⟩ := secondsBetweenYears_iff ⟨hlow, hhigh⟩
      (show date.year + 1900 < 1971 ∨ 2037 < date.year + 1900 by omega) hlen
    rw [mktime64, safeDate, if_neg hrange, if_neg hrange, hsafe, Option.bind_eq_bind,
      Option.bind_some, Option.getD_some, hmktime _ hdate hin]
    dsimp only
    rw [sub_add_cancel, hs, htimegm]
    refine ⟨s - 86400 * (yearStart (date.year + 1900) - yearStart safe), ?_, ?_⟩
    · dsimp only [Option.bind_some]
      congr 2
      ring
    · rw [← hiff, sub_eq_zero]

/-- `mktime64` gives the moment of a date by the zone of a system whose `mktime` is right in the
safe range, if and only if the year of the date is behind 1200. Outside of the range it leaves the
safe year in the date. -/
theorem mktime64_iff (offset : TM → ℤ) (mktime : TM → ℤ × TM)
    (hmktime : ∀ tm, IsDate tm → DateInSafeRange tm → mktime tm = (timegm tm - offset tm, tm))
    (date : TM) (h : IsDate date) :
    (∃ time, mktime64 mktime date = some (time, safeDate date) ∧
        (time = timegm date - offset (safeDate date) ↔ 1200 < date.year + 1900)) := by
  obtain ⟨s, hs, hiff⟩ := mktime64_date offset hmktime h
  exact ⟨_, hs, by rw [← hiff, add_eq_left]⟩

/-- The first of January 1200: the date is right, and its moment is off by two cycles. -/
theorem mktime64_iff_1200 : ∃ time, mktime64 (fun tm => (timegm tm, tm))
    ⟨0, 0, 0, 1, 0, -700, 6, 0⟩ = some (time, ⟨0, 0, 0, 1, 0, 72, 6, 0⟩) ∧
      time ≠ timegm ⟨0, 0, 0, 1, 0, -700, 6, 0⟩ := by
  have hdate : IsDate ⟨0, 0, 0, 1, 0, -700, 6, 0⟩ := by
    constructor
    all_goals decide +kernel
  obtain ⟨time, htime, hiff⟩ := mktime64_iff (fun _ => 0) (fun tm => (timegm tm, tm))
    (fun tm _ _ => by rw [sub_zero]) _ hdate
  have hsafe : safeDate ⟨0, 0, 0, 1, 0, -700, 6, 0⟩ = ⟨0, 0, 0, 1, 0, 72, 6, 0⟩ := by decide +kernel
  rw [hsafe] at htime
  refine ⟨time, htime, fun h => ?_⟩
  exact absurd (hiff.mp (h.trans (sub_zero _).symm)) (by decide)

end Time64

end Tritonn
