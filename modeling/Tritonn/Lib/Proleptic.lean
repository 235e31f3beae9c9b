import Tritonn.Lib.Calendar

/-!
The Gregorian calendar in both directions, by days that are numbered from the first of January 1970.

* `yearStart` is the first day of a year and `yearOf` the year of a day;
* `yearDay` and `weekDay` are the numbers of a day in its year and week, and `isoWeek` is the number
  of its week;
* `isoWeek_eq` says it by the day of the year and the lengths of the years alone;
* `yearStart_eq` and `isoWeek_natCast` say that from 1970 on they are those of the other count.
-/

namespace Proleptic

/-- The first day of a year. -/
def yearStart (y : ℤ) : ℤ :=
  365 * (y - 1970) + (y - 1) / 4 - (y - 1) / 100 + (y - 1) / 400 - 477

/-- The length of a year. -/
def yearLength (y : ℤ) : ℤ := yearStart (y + 1) - yearStart y

/-- A year of 366 days. -/
def IsLeap (y : ℤ) : Prop := y % 4 = 0 ∧ (y % 100 ≠ 0 ∨ y % 400 = 0)

instance (y : ℤ) : Decidable (IsLeap y) := inferInstanceAs (Decidable (_ ∧ _))

lemma yearLength_eq (y : ℤ) : yearLength y = if IsLeap y then 366 else 365 := by
  rw [yearLength, yearStart, yearStart]
  split_ifs with h
  · rw [IsLeap] at h
    omega
  · rw [IsLeap] at h
    omega

lemma yearLength_cases (y : ℤ) : yearLength y = 365 ∨ yearLength y = 366 := by
  rw [yearLength_eq]
  split_ifs
  · exact .inr rfl
  · exact .inl rfl

/-- The year by the mean length, which is off by one at most. -/
def yearGuess (d : ℤ) : ℤ := 1970 + 400 * d / 146097

/-- The year of a day. -/
def yearOf (d : ℤ) : ℤ :=
  if d < yearStart (yearGuess d) then yearGuess d - 1
  else if yearStart (yearGuess d + 1) ≤ d then yearGuess d + 1
  else yearGuess d

lemma yearStart_guess (d : ℤ) :
    yearStart (yearGuess d - 1) ≤ d ∧ d < yearStart (yearGuess d + 1 + 1) := by
  rw [yearStart, yearStart, yearGuess]
  constructor
  · omega
  · omega

theorem yearOf_spec (d : ℤ) : yearStart (yearOf d) ≤ d ∧ d < yearStart (yearOf d + 1) := by
  obtain ⟨hlow, hhigh⟩ := yearStart_guess d
  rw [yearOf]
  split_ifs with hbefore hafter
  · rw [Int.sub_add_cancel]
    exact ⟨hlow, hbefore⟩
  · exact ⟨hafter, hhigh⟩
  · exact ⟨not_lt.mp hbefore, not_le.mp hafter⟩

lemma yearStart_strictMono : StrictMono yearStart :=
  strictMono_int_of_lt_succ fun y => by
    have h := yearLength_cases y
    rw [yearLength] at h
    omega

/-- The year of a day is the one in which it lies. -/
theorem yearOf_eq {d y : ℤ} (hlow : yearStart y ≤ d) (hhigh : d < yearStart (y + 1)) :
    yearOf d = y := by
  obtain ⟨h, h'⟩ := yearOf_spec d
  have hlt := yearStart_strictMono.lt_iff_lt.mp (hlow.trans_lt h')
  have hgt := yearStart_strictMono.lt_iff_lt.mp (h.trans_lt hhigh)
  omega

/-- The number of a day in its year, from zero on. -/
def yearDay (d : ℤ) : ℤ := d - yearStart (yearOf d)

/-- The number of a day in its week: Sunday is zero. -/
def weekDay (d : ℤ) : ℤ := (d + 4) % 7

lemma weekDay_mem (d : ℤ) : 0 ≤ weekDay d ∧ weekDay d < 7 :=
  ⟨Int.emod_nonneg _ (by decide), Int.emod_lt_of_pos _ (by decide)⟩

/-- The number of the week of a day: weeks begin on Monday, and belong to the year of their
Thursday. -/
def isoWeek (d : ℤ) : ℤ := yearDay (d + 3 - (d + 3) % 7) / 7 + 1

/-- A day by the first of January of its year. -/
lemma eq_yearStart_add (d : ℤ) : d = yearStart (yearOf d) + yearDay d :=
  (add_sub_cancel (yearStart (yearOf d)) d).symm

lemma yearDay_nonneg (d : ℤ) : 0 ≤ yearDay d := by
  have h := (yearOf_spec d).1
  rw [yearDay]
  omega

lemma yearDay_lt (d : ℤ) : yearDay d < yearLength (yearOf d) := by
  have h := (yearOf_spec d).2
  rw [yearDay, yearLength]
  omega

/-- The number of the week: of the last week of the year before, of the first one of the next, or of
a week of the year. -/
theorem isoWeek_eq (d : ℤ) :
    isoWeek d =
      if yearDay d + 3 < (d + 3) % 7 then
        (yearDay d + 3 - (d + 3) % 7 + yearLength (yearOf d - 1)) / 7 + 1
      else if yearLength (yearOf d) ≤ yearDay d + 3 - (d + 3) % 7 then 1
      else (yearDay d + 3 - (d + 3) % 7) / 7 + 1 := by
  obtain ⟨hlow, hhigh⟩ := yearOf_spec d
  have hlength := yearLength_cases (yearOf d - 1)
  have hlength' := yearLength_cases (yearOf d + 1)
  rw [yearLength, Int.sub_add_cancel] at hlength
  rw [yearLength] at hlength'
  rw [isoWeek, yearDay, yearDay, yearLength, yearLength, Int.sub_add_cancel]
  split_ifs with hbefore hbehind
  · rw [yearOf_eq (y := yearOf d - 1) (by omega) (by rw [Int.sub_add_cancel]; omega)]
    omega
  · rw [yearOf_eq (y := yearOf d + 1) (by omega) (by omega)]
    omega
  · rw [yearOf_eq (y := yearOf d) (by omega) (by omega)]
    omega

/-! ### The other count -/

/-- The lengths of the months of a year. -/
lemma monthLength_add (c : ℕ) {i : ℕ} (hi : i < 12) :
    Calendar.monthLength (12 * c + i) =
      [31, if Calendar.IsLeap (1970 + c) then 29 else 28, 31, 30, 31, 30, 31, 31, 30, 31,
        30].getD i 31 := by
  have hyear : (12 * c + i) / 12 = c := by omega
  have hmonth : (12 * c + i) % 12 = i := by omega
  rw [Calendar.monthLength, hyear, hmonth]

lemma monthStart_add (k n : ℕ) : Calendar.monthStart (k + n) =
    Calendar.monthStart k + ∑ i ∈ Finset.range n, Calendar.monthLength (k + i) := by
  induction n with
  | zero => simp
  | succ n ih =>
      rw [Finset.sum_range_succ, ← Nat.add_assoc (Calendar.monthStart k), ← ih]
      rfl

lemma monthStart_succ_year (c : ℕ) :
    Calendar.monthStart (12 * (c + 1)) = Calendar.monthStart (12 * c) +
      if Calendar.IsLeap (1970 + c) then 366 else 365 := by
  have hsum : ∑ i ∈ Finset.range 12, Calendar.monthLength (12 * c + i) =
      ∑ i ∈ Finset.range 12, [31, if Calendar.IsLeap (1970 + c) then 29 else 28, 31, 30, 31, 30,
        31, 31, 30, 31, 30].getD i 31 :=
    Finset.sum_congr rfl fun i hi => monthLength_add c (Finset.mem_range.mp hi)
  rw [Nat.mul_succ, monthStart_add, hsum]
  split_ifs
  · rfl
  · rfl

/-- From 1970 on the years are those of the other count. -/
theorem yearStart_eq (c : ℕ) : yearStart (1970 + c) = Calendar.years.start c := by
  have hstart : ∀ c, Calendar.years.start c = Calendar.monthStart (12 * c) := fun _ => rfl
  rw [hstart]
  induction c with
  | zero => rfl
  | succ c ih =>
      have hlength := yearLength_eq (1970 + c)
      rw [yearLength, ih] at hlength
      have hleap : IsLeap (1970 + c) ↔ Calendar.IsLeap (1970 + c) := by
        rw [IsLeap, Calendar.IsLeap]
        omega
      rw [monthStart_succ_year, Nat.cast_succ, ← add_assoc]
      simp only [hleap] at hlength
      split_ifs at hlength ⊢
      · push_cast
        omega
      · push_cast
        omega

/-- The weeks are the same, too. -/
theorem isoWeek_natCast (d : ℕ) : isoWeek d = Calendar.isoWeek d := by
  have hday : ∀ d : ℕ, yearDay d = Calendar.yearDay d := by
    intro d
    have hlow := Calendar.years.start_le d
    have hhigh := Calendar.years.lt_start d
    have hyear : yearOf d = 1970 + Calendar.years.cell d := by
      refine yearOf_eq ?_ ?_
      · rw [yearStart_eq]
        exact Int.ofNat_le.mpr hlow
      · have hnext := yearStart_eq (Calendar.years.cell d + 1)
        rw [Nat.cast_succ, ← add_assoc] at hnext
        rw [hnext]
        exact Int.ofNat_lt.mpr hhigh
    rw [yearDay, hyear, yearStart_eq, Calendar.yearDay]
    omega
  have hthursday : (d : ℤ) + 3 - (d + 3) % 7 = (d + 3 - (d + 3) % 7 : ℕ) := by omega
  rw [isoWeek, hthursday, hday, Calendar.isoWeek]
  push_cast
  rfl

lemma years_succ (c : ℕ) : Calendar.years.start (c + 1) = Calendar.years.start c +
    if Calendar.IsLeap (1970 + c) then 366 else 365 := monthStart_succ_year c

/-- The week after the week of a Monday has the next number, unless it is the first of a year. -/
theorem isoWeek_add_seven {d : ℕ} (h : d % 7 = 4) :
    Calendar.isoWeek (d + 7) = Calendar.isoWeek d + 1 ∧ Calendar.isoWeek d ≤ 52 ∨
      Calendar.isoWeek (d + 7) = 1 ∧ 52 ≤ Calendar.isoWeek d ∧ Calendar.isoWeek d ≤ 53 := by
  have hthursday : d + 3 - (d + 3) % 7 = d + 3 := by omega
  have hthursday' : d + 7 + 3 - (d + 7 + 3) % 7 = d + 10 := by omega
  rw [Calendar.isoWeek, Calendar.isoWeek, hthursday, hthursday', Calendar.yearDay,
    Calendar.yearDay]
  have hlow := Calendar.years.start_le (d + 3)
  have hhigh := Calendar.years.lt_start (d + 3)
  have hlength := years_succ (Calendar.years.cell (d + 3))
  have hlength' := years_succ (Calendar.years.cell (d + 3) + 1)
  set k := Calendar.years.cell (d + 3)
  by_cases hsame : d + 10 < Calendar.years.start (k + 1)
  · have hcell : Calendar.years.cell (d + 10) = k := Cells.cell_eq (by omega) hsame
    rw [hcell]
    split_ifs at hlength
    all_goals omega
  · have hcell : Calendar.years.cell (d + 10) = k + 1 := by
      refine Cells.cell_eq (by omega) ?_
      split_ifs at hlength'
      all_goals omega
    rw [hcell]
    split_ifs at hlength
    all_goals omega

end Proleptic
