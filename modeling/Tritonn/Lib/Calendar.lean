import Tritonn.Lib.Cells

/-!
The Gregorian calendar from 1970 on, by days and months that are numbered from the first of January
1970.

* `months` and `years` cut the days into months and years;
* `monthDay`, `yearDay` and `weekDay` are the numbers of a day in its month, year and week, and
  `isoWeek` is the number of its week.
-/

namespace Calendar

/-- A year of 366 days. -/
def IsLeap (y : ℕ) : Prop := y % 4 = 0 ∧ (y % 100 ≠ 0 ∨ y % 400 = 0)

instance (y : ℕ) : Decidable (IsLeap y) := inferInstanceAs (Decidable (_ ∧ _))

/-- The length of a month in days. -/
def monthLength (k : ℕ) : ℕ :=
  [31, if IsLeap (1970 + k / 12) then 29 else 28, 31, 30, 31, 30, 31, 31, 30, 31, 30].getD
    (k % 12) 31

/-- The first day of a month. -/
def monthStart : ℕ → ℕ
  | 0 => 0
  | k + 1 => monthStart k + monthLength k

lemma monthLength_ge (k : ℕ) : 28 ≤ monthLength k := by
  have hk : k % 12 < 12 := Nat.mod_lt k (by decide)
  rw [monthLength]
  interval_cases k % 12
  all_goals simp
  split_ifs <;> decide

lemma monthStart_strictMono : StrictMono monthStart :=
  strictMono_nat_of_lt_succ fun k => by
    have := monthLength_ge k
    rw [monthStart]
    omega

/-- The month of a day. -/
def monthOf (d : ℕ) : ℕ := Nat.findGreatest (fun k => monthStart k ≤ d) d

lemma monthStart_monthOf_le (d : ℕ) : monthStart (monthOf d) ≤ d :=
  Nat.findGreatest_spec (P := fun k => monthStart k ≤ d) (Nat.zero_le d) (Nat.zero_le d)

lemma lt_monthStart_succ (d : ℕ) : d < monthStart (monthOf d + 1) := by
  by_contra! h
  have hle : monthOf d + 1 ≤ d := (monthStart_strictMono.le_apply).trans h
  exact absurd (Nat.le_findGreatest hle h) (Nat.not_succ_le_self _)

/-- The months, in days. -/
def months : Cells 0 where
  start := monthStart
  cell := monthOf
  start_le := monthStart_monthOf_le
  lt_start := lt_monthStart_succ
  gap k := monthStart_strictMono (Nat.lt_succ_self k)

local instance neZero_twelve : NeZero 12 := ⟨by decide⟩

/-- The years, in days; the first of them is 1970. -/
def years : Cells 0 := months.group 12

/-- The number of a day in its month, from one on. -/
def monthDay (d : ℕ) : ℕ := d - monthStart (monthOf d) + 1

/-- The number of a day in its year, from zero on. -/
def yearDay (d : ℕ) : ℕ := d - years.start (years.cell d)

/-- The number of a day in its week: Sunday is zero. -/
def weekDay (d : ℕ) : ℕ := (d + 4) % 7

/-- The number of the week of a day: weeks begin on Monday, and belong to the year of their
Thursday. -/
def isoWeek (d : ℕ) : ℕ := yearDay (d + 3 - (d + 3) % 7) / 7 + 1

lemma monthDay_eq_one_iff {d : ℕ} : monthDay d = 1 ↔ ∃ k, monthStart k = d := by
  have hle := monthStart_monthOf_le d
  constructor
  · intro h
    rw [monthDay] at h
    exact ⟨monthOf d, by omega⟩
  · rintro ⟨k, rfl⟩
    have hcell : monthOf (monthStart k) = k := months.cell_start k
    rw [monthDay, hcell, Nat.sub_self]

/-- The number of the day in the month changes every day. -/
lemma monthDay_ne_succ (d : ℕ) : monthDay d ≠ monthDay (d + 1) := by
  have hle := monthStart_monthOf_le d
  have hlt := lt_monthStart_succ d
  have hlength := monthLength_ge (monthOf d)
  have hsucc : monthStart (monthOf d + 1) = monthStart (monthOf d) + monthLength (monthOf d) := rfl
  by_cases hd : d + 1 < monthStart (monthOf d + 1)
  · have hsame : monthOf (d + 1) = monthOf d := months.cell_eq (hle.trans (Nat.le_succ d)) hd
    rw [monthDay, monthDay, hsame]
    omega
  · have hone : monthDay (d + 1) = 1 :=
      monthDay_eq_one_iff.mpr ⟨monthOf d + 1, by omega⟩
    rw [hone, monthDay]
    omega

end Calendar
