import Mathlib.Algebra.BigOperators.Intervals
import Mathlib.Algebra.Order.BigOperators.Group.Finset
import Mathlib.Order.Interval.Finset.Nat

/-! The Gregorian calendar, with its days and seconds numbered from the start of some first year. -/

namespace Calendar

open Finset

section Units

variable {start : ℕ → ℕ} {k l m n : ℕ}

/-- A number of the given unit, where units start at the given numbers. -/
def Within (start : ℕ → ℕ) (k n : ℕ) : Prop := start k ≤ n ∧ n < start (k + 1)

/-- A number in an earlier unit is smaller than one in a later unit. -/
theorem Within.lt_of_lt (mono : Monotone start) (first : Within start k m)
    (second : Within start l n) (earlier : k < l) : m < n :=
  first.2.trans_le ((mono earlier).trans second.1)

/-- A number is in one unit only. -/
theorem Within.unique (mono : Monotone start) (first : Within start k n)
    (second : Within start l n) : k = l := by
  -- The units are ordered, and each order but the equality separates the numbers.
  rcases lt_trichotomy k l with earlier | same | later
  · exact absurd (first.lt_of_lt mono second earlier) (lt_irrefl n)
  · exact same
  · exact absurd (second.lt_of_lt mono first later) (lt_irrefl n)

/-- Numbers are ordered by their units first, and by themselves within a unit. -/
theorem Within.lt_iff (mono : Monotone start) (first : Within start k m)
    (second : Within start l n) : m < n ↔ k < l ∨ k = l ∧ m < n := by
  constructor
  · intro smaller
    -- The order of the units decides, unless they are the same.
    rcases lt_trichotomy k l with earlier | same | later
    · exact .inl earlier
    · exact .inr ⟨same, smaller⟩
    · exact absurd (second.lt_of_lt mono first later) smaller.asymm
  · rintro (earlier | ⟨_, smaller⟩)
    · exact first.lt_of_lt mono second earlier
    · exact smaller

end Units

variable {first year month : ℕ}

/-- Every fourth year is a leap year, but of the full centuries only every fourth one is. -/
def IsLeap (year : ℕ) : Prop := 4 ∣ year ∧ (100 ∣ year → 400 ∣ year)

instance : DecidablePred IsLeap := fun _ => inferInstanceAs (Decidable (_ ∧ _))

/-- The days of a month, where January is month one. -/
def daysInMonth (year : ℕ) : ℕ → ℕ
  | 2 => if IsLeap year then 29 else 28
  | 4 | 6 | 9 | 11 => 30
  | _ => 31

def daysInYear (year : ℕ) : ℕ := if IsLeap year then 366 else 365

/-- The days of a year before its given month. -/
def daysBeforeMonth (year month : ℕ) : ℕ := ∑ m ∈ Ico 1 month, daysInMonth year m

/-- The days from the start of the first year to the start of a year. -/
def daysBeforeYear (first year : ℕ) : ℕ := ∑ y ∈ Ico first year, daysInYear y

@[simp] theorem daysBeforeMonth_one : daysBeforeMonth year 1 = 0 := rfl

@[simp] theorem daysBeforeYear_self : daysBeforeYear first first = 0 := by simp [daysBeforeYear]

/-- A month starts when the one before it is over. -/
theorem daysBeforeMonth_succ (valid : 1 ≤ month) :
    daysBeforeMonth year (month + 1) = daysBeforeMonth year month + daysInMonth year month :=
  sum_Ico_succ_top valid _

/-- A year starts when the one before it is over. -/
theorem daysBeforeYear_succ (valid : first ≤ year) :
    daysBeforeYear first (year + 1) = daysBeforeYear first year + daysInYear year :=
  sum_Ico_succ_top valid _

/-- Later months start later. -/
theorem daysBeforeMonth_mono : Monotone (daysBeforeMonth year) := fun _ _ earlier =>
  sum_le_sum_of_subset (Ico_subset_Ico_right earlier)

/-- Later years start later. -/
theorem daysBeforeYear_mono : Monotone (daysBeforeYear first) := fun _ _ earlier =>
  sum_le_sum_of_subset (Ico_subset_Ico_right earlier)

/-- Twelve months are a year. -/
theorem daysBeforeMonth_thirteen : daysBeforeMonth year 13 = daysInYear year := by
  -- The sum is written out, with both lengths of February.
  by_cases leap : IsLeap year <;>
    simp [daysBeforeMonth, daysInYear, sum_Ico_succ_top, daysInMonth, leap]

/-- Every year has three hundred and sixty-five days, or one more. -/
theorem le_daysInYear : 365 ≤ daysInYear year := by
  unfold daysInYear
  split <;> decide

/-- The days of the years between are three hundred and sixty-five for each, or more. -/
theorem le_daysBeforeYear : 365 * (year - first) ≤ daysBeforeYear first year := by
  -- Each year of the sum has at least so many days.
  have each : ∀ y ∈ Ico first year, 365 ≤ daysInYear y := fun _ _ => le_daysInYear
  have total := card_nsmul_le_sum _ _ _ each
  rw [Nat.card_Ico, Nat.nsmul_eq_mul, Nat.mul_comm] at total
  exact total

/-- No month is longer than thirty-one days, or shorter than twenty-eight. -/
theorem daysInMonth_bounds : 28 ≤ daysInMonth year month ∧ daysInMonth year month ≤ 31 := by
  unfold daysInMonth
  -- February has two lengths.
  split <;> (try split) <;> decide

/-- A day of the calendar. -/
structure Date where
  year : ℕ
  month : ℕ
  day : ℕ
  month_pos : 1 ≤ month
  month_le : month ≤ 12
  day_pos : 1 ≤ day
  day_le : day ≤ daysInMonth year month
  deriving DecidableEq

namespace Date

variable {d e : Date}

/-- The days of the year before a day. -/
def dayOfYear (d : Date) : ℕ := daysBeforeMonth d.year d.month + (d.day - 1)

/-- The days before a day, counted from the start of the first year. -/
def dayNumber (first : ℕ) (d : Date) : ℕ := daysBeforeYear first d.year + d.dayOfYear

/-- The day of the year tells the month. -/
theorem within_month (d : Date) : Within (daysBeforeMonth d.year) d.month d.dayOfYear := by
  -- The day is one of its month, which ends where the next one begins.
  have length := d.day_le
  have positive := d.day_pos
  constructor
  · exact Nat.le_add_right _ _
  · rw [daysBeforeMonth_succ d.month_pos, dayOfYear]
    omega

/-- A day comes before the end of its year. -/
theorem dayOfYear_lt (d : Date) : d.dayOfYear < daysInYear d.year := by
  -- December ends with the year.
  rw [← daysBeforeMonth_thirteen]
  exact d.within_month.2.trans_le (daysBeforeMonth_mono (Nat.succ_le_succ d.month_le))

/-- The number of a day tells the year. -/
theorem within_year (d : Date) (valid : first ≤ d.year) :
    Within (daysBeforeYear first) d.year (d.dayNumber first) := by
  -- The day of the year is less than the length of the year.
  constructor
  · exact Nat.le_add_right _ _
  · rw [daysBeforeYear_succ valid]
    exact Nat.add_lt_add_left d.dayOfYear_lt _

/-- A day is told by its number. -/
theorem eq_of_dayNumber_eq (validD : first ≤ d.year) (validE : first ≤ e.year)
    (same : d.dayNumber first = e.dayNumber first) : d = e := by
  -- The number tells the year, the day of the year tells the month, and the rest tells the day.
  have year : d.year = e.year :=
    (d.within_year validD).unique daysBeforeYear_mono (same ▸ e.within_year validE)
  have dayOfYear : d.dayOfYear = e.dayOfYear := by
    unfold dayNumber at same
    rw [year] at same
    exact Nat.add_left_cancel same
  have month : d.month = e.month :=
    d.within_month.unique daysBeforeMonth_mono (by rw [year, dayOfYear]; exact e.within_month)
  have day : d.day = e.day := by
    have positive := d.day_pos
    have positive' := e.day_pos
    unfold Date.dayOfYear at dayOfYear
    rw [year, month] at dayOfYear
    omega
  cases d
  cases e
  simp_all

end Date

/-- A second of the calendar, in universal time without leap seconds. -/
structure Instant extends Date where
  hours : ℕ
  minutes : ℕ
  seconds : ℕ
  hours_lt : hours < 24
  minutes_lt : minutes < 60
  seconds_lt : seconds < 60
  deriving DecidableEq

/-- The seconds from the start of the first year. -/
def Instant.toSeconds (first : ℕ) (d : Instant) : ℕ :=
  d.dayNumber first * 86400 + (d.hours * 3600 + d.minutes * 60 + d.seconds)

end Calendar
