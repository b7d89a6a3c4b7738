import EasyEvse.Clock.OcppTimepoint

/-! The fields of a timestamp: the right date, except on the first day of most months. -/

namespace EasyEvse.Clock

open Calendar

/-- The loop bounds use the calendar's leap years. -/
theorem isLeapYear_iff {year : ℕ} : isLeapYear year = true ↔ IsLeap year := by
  simp only [isLeapYear, IsLeap, decide_eq_true_eq]
  -- Both are conditions on the same three remainders.
  omega

/-- The bound of the loop over years is the length of the year. -/
theorem daysInYear_eq {year : ℕ} : (if isLeapYear year then 366 else 365) = daysInYear year := by
  simp only [daysInYear, isLeapYear_iff]

/-- The table has the lengths of the months. -/
theorem monthDays_get {year index : ℕ} (valid : index < (monthDays year).length) :
    (monthDays year)[index] = daysInMonth year (index + 1) := by
  have twelve : index < 12 := valid
  -- There are twelve months, and two kinds of years.
  by_cases leap : IsLeap year <;> interval_cases index <;>
    simp [monthDays, daysInMonth, isLeapYear_iff, leap]

/-- The loop over years ends in the year of the day, and leaves the day of that year. -/
theorem countYears_spec {fuel first year day : ℕ} (enough : day < fuel) (valid : first ≤ year) :
    year ≤ (countYears fuel year day).1 ∧
    daysBeforeYear first (countYears fuel year day).1 + (countYears fuel year day).2 =
      daysBeforeYear first year + day ∧
    (countYears fuel year day).2 < daysInYear (countYears fuel year day).1 := by
  -- A year that is taken off is added to the days before the next one.
  induction fuel generalizing year day with
  | zero => omega
  | succ fuel ih =>
    simp only [countYears, daysInYear_eq]
    -- The year is taken off if the day is beyond it.
    split_ifs with long
    · have positive : 365 ≤ daysInYear year := le_daysInYear
      have rest : day - daysInYear year < fuel := by omega
      have next : first ≤ year + 1 := by omega
      obtain ⟨later, same, short⟩ := ih rest next
      refine ⟨by omega, ?_, short⟩
      rw [same, daysBeforeYear_succ valid]
      omega
    -- The day is inside the year, and the loop ends.
    · exact ⟨le_rfl, rfl, Nat.lt_of_not_le long⟩

/-- The loop over months leaves at most one day more than the month has, and never none. -/
theorem countMonths_spec {year month day : ℕ} {table : List ℕ}
    (lengths : ∀ index (valid : index < table.length),
      table[index] = daysInMonth year (month + index + 1)) :
    month ≤ (countMonths table month day).1 ∧
    (countMonths table month day).1 ≤ month + table.length ∧
    daysBeforeMonth year ((countMonths table month day).1 + 1) + (countMonths table month day).2 =
      daysBeforeMonth year (month + 1) + day ∧
    ((countMonths table month day).1 < month + table.length →
      (countMonths table month day).2 ≤ daysInMonth year ((countMonths table month day).1 + 1)) ∧
    (countMonths table month day = (month, day) ∨ 0 < (countMonths table month day).2) := by
  -- A month that is taken off is added to the days before the next one, as for the years.
  induction table generalizing month day with
  | nil => exact ⟨le_rfl, le_rfl, rfl, fun less => absurd less (lt_irrefl _), .inl rfl⟩
  | cons days table ih =>
    have length : days = daysInMonth year (month + 1) := lengths 0 (by simp)
    simp only [countMonths, List.length_cons]
    -- The month is taken off only if the day is beyond it by more than one.
    split_ifs with long
    · have shifted : ∀ index (valid : index < table.length),
          table[index] = daysInMonth year (month + 1 + index + 1) := fun index valid => by
        have next := lengths (index + 1) (by simpa using valid)
        rwa [List.getElem_cons_succ, ← Nat.add_assoc, Nat.add_right_comm month] at next
      obtain ⟨later, inside, same, short, left⟩ := @ih (month + 1) (day - days) shifted
      refine ⟨by omega, by omega, ?_, fun less => short (by omega), .inr ?_⟩
      · rw [same, daysBeforeMonth_succ (by omega), length]
        omega
      -- The rest is not zero, since the day was beyond the month.
      · rcases left with stays | left
        · rw [stays]
          omega
        · exact left
    · exact ⟨le_rfl, Nat.le_add_right _ _, rfl, fun _ => length ▸ Nat.le_of_not_lt long, .inl rfl⟩

/-- The first day of a month that is not January. -/
def FirstOfLaterMonth (timestamp : ℕ) : Prop :=
  ∃ d : Date, 1970 ≤ d.year ∧ d.dayNumber 1970 = timestamp / 86400 ∧ d.day = 1 ∧ d.month ≠ 1

/--
What the fields of a timestamp have in common with the right ones.

The day may be one past its month, and is the first of a month only in January.
-/
structure Splits (timestamp : ℕ) (p : OcppTimepoint) : Prop where
  year : 1970 ≤ p.year
  days : daysBeforeYear 1970 p.year + (daysBeforeMonth p.year p.month + (p.day - 1)) =
    timestamp / 86400
  inside : daysBeforeMonth p.year p.month + (p.day - 1) < daysInYear p.year
  month_pos : 1 ≤ p.month
  month_le : p.month ≤ 12
  day_pos : 1 ≤ p.day
  day_le : p.day ≤ daysInMonth p.year p.month + 1
  late : p.month = 1 ∨ 2 ≤ p.day
  hours : p.hours < 24
  minutes : p.minutes < 60
  seconds : p.seconds < 60
  time : p.hours * 3600 + p.minutes * 60 + p.seconds = timestamp % 86400

/-- The fields that are made from a timestamp. -/
theorem ofTimestamp_splits (timestamp : UInt32) :
    Splits timestamp.toNat (OcppTimepoint.ofTimestamp timestamp) := by
  have remaining := Nat.mod_lt timestamp.toNat (by decide : 86400 > 0)
  obtain ⟨year, years, short⟩ := countYears_spec (Nat.lt_succ_self (timestamp.toNat / 86400))
    (le_refl 1970)
  generalize split : countYears (timestamp.toNat / 86400 + 1) 1970 (timestamp.toNat / 86400) = y
    at year years short
  have lengths : ∀ index (valid : index < (monthDays y.1).length),
      (monthDays y.1)[index] = daysInMonth y.1 (0 + index + 1) := fun index valid => by
    rw [monthDays_get valid, Nat.zero_add]
  obtain ⟨-, inside, months, fits, left⟩ := @countMonths_spec y.1 0 y.2 _ lengths
  generalize split' : countMonths (monthDays y.1) 0 y.2 = m at inside months fits left
  -- The loop over months ends inside its table, since there are not more days than in the year.
  have table : m.1 < 12 := by
    by_contra beyond
    have all : m.1 = 12 := le_antisymm inside (not_lt.mp beyond)
    rw [all, daysBeforeMonth_thirteen, Nat.zero_add, daysBeforeMonth_one] at months
    omega
  have late : m.1 + 1 = 1 ∨ 2 ≤ m.2 + 1 := by
    rcases left with stays | left
    · exact .inl (by rw [stays])
    · exact .inr (by omega)
  have parts : OcppTimepoint.ofTimestamp timestamp =
      { year := y.1, month := m.1 + 1, day := m.2 + 1
        hours := timestamp.toNat % 86400 / 3600
        minutes := timestamp.toNat % 86400 % 3600 / 60
        seconds := timestamp.toNat % 86400 % 3600 % 60
        timestampS := timestamp } := by
    simp only [OcppTimepoint.ofTimestamp, secondsInDay, secondsInHour, secondsInMinute, split,
      split']
  rw [Nat.zero_add, daysBeforeMonth_one, Nat.zero_add] at months
  rw [daysBeforeYear_self, Nat.zero_add] at years
  rw [parts]
  constructor <;> simp only [Nat.add_sub_cancel]
  · exact year
  · rw [months, years]
  · rw [months]
    exact short
  · omega
  · omega
  · omega
  · exact Nat.succ_le_succ (fits table)
  · exact late
  · omega
  · omega
  · omega
  · omega

namespace Splits

variable {timestamp : ℕ} {p : OcppTimepoint}

/-- The days are in their months, unless this is the first day of one of the later months. -/
theorem day_valid_iff (splits : Splits timestamp p) :
    p.day ≤ daysInMonth p.year p.month ↔ ¬ FirstOfLaterMonth timestamp := by
  constructor
  · rintro valid ⟨d, year, number, firstDay, later⟩
    let here : Date :=
      ⟨p.year, p.month, p.day, splits.month_pos, splits.month_le, splits.day_pos, valid⟩
    have same : d = here := Date.eq_of_dayNumber_eq year splits.year (number.trans splits.days.symm)
    have late := splits.late
    have day : p.day = 1 := (congrArg Date.day same).symm.trans firstDay
    have month : p.month ≠ 1 := fun january => later ((congrArg Date.month same).trans january)
    omega
  · intro inner
    by_contra past
    have day : p.day = daysInMonth p.year p.month + 1 := by
      have fits := splits.day_le
      omega
    have next : daysBeforeMonth p.year (p.month + 1) =
        daysBeforeMonth p.year p.month + daysInMonth p.year p.month :=
      daysBeforeMonth_succ splits.month_pos
    -- The last month of the year has no next one, and the day is inside the year.
    have notLast : p.month ≠ 12 := by
      intro december
      have inside := splits.inside
      rw [← daysBeforeMonth_thirteen, day] at inside
      rw [december] at inside next
      simp only [Nat.reduceAdd] at next
      omega
    have month := splits.month_le
    refine inner ⟨⟨p.year, p.month + 1, 1, by omega, by omega, le_rfl, ?_⟩, splits.year, ?_, rfl,
      ?_⟩
    · exact le_trans (by decide) daysInMonth_bounds.1
    · have days := splits.days
      simp only [Date.dayNumber, Date.dayOfYear]
      omega
    · have positive := splits.month_pos
      show p.month + 1 ≠ 1
      omega

/-- Fields with a day in its month are those of the timestamp. -/
theorem instant (splits : Splits timestamp p) (valid : p.day ≤ daysInMonth p.year p.month) :
    ∃ d : Instant, d.year = p.year ∧ d.month = p.month ∧ d.day = p.day ∧ d.hours = p.hours ∧
      d.minutes = p.minutes ∧ d.seconds = p.seconds ∧ d.toSeconds 1970 = timestamp := by
  refine ⟨{ year := p.year, month := p.month, day := p.day
            month_pos := splits.month_pos, month_le := splits.month_le
            day_pos := splits.day_pos, day_le := valid
            hours := p.hours, minutes := p.minutes, seconds := p.seconds
            hours_lt := splits.hours, minutes_lt := splits.minutes
            seconds_lt := splits.seconds }, rfl, rfl, rfl, rfl, rfl, rfl, ?_⟩
  show (daysBeforeYear 1970 p.year + (daysBeforeMonth p.year p.month + (p.day - 1))) * 86400 +
    (p.hours * 3600 + p.minutes * 60 + p.seconds) = timestamp
  rw [splits.days, splits.time, Nat.div_add_mod']

/-- The years of the Unix clock have four digits. -/
theorem year_lt (splits : Splits timestamp p) (bounded : timestamp < 4294967296) :
    p.year < 10000 := by
  have years : 365 * (p.year - 1970) ≤ daysBeforeYear 1970 p.year := le_daysBeforeYear
  have days := splits.days
  omega

/-- The text of the fields has twenty characters, and reads as these fields. -/
theorem toRfc3339 (splits : Splits timestamp p) (bounded : timestamp < 4294967296) :
    (DateTimeImpl.mk p).toRfc3339.length = 20 ∧
      readTimestamp (DateTimeImpl.mk p).toRfc3339 =
        some (p.year, p.month, p.day, p.hours, p.minutes, p.seconds) := by
  have year := splits.year_lt bounded
  have month := splits.month_le
  have day : p.day ≤ 32 := splits.day_le.trans (Nat.succ_le_succ daysInMonth_bounds.2)
  -- Every field has as many digits as it is written with.
  have hours := splits.hours
  have minutes := splits.minutes
  have seconds := splits.seconds
  have length : (writeDecimal 4 p.year ++ '-' :: writeDecimal 2 p.month ++
      '-' :: writeDecimal 2 p.day ++ 'T' :: writeDecimal 2 p.hours ++
      ':' :: writeDecimal 2 p.minutes ++ ':' :: writeDecimal 2 p.seconds ++ ['Z']).length = 20 := by
    -- The lengths of the parts add up to twenty.
    have two : ∀ n, n < 100 → (writeDecimal 2 n).length = 2 := fun n fits =>
      length_writeDecimal (by decide) fits
    have four : (writeDecimal 4 p.year).length = 4 := length_writeDecimal (by decide) year
    simp only [List.length_append, List.length_cons, List.length_nil, four,
      two p.month (by omega), two p.day (by omega), two p.hours (by omega),
      two p.minutes (by omega), two p.seconds (by omega)]
  have fits : (DateTimeImpl.mk p).toRfc3339 =
      writeDecimal 4 p.year ++ '-' :: writeDecimal 2 p.month ++
      '-' :: writeDecimal 2 p.day ++ 'T' :: writeDecimal 2 p.hours ++
      ':' :: writeDecimal 2 p.minutes ++ ':' :: writeDecimal 2 p.seconds ++ ['Z'] := by
    -- The text is short enough for the buffer.
    simp only [DateTimeImpl.toRfc3339]
    rw [if_neg (by rw [length]; decide)]
  rw [fits]
  exact ⟨length, readTimestamp_write year (by omega) (by omega) (by omega) (by omega) (by omega)⟩

end Splits

/-- A timestamp that is converted to the second it stands for, in its fields and in text. -/
def Converts (timestamp : UInt32) : Prop :=
  (∃ d : Instant, d.year = (OcppTimepoint.ofTimestamp timestamp).year ∧
    d.month = (OcppTimepoint.ofTimestamp timestamp).month ∧
    d.day = (OcppTimepoint.ofTimestamp timestamp).day ∧
    d.hours = (OcppTimepoint.ofTimestamp timestamp).hours ∧
    d.minutes = (OcppTimepoint.ofTimestamp timestamp).minutes ∧
    d.seconds = (OcppTimepoint.ofTimestamp timestamp).seconds ∧
    d.toSeconds 1970 = timestamp.toNat) ∧
  Denotes 1970 (DateTimeImpl.mk (OcppTimepoint.ofTimestamp timestamp)).toRfc3339 timestamp.toNat

/-- A timestamp is converted correctly unless it is on the first day of a month after January. -/
theorem converts_iff (timestamp : UInt32) :
    Converts timestamp ↔ ¬ FirstOfLaterMonth timestamp.toNat := by
  have splits := ofTimestamp_splits timestamp
  -- What is left is whether the day is one of its month.
  rw [← splits.day_valid_iff]
  constructor
  -- A second of the calendar has a day of its month.
  · rintro ⟨⟨d, year, month, day, -⟩, -⟩
    rw [← year, ← month, ← day]
    exact d.day_le
  · intro valid
    obtain ⟨length, reads⟩ := splits.toRfc3339 timestamp.toNat_lt
    obtain ⟨d, year, month, day, hours, minutes, seconds, same⟩ := splits.instant valid
    refine ⟨⟨d, year, month, day, hours, minutes, seconds, same⟩, length, d, ?_, same⟩
    rw [reads, year, month, day, hours, minutes, seconds]

/-- The first of February becomes the thirty-second of January. -/
theorem first_of_february :
    (OcppTimepoint.ofTimestamp 2678400).month = 1 ∧ (OcppTimepoint.ofTimestamp 2678400).day = 32 ∧
      ¬ Converts 2678400 := by
  have fields : (OcppTimepoint.ofTimestamp 2678400).month = 1 ∧
      (OcppTimepoint.ofTimestamp 2678400).day = 32 := by decide +kernel
  refine ⟨fields.1, fields.2, fun converts => ?_⟩
  -- A second of the calendar would be on a day that no month has.
  obtain ⟨d, -, -, day, -⟩ := converts.1
  have valid := d.day_le.trans daysInMonth_bounds.2
  omega

end EasyEvse.Clock
