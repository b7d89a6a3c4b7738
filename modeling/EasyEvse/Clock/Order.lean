import EasyEvse.Clock.Conversion

/-! The order of points in time, and the five comparisons of dates and times. -/

namespace EasyEvse.Clock

open Calendar

namespace OcppTimepoint

variable {p q : OcppTimepoint}

/-- A point comes before another if it does in the first field in which they differ. -/
theorem lt_iff : p.lt q = true ↔ p.year < q.year ∨ p.year = q.year ∧
    (p.month < q.month ∨ p.month = q.month ∧ (p.day < q.day ∨ p.day = q.day ∧
      (p.hours < q.hours ∨ p.hours = q.hours ∧
        (p.minutes < q.minutes ∨ p.minutes = q.minutes ∧ p.seconds < q.seconds)))) := by
  simp only [lt]
  -- The nested comparisons are the lexicographic order.
  split_ifs <;> simp only [decide_eq_true_eq] <;> omega

/-- A point comes after another if that one comes before it. -/
theorem gt_eq_lt : p.gt q = q.lt p := by
  -- The other comparison is written with the sides exchanged.
  rw [Bool.eq_iff_iff, lt_iff]
  simp only [gt]
  split_ifs <;> simp only [decide_eq_true_eq] <;> omega

end OcppTimepoint

namespace Splits

variable {timestamp other : ℕ} {p q : OcppTimepoint}

/-- The days before the point in its year. -/
theorem within_year (splits : Splits timestamp p) :
    Within (daysBeforeYear 1970) p.year (timestamp / 86400) := by
  -- The day is inside its year.
  have days := splits.days
  have inside := splits.inside
  constructor
  · omega
  · rw [daysBeforeYear_succ splits.year]
    omega

/-- In one year, the days are ordered by the month and then by the day, as they are written. -/
theorem day_lt_iff (first : Splits timestamp p) (second : Splits other q)
    (same : p.year = q.year) : timestamp / 86400 < other / 86400 ↔
      p.month < q.month ∨ p.month = q.month ∧ p.day < q.day := by
  have days := first.days
  have days' := second.days
  have positive := first.day_pos
  have positive' := second.day_pos
  -- A day may be written as one past an earlier month, but never as the first of a later one.
  have earlier : ∀ {u v : OcppTimepoint}, 1 ≤ u.month → u.year = v.year →
      1 ≤ u.day → u.day ≤ daysInMonth u.year u.month + 1 → (v.month = 1 ∨ 2 ≤ v.day) →
      u.month < v.month →
      daysBeforeMonth u.year u.month + (u.day - 1) <
        daysBeforeMonth v.year v.month + (v.day - 1) := by
    intro u v month sameYear _ fits late before
    have start : daysBeforeMonth u.year (u.month + 1) =
        daysBeforeMonth u.year u.month + daysInMonth u.year u.month := daysBeforeMonth_succ month
    have later : daysBeforeMonth u.year (u.month + 1) ≤ daysBeforeMonth u.year v.month :=
      daysBeforeMonth_mono before
    rw [← sameYear]
    omega
  rw [← days, ← days', same, Nat.add_lt_add_iff_left]
  constructor
  -- The months are ordered, and a later month contradicts the order of the days.
  · intro smaller
    rcases lt_trichotomy p.month q.month with before | equal | after
    · exact .inl before
    · exact .inr ⟨equal, by rw [equal] at smaller; omega⟩
    · have reversed := earlier second.month_pos same.symm positive' second.day_le first.late after
      rw [same] at reversed
      omega
  -- An earlier month has the earlier days, and in one month the days decide.
  · rintro (before | ⟨equal, smaller⟩)
    · have ordered := earlier first.month_pos same positive first.day_le second.late before
      rwa [same] at ordered
    · rw [equal]
      omega

/-- On one day, the seconds are ordered by the hours, the minutes and the seconds. -/
theorem time_lt_iff (first : Splits timestamp p) (second : Splits other q) :
    timestamp % 86400 < other % 86400 ↔ p.hours < q.hours ∨ p.hours = q.hours ∧
      (p.minutes < q.minutes ∨ p.minutes = q.minutes ∧ p.seconds < q.seconds) := by
  -- The seconds of a day are written with two carries.
  have time := first.time
  have time' := second.time
  have minutes := first.minutes
  have minutes' := second.minutes
  have seconds := first.seconds
  have seconds' := second.seconds
  omega

/-- One timestamp is on the day of another exactly if the dates are written in the same way. -/
theorem day_eq_iff (first : Splits timestamp p) (second : Splits other q) :
    timestamp / 86400 = other / 86400 ↔ p.year = q.year ∧ p.month = q.month ∧ p.day = q.day := by
  constructor
  -- Days of one number are in one year, and there the month and the day tell them.
  · intro sameDay
    have year : p.year = q.year :=
      first.within_year.unique daysBeforeYear_mono (sameDay ▸ second.within_year)
    have before := first.day_lt_iff second year
    have after := second.day_lt_iff first year.symm
    omega
  · rintro ⟨year, month, day⟩
    rw [← first.days, ← second.days, year, month, day]

/-- The order of the fields is the order of the timestamps. -/
theorem lt_iff (first : Splits timestamp p) (second : Splits other q) :
    p.lt q = true ↔ timestamp < other := by
  have years := first.within_year.lt_iff daysBeforeYear_mono second.within_year
  have days := first.day_eq_iff second
  have times := first.time_lt_iff second
  -- The timestamps are ordered by their days, and on one day by the rest.
  have split : timestamp < other ↔ timestamp / 86400 < other / 86400 ∨
      timestamp / 86400 = other / 86400 ∧ timestamp % 86400 < other % 86400 := by omega
  rw [OcppTimepoint.lt_iff, split, years, days, times]
  -- In different years only the years count.
  by_cases same : p.year = q.year
  · have inYear := first.day_lt_iff second same
    rw [inYear]
    omega
  · simp only [same, false_and, or_false]

end Splits

/-- A point is before another one exactly if it was made from an earlier timestamp. -/
theorem ofTimestamp_lt_iff {timestamp other : UInt32} :
    (OcppTimepoint.ofTimestamp timestamp).lt (OcppTimepoint.ofTimestamp other) = true ↔
      timestamp < other :=
  (ofTimestamp_splits timestamp).lt_iff (ofTimestamp_splits other)

namespace DateTime

variable {d e : DateTime}

/-- A date and time comes before another exactly if its timestamp does. -/
theorem lt_iff : d.lt e.toDateTimeImpl = true ↔ d.toTimePointS < e.toTimePointS := by
  -- A date and time is the point of its timestamp.
  rw [DateTimeImpl.lt, d.ofClock, e.ofClock]
  exact ofTimestamp_lt_iff

/-- A date and time comes after another exactly if its timestamp does. -/
theorem gt_iff : d.gt e.toDateTimeImpl = true ↔ e.toTimePointS < d.toTimePointS := by
  rw [DateTimeImpl.gt, OcppTimepoint.gt_eq_lt]
  exact lt_iff

/-- All five comparisons of two dates and times are those of their timestamps. -/
def Agree (d e : DateTime) : Prop :=
  d.lt e.toDateTimeImpl = decide (d.toTimePointS < e.toTimePointS) ∧
  d.le e.toDateTimeImpl = decide (d.toTimePointS ≤ e.toTimePointS) ∧
  d.eq e.toDateTimeImpl = decide (d.toTimePointS = e.toTimePointS) ∧
  d.ge e.toDateTimeImpl = decide (d.toTimePointS ≥ e.toTimePointS) ∧
  d.gt e.toDateTimeImpl = decide (d.toTimePointS > e.toTimePointS)

/-- The two strict comparisons are always right, and the other three only for equal timestamps. -/
theorem agree_iff : Agree d e ↔ d.toTimePointS = e.toTimePointS := by
  constructor
  · intro agree
    exact of_decide_eq_true agree.2.2.1.symm
  -- For equal timestamps the constant answers are the right ones.
  · intro same
    have before : d.lt e.toDateTimeImpl = decide (d.toTimePointS < e.toTimePointS) :=
      Bool.eq_iff_iff.mpr (lt_iff.trans decide_eq_true_iff.symm)
    have after : d.gt e.toDateTimeImpl = decide (d.toTimePointS > e.toTimePointS) :=
      Bool.eq_iff_iff.mpr (gt_iff.trans decide_eq_true_iff.symm)
    exact ⟨before, by simp [DateTimeImpl.le, same], by simp [DateTimeImpl.eq, same],
      by simp [DateTimeImpl.ge, same], after⟩

end DateTime

end EasyEvse.Clock
