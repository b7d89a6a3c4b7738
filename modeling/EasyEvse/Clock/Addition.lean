import EasyEvse.Clock.Conversion

/-! Adding seconds to a point in time: the point is left as it was, or wrong. -/

namespace EasyEvse.Clock

open Calendar

namespace OcppTimepoint

variable {p : OcppTimepoint} (beyond : ℕ)

/-- Adding nothing to a full minute adds a minute. -/
theorem add_zero_minutes (seconds : p.seconds = 0) :
    (p.add beyond 0).minutes = (p.minutes + 1) % 60 := by
  simp [add, seconds]

/-- Adding nothing within a minute keeps the time, except that it adds an hour to a full one. -/
theorem add_zero_time (seconds : 0 < p.seconds) (secondsLt : p.seconds < 60)
    (minutesLt : p.minutes < 60) (hoursLt : p.hours < 24) :
    (p.add beyond 0).seconds = p.seconds ∧ (p.add beyond 0).minutes = p.minutes ∧
      (p.add beyond 0).hours = if p.minutes = 0 then p.hours + 1 else p.hours := by
  -- Nothing is carried from the seconds to the minutes, or from these to the hours.
  have noCarry : p.seconds / 60 = 0 := Nat.div_eq_of_lt secondsLt
  have noCarry' : p.minutes / 60 = 0 := Nat.div_eq_of_lt minutesLt
  refine ⟨?_, ?_, ?_⟩
  · simp [add, Nat.mod_eq_of_lt secondsLt]
  · simp [add, Nat.mod_eq_of_lt secondsLt, seconds.ne', secondsInMinute, noCarry,
      Nat.mod_eq_of_lt minutesLt]
  · simp only [add, Nat.add_zero, Nat.mod_eq_of_lt secondsLt, seconds.ne', if_false,
      secondsInMinute, noCarry, Nat.mod_eq_of_lt minutesLt, noCarry']
    split_ifs <;> omega

/-- Adding nothing within an hour looks at the month after the point's own. -/
theorem add_zero_date (seconds : 0 < p.seconds) (secondsLt : p.seconds < 60)
    (minutes : 0 < p.minutes) (minutesLt : p.minutes < 60) (hoursLt : p.hours < 24) :
    ((p.add beyond 0).year, (p.add beyond 0).month, (p.add beyond 0).day) =
      if p.day > (monthDays p.year)[p.month]?.getD beyond then
        if p.month + 1 > 12 then (p.year + 1, (p.month + 1) % 12, 1)
        else (p.year, p.month + 1, 1)
      else if p.month > 12 then (p.year + 1, p.month % 12, p.day)
      else (p.year, p.month, p.day) := by
  have noCarry : p.seconds / 60 = 0 := Nat.div_eq_of_lt secondsLt
  have noCarry' : p.minutes / 60 = 0 := Nat.div_eq_of_lt minutesLt
  -- The day does not end.
  have sameDay : ¬ p.hours > 24 := by omega
  simp only [add, Nat.add_zero, Nat.mod_eq_of_lt secondsLt, seconds.ne', if_false, secondsInMinute,
    noCarry, Nat.mod_eq_of_lt minutesLt, noCarry', minutes.ne', sameDay]
  split_ifs <;> rfl

/-- The fields of a point, one by one. -/
theorem eq_iff {q : OcppTimepoint} : p = q ↔ (p.year, p.month, p.day) = (q.year, q.month, q.day) ∧
    p.hours = q.hours ∧ p.minutes = q.minutes ∧ p.seconds = q.seconds ∧
    p.timestampS = q.timestampS := by
  cases p
  cases q
  simp [and_assoc]

end OcppTimepoint

/-- Nothing is added, to a point inside an hour and a minute, on a day that the next month has. -/
def AddsNothing (p : OcppTimepoint) (additionalSeconds : ℕ) : Prop :=
  additionalSeconds = 0 ∧ p.seconds ≠ 0 ∧ p.minutes ≠ 0 ∧ p.month ≠ 12 ∧
    p.day ≤ daysInMonth p.year (p.month + 1)

instance (p : OcppTimepoint) (additionalSeconds : ℕ) :
    Decidable (AddsNothing p additionalSeconds) :=
  inferInstanceAs (Decidable (_ ∧ _))

/-- Nothing is added correctly only where the lookup in the table of months has no effect. -/
theorem add_zero_eq_iff {timestamp : ℕ} {p : OcppTimepoint} (splits : Splits timestamp p) :
    (∀ beyond, p.add beyond 0 = p) ↔ AddsNothing p 0 := by
  have secondsLt := splits.seconds
  have minutesLt := splits.minutes
  have hoursLt := splits.hours
  -- A full minute gets one minute more.
  by_cases seconds : p.seconds = 0
  · refine iff_of_false (fun same => ?_) fun nothing => nothing.2.1 seconds
    have carried := OcppTimepoint.add_zero_minutes 0 seconds
    rw [same 0] at carried
    omega
  have time := fun beyond => OcppTimepoint.add_zero_time (p := p) beyond
    (Nat.pos_of_ne_zero seconds) secondsLt minutesLt hoursLt
  -- A full hour gets one hour more.
  by_cases minutes : p.minutes = 0
  · refine iff_of_false (fun same => ?_) fun nothing => nothing.2.2.1 minutes
    have hours := (time 0).2.2
    rw [same 0, if_pos minutes] at hours
    omega
  have date := fun beyond => OcppTimepoint.add_zero_date (p := p) beyond
    (Nat.pos_of_ne_zero seconds) secondsLt (Nat.pos_of_ne_zero minutes) minutesLt hoursLt
  by_cases december : p.month = 12
  · -- Beyond the table there may be a zero, and then the year is over.
    refine iff_of_false (fun same => ?_) fun nothing => nothing.2.2.2.1 december
    have moved := date 0
    rw [same 0, december, if_pos (by simpa [monthDays] using Nat.lt_of_succ_le splits.day_pos),
      if_pos (by decide)] at moved
    have year := (Prod.mk.inj moved).1
    omega
  -- In the other months the table has the length of the next month.
  have inside : p.month < (monthDays p.year).length :=
    lt_of_le_of_ne splits.month_le december
  have lookup : ∀ beyond, (monthDays p.year)[p.month]?.getD beyond =
      daysInMonth p.year (p.month + 1) := fun beyond => by
    rw [List.getElem?_eq_getElem inside, Option.getD_some, monthDays_get inside]
  have notPast : ¬ p.month > 12 := not_lt.mpr splits.month_le
  -- What is left is the day, which the next month has or has not.
  constructor
  · intro same
    refine ⟨rfl, seconds, minutes, december, not_lt.mp fun long => ?_⟩
    have moved := date 0
    have next : ¬ p.month + 1 > 12 := not_lt.mpr inside
    rw [same 0, lookup, if_pos long, if_neg next] at moved
    have month := (Prod.mk.inj (Prod.mk.inj moved).2).1
    omega
  -- Each field stays, and so the point does.
  · intro nothing beyond
    obtain ⟨sameSeconds, sameMinutes, hours⟩ := time beyond
    have stays := date beyond
    rw [lookup, if_neg (not_lt.mpr nothing.2.2.2.2), if_neg notPast] at stays
    rw [if_neg minutes] at hours
    exact OcppTimepoint.eq_iff.mpr ⟨stays, hours, sameMinutes, sameSeconds, rfl⟩

/--
Adding seconds gives the later point, in every field and whatever stands beyond the table, exactly
if nothing is added to a point that the carries leave alone.
-/
theorem add_eq_iff (timestamp : UInt32) (additionalSeconds : ℕ)
    (fits : timestamp.toNat + additionalSeconds < 2 ^ 32) :
    (∀ beyond, (OcppTimepoint.ofTimestamp timestamp).add beyond additionalSeconds =
      OcppTimepoint.ofTimestamp (timestamp + UInt32.ofNat additionalSeconds)) ↔
      AddsNothing (OcppTimepoint.ofTimestamp timestamp) additionalSeconds := by
  -- Only nothing can be added, as the timestamp never changes.
  by_cases nothing : additionalSeconds = 0
  · subst nothing
    rw [← add_zero_eq_iff (ofTimestamp_splits timestamp)]
    simp
  · refine iff_of_false (fun same => ?_) fun adds => nothing adds.1
    have stays : timestamp = timestamp + UInt32.ofNat additionalSeconds :=
      congrArg OcppTimepoint.timestampS (same 0)
    have moved := congrArg UInt32.toNat stays
    have small : additionalSeconds < 2 ^ 32 := by omega
    rw [UInt32.toNat_add, UInt32.toNat_ofNat', Nat.mod_eq_of_lt small, Nat.mod_eq_of_lt fits]
      at moved
    omega

/-- Nothing is added to half past noon and one second, on the first day of the clock. -/
theorem add_eq_iff_noon :
    (OcppTimepoint.ofTimestamp 45001).add 0 0 = OcppTimepoint.ofTimestamp (45001 + 0) :=
  (add_eq_iff 45001 0 (by decide)).mpr (by decide +kernel) 0

/-- A second that completes a minute is counted twice, and the timestamp stays behind. -/
theorem minute_counted_twice :
    (OcppTimepoint.ofTimestamp 59).add 0 1 ≠ OcppTimepoint.ofTimestamp (59 + 1) ∧
    ((OcppTimepoint.ofTimestamp 59).add 0 1).minutes = 2 ∧
    ((OcppTimepoint.ofTimestamp 59).add 0 1).timestampS = 59 := by
  decide +kernel

end EasyEvse.Clock
