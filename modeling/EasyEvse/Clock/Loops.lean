import EasyEvse.Clock.Order
import EasyEvse.Transition.Run

/-! The two loops of the constructor, round by round, and the order of what they make. -/

namespace EasyEvse.Clock

open Calendar Transition

/-- One round of the loop over years, which counts the year and keeps the days left. -/
def yearRound : Step (ℕ × ℕ) Unit := fun (year, day) _ =>
  let daysInYear := if isLeapYear year then 366 else 365
  if daysInYear ≤ day then some (year + 1, day - daysInYear) else none

/-- One round of the loop over months, which reads whatever stands there beyond its table. -/
def monthRound (beyond : ℕ → ℕ) (year : ℕ) : Step (ℕ × ℕ) Unit := fun (month, day) _ =>
  let days := (monthDays year)[month]?.getD (beyond month)
  if day > days then some (month + 1, day - days) else none

/-- The loop over years ends with the year and the days that are counted. -/
theorem countYears_ends {fuel year day : ℕ} (enough : day < fuel) :
    ∃ rounds, Ends yearRound (year, day) rounds (countYears fuel year day) := by
  -- Each round takes days off, so that the fuel left is always enough.
  induction fuel generalizing year day with
  | zero => exact absurd enough (Nat.not_lt_zero day)
  | succ fuel ih =>
    have round : yearRound (year, day) () =
        if daysInYear year ≤ day then some (year + 1, day - daysInYear year) else none := by
      simp only [yearRound, daysInYear_eq]
    simp only [countYears, daysInYear_eq]
    split_ifs with long
    · have positive : 365 ≤ daysInYear year := le_daysInYear
      obtain ⟨rounds, rest⟩ := @ih (year + 1) (day - daysInYear year) (by omega)
      exact ⟨() :: rounds, rest.cons (round.trans (if_pos long))⟩
    · exact ⟨[], ends_of_none (round.trans (if_neg long))⟩

/-- The loop over months ends with the month and the days that are counted, and not before. -/
theorem countMonths_ends {beyond : ℕ → ℕ} {year month day : ℕ} {table : List ℕ}
    (left : (monthDays year).drop month = table) (inside : (countMonths table month day).1 < 12) :
    ∃ rounds, Ends (monthRound beyond year) (month, day) rounds (countMonths table month day) ∧
      ∀ visited, Visits (monthRound beyond year) (month, day) rounds visited →
        visited.1 ≤ (countMonths table month day).1 := by
  -- The table is what is left of all months, so that its first entry is the one that is read.
  induction table generalizing month day with
  | nil =>
    -- The table is used up after twelve months only.
    have past : 12 ≤ month := List.drop_eq_nil_iff.mp left
    exact absurd past (not_le.mpr inside)
  | cons days table ih =>
    have here : (monthDays year)[month]? = some days := by
      rw [← List.head?_drop, left, List.head?_cons]
    have rest : (monthDays year).drop (month + 1) = table := by
      rw [← List.drop_drop, left, List.drop_one, List.tail_cons]
    have round : monthRound beyond year (month, day) () =
        if day > days then some (month + 1, day - days) else none := by
      rw [monthRound, here, Option.getD_some]
    simp only [countMonths] at inside ⊢
    split_ifs at inside ⊢ with long
    · obtain ⟨rounds, ends, bounded⟩ := ih rest inside
      have moved := round.trans (if_pos long)
      refine ⟨() :: rounds, ends.cons moved, fun visited visits => ?_⟩
      -- The month of the first round is below the next one, which the rest visits as well.
      rcases visits_cons_iff.mp visits with rfl | ⟨next, taken, visits⟩
      · exact (Nat.le_succ month).trans (bounded _ visits_start)
      · rw [moved, Option.some_inj] at taken
        exact bounded visited (taken ▸ visits)
    · refine ⟨[], ends_of_none (round.trans (if_neg long)), fun visited visits => ?_⟩
      rw [visits_nil_iff.mp visits]

/-- Both loops end with the fields of the point, and the second one stays in its table. -/
def LoopsEnd (beyond : ℕ → ℕ) (timestamp : UInt32) : Prop :=
  ∃ years year day,
    Ends yearRound (1970, timestamp.toNat / secondsInDay) years (year, day) ∧
    ∃ months month rest,
      Ends (monthRound beyond year) (0, day) months (month, rest) ∧
      (∀ visited, Visits (monthRound beyond year) (0, day) months visited → visited.1 ≤ 11) ∧
      (OcppTimepoint.ofTimestamp timestamp).year = year ∧
      (OcppTimepoint.ofTimestamp timestamp).month = month + 1 ∧
      (OcppTimepoint.ofTimestamp timestamp).day = rest + 1

/-- The loops end for every timestamp, whatever stands beyond the table. -/
theorem loopsEnd (beyond : ℕ → ℕ) (timestamp : UInt32) : LoopsEnd beyond timestamp := by
  have month := (ofTimestamp_splits timestamp).month_le
  generalize counted : countYears (timestamp.toNat / secondsInDay + 1) 1970
    (timestamp.toNat / secondsInDay) = y
  -- The constructor counts one on to the month and the day that the loops end with.
  have fields : (OcppTimepoint.ofTimestamp timestamp).year = y.1 ∧
      (OcppTimepoint.ofTimestamp timestamp).month = (countMonths (monthDays y.1) 0 y.2).1 + 1 ∧
      (OcppTimepoint.ofTimestamp timestamp).day = (countMonths (monthDays y.1) 0 y.2).2 + 1 := by
    rw [← counted]
    exact ⟨rfl, rfl, rfl⟩
  rw [fields.2.1] at month
  obtain ⟨years, ends⟩ := @countYears_ends _ 1970 _
    (Nat.lt_succ_self (timestamp.toNat / secondsInDay))
  rw [counted] at ends
  obtain ⟨months, ends', bounded⟩ := @countMonths_ends beyond y.1 0 _ _ List.drop_zero
    (Nat.lt_of_succ_le month)
  exact ⟨years, y.1, y.2, ends, months, _, _, ends',
    fun visited visits => (bounded visited visits).trans (Nat.le_of_succ_le_succ month), fields⟩

/-- Points compare as their timestamps do, and are made by loops that end. -/
theorem ofTimestamp_embeds :
    (∀ t1 t2 : UInt32,
      ((OcppTimepoint.ofTimestamp t1).lt (OcppTimepoint.ofTimestamp t2) = true ↔ t1 < t2) ∧
      ((OcppTimepoint.ofTimestamp t1).gt (OcppTimepoint.ofTimestamp t2) = true ↔ t1 > t2)) ∧
    ∀ (beyond : ℕ → ℕ) (timestamp : UInt32), LoopsEnd beyond timestamp := by
  refine ⟨fun t1 t2 => ⟨ofTimestamp_lt_iff, ?_⟩, loopsEnd⟩
  rw [OcppTimepoint.gt_eq_lt]
  exact ofTimestamp_lt_iff

end EasyEvse.Clock
