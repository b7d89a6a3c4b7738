import Mathlib.Data.List.Basic
import Mathlib.Tactic.IntervalCases
import EasyEvse.Calendar.Gregorian

/-! Time stamps in text, in the form that universal time without fractions has. -/

namespace Calendar

variable {width n : ℕ}

/-- The value of decimal digits, read from left to right. -/
def readDecimal (text : List Char) : Option ℕ :=
  text.foldlM (fun n c => if c.isDigit then some (10 * n + (c.toNat - '0'.toNat)) else none) 0

/-- A number in decimal digits, filled up with zeros on the left. -/
def writeDecimal (width n : ℕ) : List Char := (Nat.toDigits 10 n).leftpad width '0'

/-- A single digit reads as its value. -/
theorem digit_value (small : n < 10) :
    n.digitChar.isDigit = true ∧ n.digitChar.toNat - 48 = n := by
  interval_cases n <;> decide

/-- The digits of a number read as that number. -/
theorem readDecimal_toDigits (n : ℕ) : readDecimal (Nat.toDigits 10 n) = some n := by
  -- The last digit is read last, and the digits before it are those of the tenth part.
  induction n using Nat.strongRecOn with
  | ind n ih =>
    rw [Nat.toDigits_eq_if (by decide)]
    split_ifs with small
    · obtain ⟨digit, value⟩ := digit_value small
      simp [readDecimal, digit, value]
    -- The digits in front are read first, and their value counts ten times.
    · obtain ⟨digit, value⟩ := digit_value (Nat.mod_lt n (by decide : 10 > 0))
      have front := ih (n / 10) (by omega)
      unfold readDecimal at front ⊢
      rw [List.foldlM_append, front]
      simp [digit, value]
      omega

/-- Zeros on the left do not change the value. -/
theorem readDecimal_writeDecimal : readDecimal (writeDecimal width n) = some n := by
  -- Zeros alone have the value zero, whatever their number.
  have zeros : ∀ k, readDecimal (List.replicate k '0') = some 0 := by
    intro k
    induction k with
    | zero => rfl
    | succ k ih =>
      rw [List.replicate_succ', readDecimal, List.foldlM_append]
      unfold readDecimal at ih
      rw [ih]
      rfl
  have digits := readDecimal_toDigits n
  -- After the zeros, the digits are read from the value zero on.
  unfold readDecimal at zeros digits ⊢
  rw [writeDecimal, List.leftpad, List.foldlM_append, zeros]
  exact digits

/-- A number that fits is written with the given number of digits. -/
theorem length_writeDecimal (positive : 0 < width) (fits : n < 10 ^ width) :
    (writeDecimal width n).length = width := by
  -- The digits are not more than the given number, and the zeros fill up the rest.
  have short := (Nat.length_toDigits_le_iff (by decide) positive).mpr fits
  simp [writeDecimal, short]

/-- The six numbers of a time stamp: year, month and day, hours, minutes and seconds. -/
def readTimestamp : List Char → Option (ℕ × ℕ × ℕ × ℕ × ℕ × ℕ)
  | [y₁, y₂, y₃, y₄, '-', m₁, m₂, '-', d₁, d₂, 'T', h₁, h₂, ':', n₁, n₂, ':', s₁, s₂, 'Z'] => do
    return (← readDecimal [y₁, y₂, y₃, y₄], ← readDecimal [m₁, m₂], ← readDecimal [d₁, d₂],
      ← readDecimal [h₁, h₂], ← readDecimal [n₁, n₂], ← readDecimal [s₁, s₂])
  | _ => none

/-- A text of twenty characters that stands for a second, counted from the first year. -/
def Denotes (first : ℕ) (text : List Char) (seconds : ℕ) : Prop :=
  text.length = 20 ∧ ∃ d : Instant,
    readTimestamp text = some (d.year, d.month, d.day, d.hours, d.minutes, d.seconds) ∧
      d.toSeconds first = seconds

/-- A number of two digits is written as two characters. -/
theorem writeDecimal_two (fits : n < 100) :
    ∃ a b, writeDecimal 2 n = [a, b] ∧ readDecimal [a, b] = some n := by
  obtain ⟨a, b, written⟩ := List.length_eq_two.mp (length_writeDecimal (by decide) fits)
  exact ⟨a, b, written, written ▸ readDecimal_writeDecimal⟩

/-- A number of four digits is written as four characters. -/
theorem writeDecimal_four (fits : n < 10000) :
    ∃ a b c d, writeDecimal 4 n = [a, b, c, d] ∧ readDecimal [a, b, c, d] = some n := by
  have length := length_writeDecimal (by decide : 0 < 4) fits
  obtain ⟨a, rest, written⟩ := List.exists_cons_of_length_eq_add_one length
  -- The first character is taken off, and three are left.
  rw [written, List.length_cons, Nat.add_right_cancel_iff] at length
  obtain ⟨b, c, d, rfl⟩ := List.length_eq_three.mp length
  exact ⟨a, b, c, d, written, written ▸ readDecimal_writeDecimal⟩

/-- What is written with the digits of six numbers reads as these numbers. -/
theorem readTimestamp_write {year month day hours minutes seconds : ℕ} (fitsYear : year < 10000)
    (fitsMonth : month < 100) (fitsDay : day < 100) (fitsHours : hours < 100)
    (fitsMinutes : minutes < 100) (fitsSeconds : seconds < 100) :
    readTimestamp (writeDecimal 4 year ++ '-' :: writeDecimal 2 month ++
      '-' :: writeDecimal 2 day ++ 'T' :: writeDecimal 2 hours ++ ':' :: writeDecimal 2 minutes ++
      ':' :: writeDecimal 2 seconds ++ ['Z']) =
      some (year, month, day, hours, minutes, seconds) := by
  -- Each number is written with its characters, which are those of the pattern.
  obtain ⟨y₁, y₂, y₃, y₄, writtenYear, readYear⟩ := writeDecimal_four fitsYear
  obtain ⟨m₁, m₂, writtenMonth, readMonth⟩ := writeDecimal_two fitsMonth
  obtain ⟨d₁, d₂, writtenDay, readDay⟩ := writeDecimal_two fitsDay
  obtain ⟨h₁, h₂, writtenHours, readHours⟩ := writeDecimal_two fitsHours
  obtain ⟨n₁, n₂, writtenMinutes, readMinutes⟩ := writeDecimal_two fitsMinutes
  obtain ⟨s₁, s₂, writtenSeconds, readSeconds⟩ := writeDecimal_two fitsSeconds
  simp [writtenYear, writtenMonth, writtenDay, writtenHours, writtenMinutes, writtenSeconds,
    readTimestamp, readYear, readMonth, readDay, readHours, readMinutes, readSeconds]

end Calendar
