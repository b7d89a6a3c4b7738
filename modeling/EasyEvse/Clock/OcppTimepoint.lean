import EasyEvse.Calendar.Rfc3339

/-! The points in time of the OCPP stack: made from the clock, compared, added to, written. -/

namespace EasyEvse.Clock

open Calendar

def secondsInDay : ℕ := 86400

def secondsInHour : ℕ := 3600

def secondsInMinute : ℕ := 60

/-- Whether a year has a leap day. -/
def isLeapYear (year : ℕ) : Bool := year % 4 = 0 ∧ (year % 100 ≠ 0 ∨ year % 400 = 0)

/-- The days of the months of a year, in order. -/
def monthDays (year : ℕ) : List ℕ :=
  [31, if isLeapYear year then 29 else 28, 31, 30, 31, 30, 31, 31, 30, 31, 30, 31]

/-- A point in time by its fields, with the seconds it was made from. -/
structure OcppTimepoint where
  year : ℕ
  month : ℕ
  day : ℕ
  hours : ℕ
  minutes : ℕ
  seconds : ℕ
  timestampS : UInt32
  deriving DecidableEq, Repr

/-- The loop that takes whole years off the days. -/
def countYears : (fuel year day : ℕ) → ℕ × ℕ
  -- Each round takes off more than one day, so that this fuel is never used up.
  | 0, year, day => (year, day)
  | fuel + 1, year, day =>
    let daysInYear := if isLeapYear year then 366 else 365
    if daysInYear ≤ day then countYears fuel (year + 1) (day - daysInYear) else (year, day)

/-- The loop that takes whole months off the days, as long as more days than the month are left. -/
def countMonths : (monthDays : List ℕ) → (month day : ℕ) → ℕ × ℕ
  -- Beyond the table, where the loop never comes.
  | [], month, day => (month, day)
  | days :: monthDays, month, day =>
    if day > days then countMonths monthDays (month + 1) (day - days) else (month, day)

namespace OcppTimepoint

/-- The fields of a second of the Unix clock. -/
def ofTimestamp (timestamp : UInt32) : OcppTimepoint :=
  let day := timestamp.toNat / secondsInDay
  let secondsRemaining := timestamp.toNat % secondsInDay
  let (year, day) := countYears (day + 1) 1970 day
  let (month, day) := countMonths (monthDays year) 0 day
  -- Months and days are counted from one, and were counted from zero so far.
  { year := year
    month := month + 1
    day := day + 1
    hours := secondsRemaining / secondsInHour
    minutes := secondsRemaining % secondsInHour / secondsInMinute
    seconds := secondsRemaining % secondsInHour % secondsInMinute
    timestampS := timestamp }

def toTimePointS (p : OcppTimepoint) : UInt32 := p.timestampS

/--
Add seconds that are not negative.

The month is looked up by its number, as if months were counted from zero, so that what is found for
December is whatever stands beyond the table.
-/
def add (beyond : ℕ) (p : OcppTimepoint) (additionalSeconds : ℕ) : OcppTimepoint :=
  let totalSeconds := p.seconds + additionalSeconds
  let seconds := totalSeconds % 60
  -- A zero is taken for a carry, which is counted a second time below.
  let minutes := if seconds = 0 then p.minutes + 1 else p.minutes
  let totalMinutes := minutes + totalSeconds / secondsInMinute
  let minutes := totalMinutes % 60
  let hours := if minutes = 0 then p.hours + 1 else p.hours
  let totalHours := hours + totalMinutes / 60
  let hours := totalHours % 60
  let day := if totalHours > 24 then p.day + 1 else p.day
  let (day, month) :=
    if day > (monthDays p.year)[p.month]?.getD beyond then (1, p.month + 1) else (day, p.month)
  let (year, month) := if month > 12 then (p.year + 1, month % 12) else (p.year, month)
  -- The seconds that the point was made from stay.
  { p with year, month, day, hours, minutes, seconds }

/-- Whether a point comes before another, by the first field in which they differ. -/
def lt (p other : OcppTimepoint) : Bool :=
  if p.year ≠ other.year then p.year < other.year
  else if p.month ≠ other.month then p.month < other.month
  else if p.day ≠ other.day then p.day < other.day
  else if p.hours ≠ other.hours then p.hours < other.hours
  else if p.minutes ≠ other.minutes then p.minutes < other.minutes
  else p.seconds < other.seconds

/-- Whether a point comes after another, by the first field in which they differ. -/
def gt (p other : OcppTimepoint) : Bool :=
  if p.year ≠ other.year then p.year > other.year
  else if p.month ≠ other.month then p.month > other.month
  else if p.day ≠ other.day then p.day > other.day
  else if p.hours ≠ other.hours then p.hours > other.hours
  else if p.minutes ≠ other.minutes then p.minutes > other.minutes
  else p.seconds > other.seconds

end OcppTimepoint

/-- A date and time of the stack, which is a point in time. -/
structure DateTimeImpl where
  timepoint : OcppTimepoint
  deriving DecidableEq, Repr

namespace DateTimeImpl

/-- A time stamp, unless it does not fit the buffer. -/
def toRfc3339 (d : DateTimeImpl) : List Char :=
  let p := d.timepoint
  let text := writeDecimal 4 p.year ++ '-' :: writeDecimal 2 p.month ++
    '-' :: writeDecimal 2 p.day ++ 'T' :: writeDecimal 2 p.hours ++
    ':' :: writeDecimal 2 p.minutes ++ ':' :: writeDecimal 2 p.seconds ++ ['Z']
  -- The buffer has room for twenty characters and the final zero.
  if text.length ≥ 21 then [] else text

def toTimePointS (d : DateTimeImpl) : UInt32 := d.timepoint.timestampS

def gt (lhs rhs : DateTimeImpl) : Bool := lhs.timepoint.gt rhs.timepoint

/-- The three comparisons that include equality do not look at the points. -/
def ge (_lhs _rhs : DateTimeImpl) : Bool := true

def lt (lhs rhs : DateTimeImpl) : Bool := lhs.timepoint.lt rhs.timepoint

def le (_lhs _rhs : DateTimeImpl) : Bool := true

def eq (_lhs _rhs : DateTimeImpl) : Bool := true

end DateTimeImpl

/-- A date and time of the program. All its constructors read the clock, and nothing changes it. -/
structure DateTime extends DateTimeImpl where
  ofClock : timepoint = OcppTimepoint.ofTimestamp timepoint.timestampS
  deriving DecidableEq

/-- The present date and time. -/
def DateTime.now (unixTime : UInt32) : DateTime := ⟨⟨OcppTimepoint.ofTimestamp unixTime⟩, rfl⟩

/-- The constructor from a point in time, which leaves the point aside. -/
def DateTime.ofTimepoint (unixTime : UInt32) (_timepoint : OcppTimepoint) : DateTime :=
  DateTime.now unixTime

example : (OcppTimepoint.ofTimestamp 0x68C2BD3C).year = 2025 := by decide +kernel

end EasyEvse.Clock
