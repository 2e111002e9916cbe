import MappedSql.Number.Numeral

/-!
Dates of the Gregorian calendar, extended without end to both sides, and the step to the day
before and the day after. A `Date` is always a day that exists.
-/

namespace MappedSql.Calendar

def isLeapYear (year : Int) : Bool :=
  year % 4 == 0 && (year % 100 != 0 || year % 400 == 0)

def daysIn (year : Int) (month : Nat) : Nat :=
  match month with
  | 2 => if isLeapYear year then 29 else 28
  | 4 | 6 | 9 | 11 => 30
  | _ => 31

theorem daysIn_pos (year : Int) (month : Nat) : 1 ≤ daysIn year month := by
  unfold daysIn
  split
  · split <;> omega
  all_goals omega

theorem daysIn_december (year : Int) : daysIn year 12 = 31 := rfl

structure Date where
  year : Int
  month : Nat
  day : Nat
  month_pos : 1 ≤ month
  month_le : month ≤ 12
  day_pos : 1 ≤ day
  day_le : day ≤ daysIn year month
  deriving DecidableEq

namespace Date

def make? (year : Int) (month day : Nat) : Option Date :=
  if h : (1 ≤ month ∧ month ≤ 12) ∧ 1 ≤ day ∧ day ≤ daysIn year month then
    some ⟨year, month, day, h.1.1, h.1.2, h.2.1, h.2.2⟩
  else none

def firstOfYear (year : Int) : Date :=
  ⟨year, 1, 1, by decide, by decide, by decide, daysIn_pos year 1⟩

def epoch : Date := firstOfYear 1970

def next (date : Date) : Date :=
  if h : date.day < daysIn date.year date.month then
    ⟨date.year, date.month, date.day + 1, date.month_pos, date.month_le, by omega, h⟩
  else if m : date.month < 12 then
    ⟨date.year, date.month + 1, 1, by omega, m, by omega, daysIn_pos ..⟩
  else firstOfYear (date.year + 1)

def previous (date : Date) : Date :=
  if d : 1 < date.day then
    ⟨date.year, date.month, date.day - 1, date.month_pos, date.month_le, by omega,
      Nat.le_trans (Nat.sub_le ..) date.day_le⟩
  else if m : 1 < date.month then
    ⟨date.year, date.month - 1, daysIn date.year (date.month - 1), by omega,
      Nat.le_trans (Nat.sub_le ..) date.month_le, daysIn_pos .., Nat.le_refl _⟩
  else
    ⟨date.year - 1, 12, 31, by decide, by decide, by decide, Nat.le_of_eq (daysIn_december _).symm⟩

def walk (step : Date → Date) : Nat → Date → Date
  | 0, date => date
  | count + 1, date => walk step count (step date)

def addDays (date : Date) : Int → Date
  | .ofNat count => walk next count date
  | .negSucc count => walk previous (count + 1) date

end Date

/-!
Times of day and timestamps. A time of day counts whole seconds since midnight and nanoseconds
beyond them; in a leap second the nanoseconds run on past one thousand million. A timestamp with
an offset holds the local date and time, and `utc` gives the same moment in universal time.
-/

def nanosPerSecond : Nat := 1000000000

def secondsPerDay : Nat := 86400

structure TimeOfDay where
  second : Nat
  nanosecond : Nat
  second_lt : second < secondsPerDay
  deriving DecidableEq

namespace TimeOfDay

def midnight : TimeOfDay := ⟨0, 0, by decide⟩

def make? (hour minute second nanosecond : Nat) : Option TimeOfDay :=
  if h : hour < 24 ∧ minute < 60 ∧ second < 60 ∧ nanosecond < 2 * nanosPerSecond then
    some ⟨hour * 3600 + minute * 60 + second, nanosecond, by
      unfold secondsPerDay
      omega⟩
  else none

def hour (time : TimeOfDay) : Nat := time.second / 3600

def minute (time : TimeOfDay) : Nat := time.second / 60 % 60

def isLeapSecond (time : TimeOfDay) : Bool := nanosPerSecond ≤ time.nanosecond

/-- The second on the clock; a leap second is one past the second it prolongs. -/
def clockSecond (time : TimeOfDay) : Nat :=
  time.second % 60 + (if time.isLeapSecond then 1 else 0)

def fraction (time : TimeOfDay) : Nat := time.nanosecond % nanosPerSecond

end TimeOfDay

structure Timestamp where
  date : Date
  time : TimeOfDay
  deriving DecidableEq

namespace Timestamp

def atMidnight (date : Date) : Timestamp := ⟨date, .midnight⟩

def epoch : Timestamp := atMidnight .epoch

/-- The earliest timestamp that a database client hands over, which stands for an unset one. -/
def earliest : Timestamp := atMidnight (.firstOfYear (-262143))

def minusSeconds (timestamp : Timestamp) (seconds : Int) : Timestamp :=
  let moved : Int := timestamp.time.second - seconds
  ⟨timestamp.date.addDays (moved / secondsPerDay),
    ⟨(moved % secondsPerDay).toNat, timestamp.time.nanosecond, by
      have := Int.emod_lt_of_pos moved (show (0 : Int) < secondsPerDay by decide)
      have := Int.emod_nonneg moved (show (secondsPerDay : Int) ≠ 0 by decide)
      omega⟩⟩

end Timestamp

/-- A local timestamp and how many seconds east of universal time it is. -/
structure OffsetTimestamp where
  localTime : Timestamp
  offset : Int
  deriving DecidableEq

namespace OffsetTimestamp

def utc (timestamp : OffsetTimestamp) : Timestamp :=
  timestamp.localTime.minusSeconds timestamp.offset

def equal (a b : OffsetTimestamp) : Bool :=
  a.utc == b.utc

end OffsetTimestamp

/-!
Texts of dates and times. Statements drop fractions of a second; documents show none, three, six
or nine digits of it, the fewest that are exact. A year has at least four digits, and a sign where
it is negative or has more.
-/

open MappedSql.Number (padded)

def yearText (year : Int) : String :=
  if year < 0 then "-" ++ padded 4 year.natAbs
  else if 9999 < year then "+" ++ padded 4 year.natAbs
  else padded 4 year.natAbs

namespace Date

def text (date : Date) : String :=
  yearText date.year ++ "-" ++ padded 2 date.month ++ "-" ++ padded 2 date.day

end Date

namespace TimeOfDay

def clockText (time : TimeOfDay) : String :=
  padded 2 time.hour ++ ":" ++ padded 2 time.minute ++ ":" ++ padded 2 time.clockSecond

def fractionText (nanoseconds : Nat) : String :=
  if nanoseconds = 0 then ""
  else if nanoseconds % 1000000 = 0 then "." ++ padded 3 (nanoseconds / 1000000)
  else if nanoseconds % 1000 = 0 then "." ++ padded 6 (nanoseconds / 1000)
  else "." ++ padded 9 nanoseconds

def text (time : TimeOfDay) : String :=
  time.clockText ++ fractionText time.fraction

end TimeOfDay

namespace Timestamp

def statementText (timestamp : Timestamp) : String :=
  timestamp.date.text ++ "T" ++ timestamp.time.clockText ++ "Z"

def text (timestamp : Timestamp) : String :=
  timestamp.date.text ++ "T" ++ timestamp.time.text

def utcText (timestamp : Timestamp) : String :=
  timestamp.text ++ "Z"

end Timestamp

namespace OffsetTimestamp

def signText (offset : Int) : String :=
  if offset < 0 then "-" else "+"

/-- The offset to the nearest minute, half a minute going away from zero. -/
def minutesText (offset : Int) : String :=
  let minutes := (offset.natAbs + 30) / 60
  signText offset ++ padded 2 (minutes / 60) ++ ":" ++ padded 2 (minutes % 60)

def exactOffsetText (offset : Int) : String :=
  let seconds := offset.natAbs
  signText offset ++ padded 2 (seconds / 3600) ++ ":" ++ padded 2 (seconds / 60 % 60) ++
    (if seconds % 60 = 0 then "" else ":" ++ padded 2 (seconds % 60))

def text (timestamp : OffsetTimestamp) : String :=
  timestamp.localTime.text ++
    (if timestamp.offset = 0 then "Z" else minutesText timestamp.offset)

def inspectedText (timestamp : OffsetTimestamp) : String :=
  timestamp.localTime.text ++ exactOffsetText timestamp.offset

end OffsetTimestamp

end MappedSql.Calendar
