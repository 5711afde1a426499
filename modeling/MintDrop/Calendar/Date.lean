/-!
# Calendar dates

The Gregorian calendar before and after its introduction, with years counted through zero.  `Date.dayNumber`
counts the days from 1 January 1970, and `Moment.seconds` the seconds.
-/

namespace MintDrop

/-- A day of the calendar, which may not exist. -/
structure Date where
  year : Int
  month : Nat
  day : Nat
  deriving DecidableEq

namespace Date

/-- Whether a year has 366 days. -/
def isLeap (year : Int) : Bool := year % 4 = 0 && (year % 100 ≠ 0 || year % 400 = 0)

/-- The number of days of a month. -/
def monthLength (year : Int) (month : Nat) : Nat :=
  match month with
  | 1 | 3 | 5 | 7 | 8 | 10 | 12 => 31
  | 4 | 6 | 9 | 11 => 30
  | 2 => if isLeap year then 29 else 28
  | _ => 0

/-- The first year that is counted. -/
def minYear : Int := -262143

/-- The last year that is counted. -/
def maxYear : Int := 262142

/-- Whether the day exists in a year that is counted. -/
def isValid (d : Date) : Bool :=
  minYear ≤ d.year && d.year ≤ maxYear && 1 ≤ d.day && d.day ≤ monthLength d.year d.month

/-- The days from 1 January of year 1 to 1 January of a year. -/
def daysBeforeYear (year : Int) : Int :=
  365 * (year - 1) + (year - 1) / 4 - (year - 1) / 100 + (year - 1) / 400

/-- The days of a year before a month. -/
def daysBeforeMonth (year : Int) (month : Nat) : Nat :=
  ((List.range' 1 (month - 1)).map (monthLength year)).foldr (· + ·) 0

/-- The days from 1 January 1970. -/
def dayNumber (d : Date) : Int :=
  daysBeforeYear d.year + daysBeforeMonth d.year d.month + d.day - 1 - 719162

/-- The day of the week, from 0 for Sunday to 6 for Saturday. -/
def weekday (d : Date) : Nat := ((d.dayNumber + 4) % 7).toNat

end Date

/-- A time of day; second 60 is a leap second. -/
structure Clock where
  hour : Nat
  minute : Nat
  second : Nat
  deriving DecidableEq

namespace Clock

/-- Midnight. -/
def midnight : Clock := ⟨0, 0, 0⟩

/-- Whether the time exists. -/
def isValid (c : Clock) : Bool := c.hour < 24 && c.minute < 60 && c.second ≤ 60

/-- The seconds from midnight; a leap second counts as the one before it. -/
def seconds (c : Clock) : Nat := 3600 * c.hour + 60 * c.minute + min c.second 59

end Clock

/-- A day and a time of day, with the seconds by which local time is ahead. -/
structure Moment where
  date : Date
  clock : Clock
  offset : Int
  deriving DecidableEq

namespace Moment

/-- The seconds from the beginning of 1970. -/
def seconds (m : Moment) : Int := 86400 * m.date.dayNumber + m.clock.seconds - m.offset

/-- Whether day and time exist, the offset is less than a day and the day in universal time lies in a year
that is counted. -/
def isValid (m : Moment) : Bool :=
  m.date.isValid && m.clock.isValid && -86400 < m.offset && m.offset < 86400
    && 86400 * Date.dayNumber ⟨Date.minYear, 1, 1⟩ ≤ m.seconds
    && m.seconds < 86400 * Date.dayNumber ⟨Date.maxYear + 1, 1, 1⟩

end Moment

end MintDrop
