/-
  FilterRules — dates and instants of time.

  Dates are those of the Gregorian calendar, carried back without end; the year
  before the year 1 is the year 0.  An instant is counted in seconds from the start
  of 1970, UTC, and nanoseconds in the second.  A leap second has no number of its
  own: it belongs to the last second of its minute, whose nanoseconds go on past the
  billion.

  * `Date.isValid` tells whether a date exists;
  * `Date.dayNumber` counts the days from 1970-01-01 and `Date.ofDayNumber` goes
    back.  Both count years from March on, so that the day that a leap year has
    more comes last, and months then have lengths that repeat every five; 146097
    days make 400 years;
  * `Instant.milliseconds` is the count of milliseconds from the start of 1970, in
    which a leap second runs on into the next second, and `Instant.toMilliseconds`
    the instant without its smaller digits.
-/

namespace FilterRules

/-! ## Dates -/

/-- A day of the calendar. -/
structure Date where
  year : Int
  month : Nat
  day : Nat
  deriving DecidableEq, Repr

namespace Date

/-- Every fourth year is a leap year, but of the full centuries only every
    fourth. -/
def isLeapYear (year : Int) : Bool := year % 4 == 0 && (year % 100 != 0 || year % 400 == 0)

/-- The number of days of a month. -/
def daysInMonth (year : Int) (month : Nat) : Nat :=
  match month with
  | 2 => if isLeapYear year then 29 else 28
  | 4 | 6 | 9 | 11 => 30
  | _ => 31

/-- Whether the calendar has this date. -/
def isValid (d : Date) : Bool :=
  decide (1 ≤ d.month) && decide (d.month ≤ 12) && decide (1 ≤ d.day) &&
    decide (d.day ≤ daysInMonth d.year d.month)

/-- The number of days from 1970-01-01 to a date. -/
def dayNumber (d : Date) : Int :=
  let year := if d.month ≤ 2 then d.year - 1 else d.year
  let month : Int := ((d.month + 9) % 12 : Nat)
  let dayOfYear := (153 * month + 2) / 5 + d.day - 1
  365 * year + year / 4 - year / 100 + year / 400 + dayOfYear - 719468

/-- The date a number of days after 1970-01-01. -/
def ofDayNumber (n : Int) : Date :=
  let days := n + 719468
  let era := days / 146097
  let dayOfEra := days % 146097
  let yearOfEra := (dayOfEra - dayOfEra / 1460 + dayOfEra / 36524 - dayOfEra / 146096) / 365
  let dayOfYear := dayOfEra - (365 * yearOfEra + yearOfEra / 4 - yearOfEra / 100)
  let month := (5 * dayOfYear + 2) / 153
  let day := dayOfYear - (153 * month + 2) / 5 + 1
  let year := 400 * era + yearOfEra
  if month < 10 then ⟨year, (month + 3).toNat, day.toNat⟩
  else ⟨year + 1, (month - 9).toNat, day.toNat⟩

end Date

/-! ## Instants -/

/-- An instant of time. -/
structure Instant where
  /-- Seconds from the start of 1970, rounded down. -/
  seconds : Int
  /-- Nanoseconds in the second, from a billion on for a leap second. -/
  nanoseconds : Nat
  nanoseconds_lt : nanoseconds < 2000000000
  leap_at_minute_end : 1000000000 ≤ nanoseconds → seconds % 60 = 59
  deriving DecidableEq

namespace Instant

/-- The instant of a count of seconds and nanoseconds, if there is one. -/
def ofParts? (seconds : Int) (nanoseconds : Nat) : Option Instant :=
  if h : nanoseconds < 2000000000 ∧ (1000000000 ≤ nanoseconds → seconds % 60 = 59) then
    some ⟨seconds, nanoseconds, h.1, h.2⟩
  else none

/-- Milliseconds from the start of 1970, rounded down. -/
def milliseconds (t : Instant) : Int := 1000 * t.seconds + (t.nanoseconds / 1000000 : Nat)

/-- Whether the instant lies in a leap second. -/
def isLeap (t : Instant) : Bool := decide (1000000000 ≤ t.nanoseconds)

/-- The instant cut down to whole milliseconds. -/
def toMilliseconds (t : Instant) : Instant :=
  ⟨t.seconds, t.nanoseconds / 1000000 * 1000000, by have := t.nanoseconds_lt; omega,
    fun h => t.leap_at_minute_end (by omega)⟩

end Instant

end FilterRules
