/-
  FilterRules — dates and times as RFC 3339 writes them.

  A text such as `2024-06-01T12:30:00.5+02:00` gives a date, a time of day and an
  offset from UTC.  A space or a small `t` may stand for the `T`, a small `z` for
  the `Z`, and the minus of an offset may be U+2212.  Second 60 is a leap second
  and may stand in any minute.

  * `Stamp` is what a text says and `Stamp.instant` the instant it means;
  * `read` reads a text or gives the reason why it cannot;
  * `render` writes an instant in UTC with three digits for the fraction; a year
    that four digits do not hold has a sign.
-/
import FilterRules.Calendar.Date
import FilterRules.Text.Basic

namespace FilterRules.Rfc3339

open Text (byteCount)

/-! ## Stamps -/

/-- A date, a time of day and an offset from UTC. -/
structure Stamp where
  date : Date
  hour : Nat
  minute : Nat
  /-- The second, 60 for a leap second. -/
  second : Nat
  nanosecond : Nat
  /-- The minutes by which the clock is ahead of UTC. -/
  offset : Int
  second_le : second ≤ 60
  nanosecond_lt : nanosecond < 1000000000
  deriving DecidableEq

/-- The seconds from the start of 1970 to the full second of a stamp, a leap
    second counting as the second before it. -/
def Stamp.seconds (s : Stamp) : Int :=
  86400 * s.date.dayNumber + 3600 * s.hour + 60 * s.minute + (min s.second 59 : Nat) - 60 * s.offset

/-- The instant that a stamp means. -/
def Stamp.instant (s : Stamp) : Instant where
  seconds := s.seconds
  nanoseconds := if s.second = 60 then 1000000000 + s.nanosecond else s.nanosecond
  nanoseconds_lt := by have := s.nanosecond_lt; split <;> omega
  leap_at_minute_end := by
    intro h
    have := s.nanosecond_lt
    have : s.second = 60 := by
      by_cases hs : s.second = 60
      · exact hs
      · simp only [hs, if_false] at h; omega
    simp only [Stamp.seconds, this]
    omega

/-! ## Reading -/

/-- Why a text is not a date and time. -/
inductive Fault where
  | tooShort
  | invalid
  | outOfRange
  | tooLong
  deriving DecidableEq, Repr

/-- The wording of a fault. -/
def Fault.message : Fault → String
  | .tooShort => "premature end of input"
  | .invalid => "input contains invalid characters"
  | .outOfRange => "input is out of range"
  | .tooLong => "trailing input"

/-- The value of a decimal digit. -/
def digitValue (c : Char) : Nat := c.toNat - '0'.toNat

/-- Reads a number of `count` digits, behind the digits of `n`. -/
def readDigits : (count n : Nat) → List Char → Except Fault (Nat × List Char)
  | 0, n, cs => .ok (n, cs)
  | count + 1, n, c :: cs =>
    if c.isDigit then readDigits count (10 * n + digitValue c) cs else .error .invalid
  | _ + 1, _, [] => .error .invalid

/-- Reads one of the given characters. -/
def readMark (marks : List Char) : List Char → Except Fault (List Char)
  | c :: cs => if marks.contains c then .ok cs else .error .invalid
  | [] => .error .invalid

/-- Reads a date, which has to exist. -/
def readDate (cs : List Char) : Except Fault (Date × List Char) := do
  let (year, cs) ← readDigits 4 0 cs
  let cs ← readMark ['-'] cs
  let (month, cs) ← readDigits 2 0 cs
  let cs ← readMark ['-'] cs
  let (day, cs) ← readDigits 2 0 cs
  let date : Date := ⟨year, month, day⟩
  if date.isValid then return (date, cs) else throw .outOfRange

/-- The nanoseconds of the digits of a fraction; digits past the ninth do not
    count. -/
def nanosecondsOf (digits : List Char) : Nat :=
  let counted := digits.take 9
  counted.foldl (fun n d => 10 * n + digitValue d) 0 * Nat.pow 10 (9 - counted.length)

/-- Reads the fraction of a second, if there is one. -/
def readFraction : List Char → Except Fault (Nat × List Char)
  | '.' :: cs =>
    match cs with
    | [] => .error .tooShort
    | c :: _ =>
      if c.isDigit then .ok (nanosecondsOf (cs.takeWhile Char.isDigit), cs.dropWhile Char.isDigit)
      else .error .invalid
  | cs => .ok (0, cs)

/-- Reads the two digits of the hours of an offset. -/
def readOffsetHours (cs : List Char) : Except Fault (Nat × List Char) :=
  if byteCount cs < 2 then .error .tooShort else readDigits 2 0 cs

/-- Reads the two digits of the minutes of an offset. -/
def readOffsetMinutes (cs : List Char) : Except Fault (Nat × List Char) :=
  if byteCount cs < 2 then .error .tooShort
  else do
    let (minutes, cs) ← readDigits 2 0 cs
    if minutes < 60 then return (minutes, cs) else throw .outOfRange

/-- Reads the colon of an offset. -/
def readOffsetColon : List Char → Except Fault (List Char)
  | [] => .error .tooShort
  | cs => readMark [':'] cs

/-- Reads an offset, in minutes. -/
def readOffset : List Char → Except Fault (Int × List Char)
  | [] => .error .tooShort
  | c :: cs =>
    if c = 'Z' ∨ c = 'z' then .ok (0, cs)
    else if c = '+' ∨ c = '-' ∨ c = '\u2212' then do
      let (hours, cs) ← readOffsetHours cs
      let cs ← readOffsetColon cs
      let (minutes, cs) ← readOffsetMinutes cs
      let size : Int := 60 * hours + minutes
      return (if c = '+' then size else -size, cs)
    else .error .invalid

/-- Reads a text that holds a date, a time of day and an offset. -/
def readChars (text : List Char) : Except Fault Stamp := do
  if byteCount text < 19 then throw .tooShort
  let (date, cs) ← readDate text
  let cs ← readMark ['T', 't', ' '] cs
  let (hour, cs) ← readDigits 2 0 cs
  let cs ← readMark [':'] cs
  let (minute, cs) ← readDigits 2 0 cs
  let cs ← readMark [':'] cs
  let (second, cs) ← readDigits 2 0 cs
  let (nanosecond, cs) ← readFraction cs
  if h : hour < 24 ∧ minute < 60 ∧ second ≤ 60 ∧ nanosecond < 1000000000 then
    let (offset, cs) ← readOffset cs
    if !cs.isEmpty then throw .tooLong
    if offset.natAbs < 24 * 60 then
      return ⟨date, hour, minute, second, nanosecond, offset, h.2.2.1, h.2.2.2⟩
    else throw .outOfRange
  else throw .outOfRange

/-- Reads a text that holds a date, a time of day and an offset. -/
def read (text : String) : Except Fault Stamp := readChars text.toList

/-- The instant of a text, if it is a date and time. -/
def instant? (text : String) : Option Instant := (read text).toOption.map Stamp.instant

/-! ## Writing -/

/-- A natural in decimal, with zeros in front up to a width. -/
def padded (width n : Nat) : List Char :=
  let digits := Nat.toDigits 10 n
  List.replicate (width - digits.length) '0' ++ digits

/-- A year: four digits, or a sign and at least four digits. -/
def renderYear (year : Int) : List Char :=
  if 0 ≤ year ∧ year ≤ 9999 then padded 4 year.toNat
  else (if year < 0 then '-' else '+') :: padded 4 year.natAbs

/-- An instant in UTC, to the millisecond. -/
def renderChars (t : Instant) : List Char :=
  let date := Date.ofDayNumber (t.seconds / 86400)
  let time := (t.seconds % 86400).toNat
  let second := time % 60 + t.nanoseconds / 1000000000
  renderYear date.year ++ '-' :: padded 2 date.month ++ '-' :: padded 2 date.day ++
    'T' :: padded 2 (time / 3600) ++ ':' :: padded 2 (time / 60 % 60) ++
    ':' :: padded 2 second ++ '.' :: padded 3 (t.nanoseconds % 1000000000 / 1000000) ++ ['Z']

/-- An instant in UTC, to the millisecond. -/
def render (t : Instant) : String := String.ofList (renderChars t)

end FilterRules.Rfc3339
