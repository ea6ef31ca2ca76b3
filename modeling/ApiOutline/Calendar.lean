/-
Days and moments.

A document may hold dates and times of day as values of their own. They are only carried and
written, never computed with, but they have to be days and times that exist, and two moments with
different offsets from universal time can be the same moment.
-/
import ApiOutline.Decimal.Shortest

set_option autoImplicit false

namespace ApiOutline

/-- A day of the calendar. -/
structure Date where
  year : Nat
  month : Nat
  day : Nat
  deriving DecidableEq, Repr

/-- A day with a time, to the microsecond. `offset` is the distance from universal time in
seconds, where it is known. -/
structure Moment where
  date : Date
  hour : Nat
  minute : Nat
  second : Nat
  microsecond : Nat
  offset : Option Int
  deriving DecidableEq, Repr

namespace Date

def isLeapYear (year : Nat) : Bool :=
  year % 4 == 0 && (year % 100 != 0 || year % 400 == 0)

def daysInMonth (year month : Nat) : Nat :=
  if month == 2 then if isLeapYear year then 29 else 28
  else if month == 4 || month == 6 || month == 9 || month == 11 then 30
  else 31

/-- Years are numbered from one to 9999. -/
def exists? (d : Date) : Bool :=
  1 ≤ d.year && d.year ≤ 9999 && 1 ≤ d.month && d.month ≤ 12 &&
    1 ≤ d.day && d.day ≤ daysInMonth d.year d.month

/-- Days since the last day of the year before the first. -/
def ordinal (d : Date) : Nat :=
  let y := d.year - 1
  let months := (List.range (d.month - 1)).map fun m => daysInMonth d.year (m + 1)
  365 * y + y / 4 - y / 100 + y / 400 + months.foldl (· + ·) 0 + d.day

private def two (n : Nat) : String :=
  Decimal.padded 2 (Decimal.digitText n)

/-- Year, month and day with hyphens between them. -/
def text (d : Date) : String :=
  Decimal.padded 4 (Decimal.digitText d.year) ++ "-" ++ two d.month ++ "-" ++ two d.day

end Date

namespace Moment

/-- An offset is less than a day either way. -/
def exists? (m : Moment) : Bool :=
  m.date.exists? && m.hour < 24 && m.minute < 60 && m.second < 60 && m.microsecond < 1000000 &&
    (match m.offset with
      | none => true
      | some o => -86400 < o && o < 86400)

private def two (n : Nat) : String :=
  Decimal.padded 2 (Decimal.digitText n)

/-- The time of day; a fraction of a second is written with six digits, and only if there is one. -/
def clockText (m : Moment) : String :=
  two m.hour ++ ":" ++ two m.minute ++ ":" ++ two m.second ++
    (if m.microsecond = 0 then "" else "." ++ Decimal.padded 6 (Decimal.digitText m.microsecond))

/-- A whole number of minutes, which is all that documents can say, as hours and minutes. -/
def offsetText (seconds : Int) : String :=
  let minutes := seconds.natAbs / 60
  (if seconds < 0 then "-" else "+") ++ two (minutes / 60) ++ ":" ++ two (minutes % 60)

/-- Day, separator, time and offset, if it is known. -/
def text (separator : String) (m : Moment) : String :=
  m.date.text ++ separator ++ m.clockText ++ (m.offset.map offsetText).getD ""

/-- As `text` with a `T`, and with a `Z` for universal time. -/
def zuluText (m : Moment) : String :=
  m.date.text ++ "T" ++ m.clockText ++
    (match m.offset with
      | none => ""
      | some 0 => "Z"
      | some o => offsetText o)

/-- Microseconds on the clock of universal time. -/
def instant (m : Moment) (offset : Int) : Int :=
  (((m.date.ordinal * 24 + m.hour : Nat) * 60 + m.minute : Nat) * 60 + m.second - offset : Int) *
    1000000 + m.microsecond

/-- Two moments are the same if their clocks agree; known offsets are accounted for, and a known
one never agrees with an unknown one. -/
def same (a b : Moment) : Bool :=
  match a.offset, b.offset with
  | none, none => a == b
  | some x, some y => a.instant x == b.instant y
  | _, _ => false

end Moment

end ApiOutline
