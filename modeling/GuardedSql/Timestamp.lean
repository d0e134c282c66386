import GuardedSql.Decimal.Digits

/-!
# Timestamps

A timestamp is a wall-clock reading of the proleptic Gregorian calendar together
with the offset of that clock from universal time.
-/

namespace GuardedSql

/-- A wall-clock reading and the offset of the clock from universal time, in
seconds. -/
structure Timestamp where
  year : Int
  month : Nat
  day : Nat
  hour : Nat
  minute : Nat
  second : Nat
  nanosecond : Nat
  offset : Int
  deriving DecidableEq, Repr

namespace Timestamp

def isLeapYear (year : Int) : Bool :=
  year % 4 = 0 && (year % 100 ≠ 0 || year % 400 = 0)

/-- The number of days in a year before the first of a month, January being
month 1. -/
def daysBeforeMonth (year : Int) (month : Nat) : Nat :=
  let lengths := [31, if isLeapYear year then 29 else 28, 31, 30, 31, 30, 31, 31,
    30, 31, 30, 31]
  (lengths.take (month - 1)).foldl (· + ·) 0

/-- The number of days from the first of January of year 1 to the first of
January of a year. -/
def daysBeforeYear (year : Int) : Int :=
  let past := year - 1
  365 * past + past / 4 - past / 100 + past / 400

/-- The instant, in nanoseconds of universal time since the start of the day
before year 1. -/
def instant (t : Timestamp) : Int :=
  let days := daysBeforeYear t.year + daysBeforeMonth t.year t.month + t.day
  let seconds := ((days * 24 + t.hour) * 60 + t.minute) * 60 + t.second - t.offset
  seconds * 1000000000 + t.nanosecond

/-- Whether two timestamps name the same instant. -/
instance : BEq Timestamp :=
  ⟨fun a b => a.instant == b.instant⟩

/-- The offset as `Z` or as signed hours and minutes. -/
def offsetText (offset : Int) : String :=
  if offset = 0 then "Z"
  else
    let minutes := offset.natAbs / 60
    (if offset < 0 then "-" else "+") ++ Decimal.padded 2 (minutes / 60) ++ ":" ++
      Decimal.padded 2 (minutes % 60)

/-- Date, time of day and offset, for a year that is not negative. -/
def rfc3339 (t : Timestamp) : String :=
  let fraction :=
    if t.nanosecond = 0 then "" else "." ++ Decimal.fractionDigits 9 t.nanosecond
  Decimal.padded 4 t.year.toNat ++ "-" ++ Decimal.padded 2 t.month ++ "-" ++
    Decimal.padded 2 t.day ++ "T" ++ Decimal.padded 2 t.hour ++ ":" ++
    Decimal.padded 2 t.minute ++ ":" ++ Decimal.padded 2 t.second ++ fraction ++
    offsetText t.offset

/-- Whether RFC 3339 can write a timestamp: its year has at most four digits and
no sign, and its offset is a whole number of minutes of less than a day. -/
def hasText (t : Timestamp) : Bool :=
  decide (0 ≤ t.year) && decide (t.year ≤ 9999) && t.offset % 60 == 0 &&
    decide (t.offset.natAbs < 24 * 60 * 60)

/-- The text of RFC 3339, if there is one. -/
def text? (t : Timestamp) : Option String :=
  if t.hasText then some t.rfc3339 else none

end Timestamp

end GuardedSql
