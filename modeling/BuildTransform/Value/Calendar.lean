import BuildTransform.Decimal.Numeral

/-!
# Dates and times

Calendar dates, times of day and their combination, with the ISO form of each.

* A `Date` is proper if its month and day exist in the Gregorian calendar.
* A time may have an offset from universal time of less than one day.
* The ISO form gives microseconds only where there are some, with six digits.
-/

namespace BuildTransform

/-- A day of the Gregorian calendar. -/
structure Date where
  year : Nat
  month : Nat
  day : Nat
deriving DecidableEq, Repr, Inhabited

/-- A time of day in microseconds, with the offset from universal time in
minutes where one is known. -/
structure Time where
  hour : Nat
  minute : Nat
  second : Nat
  micro : Nat
  offset : Option Int
deriving DecidableEq, Repr, Inhabited

namespace Date

/-- Every fourth year is longer, except for centuries that 400 does not divide. -/
def isLeap (year : Nat) : Bool :=
  year % 4 == 0 && (year % 100 != 0 || year % 400 == 0)

/-- The number of days of a month. -/
def daysIn (year month : Nat) : Nat :=
  if month = 2 then (if isLeap year then 29 else 28)
  else if month = 4 ∨ month = 6 ∨ month = 9 ∨ month = 11 then 30
  else 31

/-- The day exists, in a year of one to four digits. -/
def isProper (d : Date) : Bool :=
  1 ≤ d.year && d.year ≤ 9999 && 1 ≤ d.month && d.month ≤ 12 &&
    1 ≤ d.day && d.day ≤ daysIn d.year d.month

/-- The ISO form of a day. -/
def iso (d : Date) : String :=
  Numeral.padded 4 d.year ++ "-" ++ Numeral.twoDigits d.month ++ "-" ++ Numeral.twoDigits d.day

end Date

namespace Time

/-- The time exists and its offset is less than one day. -/
def isProper (t : Time) : Bool :=
  t.hour < 24 && t.minute < 60 && t.second < 60 && t.micro < 1000000 &&
    match t.offset with
    | none => true
    | some o => o.natAbs < 1440

/-- The ISO form of an offset. -/
def isoOffset (o : Int) : String :=
  (if o < 0 then "-" else "+") ++ Numeral.twoDigits (o.natAbs / 60) ++ ":" ++
    Numeral.twoDigits (o.natAbs % 60)

/-- The ISO form of a time. -/
def iso (t : Time) : String :=
  Numeral.twoDigits t.hour ++ ":" ++ Numeral.twoDigits t.minute ++ ":" ++
    Numeral.twoDigits t.second ++
    (if t.micro = 0 then "" else "." ++ Numeral.padded 6 t.micro) ++
    match t.offset with
    | none => ""
    | some o => isoOffset o

/-- Microseconds from the digits after the decimal point; digits beyond the
sixth are dropped. -/
def microOfDigits (ds : List Nat) : Nat :=
  let six := ds.take 6
  Numeral.ofDigits 10 six * Nat.pow 10 (6 - six.length)

end Time

/-- The number of days of the first months of a year. -/
def Date.daysOfMonths (year : Nat) : Nat → Nat
  | 0 => 0
  | n + 1 => Date.daysOfMonths year n + Date.daysIn year (n + 1)

/-- The number of days of the years and months in front of a day, and the day. -/
def Date.ordinal (d : Date) : Nat :=
  let y := d.year - 1
  y * 365 + y / 4 - y / 100 + y / 400 + Date.daysOfMonths d.year (d.month - 1) + d.day

/-- The microseconds of a day and a time since the first day of the calendar. -/
def Time.elapsed (d : Date) (t : Time) : Nat :=
  (((d.ordinal * 24 + t.hour) * 60 + t.minute) * 60 + t.second) * 1000000 + t.micro

/-- Two times on their days are the same: with known offsets they are the same
instant, without they read the same. -/
def Time.sameInstant (d : Date) (t : Time) (e : Date) (u : Time) : Bool :=
  match t.offset, u.offset with
  | some o, some p =>
      (Time.elapsed d t : Int) - o * 60000000 == (Time.elapsed e u : Int) - p * 60000000
  | none, none => d == e && t == u
  | _, _ => false

end BuildTransform
