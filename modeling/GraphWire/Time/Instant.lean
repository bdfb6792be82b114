/-! # Civil dates and instants with an offset

Dates of the proleptic Gregorian calendar, their day numbers counted from 1970-01-01, and an
instant given as a local date and time with a fixed offset from UTC. The second may be 60, a
leap second, which counts as the second 59 in the timestamp. `Instant.rfc3339` writes an instant
as `YYYY-MM-DDThh:mm:ss±hh:mm`; a year beyond four digits carries its sign. -/

namespace GraphWire.Time

/-- Whether a year of the proleptic Gregorian calendar is a leap year. -/
def isLeapYear (y : Int) : Bool := (y % 4 == 0 && y % 100 != 0) || y % 400 == 0

/-- The number of days of a month (1 to 12) in a year. -/
def daysInMonth (y : Int) (m : Nat) : Nat :=
  match m with
  | 1 => 31 | 2 => if isLeapYear y then 29 else 28 | 3 => 31 | 4 => 30 | 5 => 31 | 6 => 30
  | 7 => 31 | 8 => 31 | 9 => 30 | 10 => 31 | 11 => 30 | 12 => 31
  | _ => 0

/-- The days from 1970-01-01 to a date; negative before it. Division by a positive number
rounds down here, so eras before year 0 need no correction. -/
def daysFromCivil (y : Int) (m d : Nat) : Int :=
  let y' : Int := if m ≤ 2 then y - 1 else y
  let era : Int := y' / 400
  let yoe : Int := y' - era * 400
  let mp : Int := (m + 9) % 12
  let doy : Int := (153 * mp + 2) / 5 + d - 1
  let doe : Int := yoe * 365 + yoe / 4 - yoe / 100 + doy
  era * 146097 + doe - 719468

-- The epoch is day zero.
example : daysFromCivil 1970 1 1 = 0 := by decide

/-- The date of a day number: year, month and day. -/
def civilFromDays (z : Int) : Int × Nat × Nat :=
  let z := z + 719468
  let era : Int := z / 146097
  let doe : Int := z - era * 146097
  let yoe : Int := (doe - doe / 1460 + doe / 36524 - doe / 146096) / 365
  let y : Int := yoe + era * 400
  let doy : Int := doe - (365 * yoe + yoe / 4 - yoe / 100)
  let mp : Int := (5 * doy + 2) / 153
  let d : Int := doy - (153 * mp + 2) / 5 + 1
  let m : Int := if mp < 10 then mp + 3 else mp - 9
  ((if m ≤ 2 then y + 1 else y), m.toNat, d.toNat)

/-- The day of the week of a day number, 0 for Monday to 6 for Sunday. -/
def weekdayOfDays (z : Int) : Nat := ((z + 3) % 7).toNat

/-- The least and the greatest year an instant may have: the calendar spans years -262143 to
262142, which keeps every day number and timestamp well inside 64 bits. -/
def minYear : Int := -262143
def maxYear : Int := 262142

/-- A local date and time with a fixed offset from UTC, in seconds east. -/
structure Instant where
  year : Int
  month : Nat
  day : Nat
  hour : Nat
  minute : Nat
  second : Nat
  offset : Int
deriving DecidableEq, Repr

namespace Instant

/-- The seconds since 1970-01-01T00:00:00Z; a leap second counts as second 59. -/
def timestamp (t : Instant) : Int :=
  daysFromCivil t.year t.month t.day * 86400 + t.hour * 3600 + t.minute * 60 +
    (min t.second 59 : Nat) - t.offset

/-- A number of at least two digits. -/
def pad2 (n : Nat) : String := if n < 10 then "0" ++ toString n else toString n

/-- A year as four digits, or with its sign beyond them. -/
def yearText (y : Int) : String :=
  if 0 ≤ y ∧ y ≤ 9999 then
    let s := toString y.toNat
    String.ofList (List.replicate (4 - s.length) '0') ++ s
  else
    let s := toString y.natAbs
    (if y < 0 then "-" else "+") ++ String.ofList (List.replicate (4 - s.length) '0') ++ s

/-- An offset as `±hh:mm`. -/
def offsetText (o : Int) : String :=
  let a := o.natAbs
  (if o < 0 then "-" else "+") ++ pad2 (a / 3600) ++ ":" ++ pad2 (a / 60 % 60)

/-- The instant as RFC 3339 text. -/
def rfc3339 (t : Instant) : String :=
  yearText t.year ++ "-" ++ pad2 t.month ++ "-" ++ pad2 t.day ++ "T" ++ pad2 t.hour ++ ":" ++
    pad2 t.minute ++ ":" ++ pad2 t.second ++ offsetText t.offset

end Instant

end GraphWire.Time
