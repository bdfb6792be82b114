/-!
# TOML date-times

A TOML date-time is a local date `YYYY-MM-DD`, a local time `HH:MM[:SS[.fraction]]`, or a date
and a time joined by `T`, `t` or a space, the time then optionally followed by an offset `Z`
or `±HH:MM`. The text is read as tokens (runs of digits and single characters) and checked part
by part; the first part that is wrong gives the fault, named by what was being read and what was
expected there:

* `invalid date, expected month between 01 and 12`, and `day between 01 and 28` (29, 30, 31 by
  month and leap year);
* `invalid time, expected hour between 00 and 23`, `minute between 00 and 59`, `second between
  00 and 60`;
* `invalid offset, expected hours between 00 and 23`, `minutes between 00 and 59`;
* the wrong number of digits (`a two-digit month (MM)`), a missing part (`month`, `hour`), or a
  wrong separator;
* after a date, anything but `T`, `t` or a blank before a time (`invalid date-time`), and after
  its time anything but an offset (`invalid offset, expected Z, +OFFSET, -OFFSET`);
* `invalid datetime` for anything left over after a time alone.
-/

namespace GraphWire.Toml

/-- The tokens of a date-time text. -/
inductive StampToken where
  | digits (ds : List Char)
  | dash
  | colon
  | dot
  | delimiter
  | zulu
  | plus
  | other
deriving DecidableEq, Repr

/-- The tokens of a date-time text; `fuel` bounds their number. -/
def stampTokens : Nat → List Char → List StampToken
  | 0, _ => []
  | _, [] => []
  | fuel + 1, c :: rest =>
    if c.isDigit then
      .digits (c :: rest.takeWhile Char.isDigit) :: stampTokens fuel (rest.dropWhile Char.isDigit)
    else
      let t : StampToken :=
        if c = '-' then .dash else if c = ':' then .colon else if c = '.' then .dot
        else if c = 'T' || c = 't' || c = ' ' then .delimiter
        else if c = 'Z' || c = 'z' then .zulu else if c = '+' then .plus else .other
      t :: stampTokens fuel rest

/-- A fault of a date-time: the part being read, if known, and what was expected there. -/
structure StampFault where
  what : Option String
  expected : Option String
deriving DecidableEq, Repr

/-- The message of a date-time fault. -/
def StampFault.message (f : StampFault) : String :=
  "invalid " ++ f.what.getD "datetime" ++ ((f.expected.map (", expected " ++ ·)).getD "")

/-- A step of reading a date-time: the value read and the tokens left. -/
abbrev StampStep (α : Type) := Except StampFault (α × List StampToken)

/-- The value of some decimal digits. -/
def decimalValue (ds : List Char) : Nat := ds.foldl (fun n c => n * 10 + (c.toNat - '0'.toNat)) 0

/-- A run of digits, or the fault naming the part. -/
def stampDigits (what : Option String) (expected : String) :
    List StampToken → StampStep (List Char)
  | .digits ds :: rest => .ok (ds, rest)
  | _ => .error ⟨what, some expected⟩

/-- A given separator, or the fault naming the part. -/
def stampSeparator (t : StampToken) (what : String) (expected : String) :
    List StampToken → Except StampFault (List StampToken)
  | u :: rest => if u = t then .ok rest else .error ⟨some what, some expected⟩
  | [] => .error ⟨some what, some expected⟩

/-- A check that fails with a fault of a part. -/
def stampCheck (ok : Bool) (what expected : String) : Except StampFault Unit :=
  if ok then .ok () else .error ⟨some what, some expected⟩

/-- Whether a year is a leap year. -/
def isLeapYear (y : Nat) : Bool := y % 4 == 0 && (y % 100 != 0 || y % 400 == 0)

/-- The days of a month, with the wording of the range. -/
def monthDays (year month : Nat) : Nat × String :=
  if month = 2 then
    if isLeapYear year then (29, "day between 01 and 29") else (28, "day between 01 and 28")
  else if month = 4 || month = 6 || month = 9 || month = 11 then (30, "day between 01 and 30")
  else (31, "day between 01 and 31")

/-- A date after its year and dash. -/
def stampDate (year : List Char) (ts : List StampToken) : Except StampFault (List StampToken) := do
  let (month, ts) ← stampDigits (some "date") "month" ts
  let ts ← stampSeparator .dash "date" "`-` (MM-DD)" ts
  let (day, ts) ← stampDigits (some "date") "day" ts
  stampCheck (year.length = 4) "date" "a four-digit year (YYYY)"
  stampCheck (month.length = 2) "date" "a two-digit month (MM)"
  stampCheck (day.length = 2) "date" "a two-digit day (DD)"
  let m := decimalValue month
  let d := decimalValue day
  stampCheck (1 ≤ m && m ≤ 12) "date" "month between 01 and 12"
  let (most, wording) := monthDays (decimalValue year) m
  stampCheck (1 ≤ d && d ≤ most) "date" wording
  return ts

/-- A time from its hour on. -/
def stampTime (ts : List StampToken) : Except StampFault (List StampToken) := do
  let (hour, ts) ← stampDigits (some "time") "hour" ts
  let ts ← stampSeparator .colon "time" "`:` (HH:MM)" ts
  let (minute, ts) ← stampDigits (some "time") "minute" ts
  let (second, ts) ← match ts with
    | .colon :: rest => do
      let (s, r) ← stampDigits (some "time") "second" rest
      pure (some s, r)
    | _ => pure (none, ts)
  let ts ← match second, ts with
    | some _, .dot :: rest => do
      let (_, r) ← stampDigits (some "time") "nanosecond" rest
      pure r
    | _, _ => pure ts
  stampCheck (hour.length = 2) "time" "a two-digit hour (HH)"
  stampCheck (minute.length = 2) "time" "a two-digit minute (MM)"
  match second with
  | some s => stampCheck (s.length = 2) "time" "a two-digit second (SS)"
  | none => pure ()
  stampCheck (decimalValue hour ≤ 23) "time" "hour between 00 and 23"
  stampCheck (decimalValue minute ≤ 59) "time" "minute between 00 and 59"
  stampCheck (decimalValue (second.getD []) ≤ 60) "time" "second between 00 and 60"
  return ts

/-- An offset after the time of a date and time, if anything follows: `Z`, or a sign, hours
and minutes. -/
def stampOffset (ts : List StampToken) : Except StampFault (List StampToken) :=
  match ts with
  | .zulu :: rest => .ok rest
  | t :: rest =>
    if t = .plus || t = .dash then do
      let (hours, r) ← stampDigits (some "offset") "hour" rest
      let r ← stampSeparator .colon "offset" "`:` (HH:MM)" r
      let (minutes, r) ← stampDigits (some "offset") "minute" r
      stampCheck (hours.length = 2) "offset" "a two-digit hour (HH)"
      stampCheck (minutes.length = 2) "offset" "a two-digit minute (MM)"
      stampCheck (decimalValue hours ≤ 23) "offset" "hours between 00 and 23"
      stampCheck (decimalValue minutes ≤ 59) "offset" "minutes between 00 and 59"
      return r
    else .error ⟨some "offset", some "`Z`, +OFFSET, -OFFSET"⟩
  | [] => .ok []

/-- Check the text of a date-time. -/
def checkStamp (text : List Char) : Except StampFault Unit := do
  let all := stampTokens text.length text
  let ts ← match all with
    | .digits first :: rest =>
      match rest with
      | .dash :: more => do
        let ts ← stampDate first more
        match ts with
        | .delimiter :: after => do
          let ts ← stampTime after
          stampOffset ts
        | [] => pure []
        | _ => throw ⟨some "date-time", some "`T` between date and time"⟩
      | .colon :: _ => stampTime all
      | _ => throw ⟨none, some "`-` (YYYY-MM) or `:` (HH:MM)"⟩
    | _ => throw ⟨none, some "year or hour"⟩
  if ts.isEmpty then pure () else throw ⟨none, none⟩

end GraphWire.Toml
