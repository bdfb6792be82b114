import GraphWire.Time.Instant
import GraphWire.Text.Blank

/-! # Reading RFC 2822 dates

`Rfc2822.parse` reads `[weekday ","] day month year hour ":" minute [":" second] zone
[comments]`, with blanks (Unicode White_Space) wherever the grammar allows them:

* the weekday and month are three-letter English names in any case; a weekday must agree with
  the date;
* the day has one or two digits, the hour, minute and second two; a second of 60 is a leap
  second;
* a year of two digits is 2000 to 2049 for 00 to 49 and 1950 to 1999 for 50 to 99, a year of
  three digits is counted from 1900, and a longer one is taken as written;
* the zone is `+hhmm` or `-hhmm` with minutes below 60, `UT`, `GMT`, `Z`, one of the North
  American names `EST` to `PDT`, or a single military letter other than `J` (taken as UTC);
* comments in parentheses may follow, nested, with `\` escaping the next character.

The first fault found decides the error, in the order the grammar is read; an impossible date
or an offset of a day or more is refused after the whole text is read. -/

namespace GraphWire.Time

/-- Why a date could not be read. -/
inductive ParseError where
  | outOfRange
  | impossible
  | notEnough
  | invalid
  | tooShort
  | tooLong
deriving DecidableEq, Repr

/-- The wording of a date reading error. -/
def ParseError.message : ParseError → String
  | .outOfRange => "input is out of range"
  | .impossible => "no possible date and time matching input"
  | .notEnough => "input is not enough for unique date and time"
  | .invalid => "input contains invalid characters"
  | .tooShort => "premature end of input"
  | .tooLong => "trailing input"

namespace Rfc2822

/-- A reading step: what is left of the text, and what was read. -/
abbrev Step (α : Type) := Except ParseError (List Char × α)

/-- The number of bytes of some characters. -/
def byteLength (cs : List Char) : Nat := cs.foldl (fun n c => n + c.utf8Size) 0

/-- The text without leading blanks. -/
def skipBlank (cs : List Char) : List Char := cs.dropWhile Text.isBlank

/-- A run of at least `lo` and at most `hi` decimal digits. -/
def number (cs : List Char) (lo hi : Nat) : Step Nat :=
  if byteLength cs < lo then .error .tooShort
  else
    let run := (cs.take hi).takeWhile Char.isDigit
    if run.length < lo then .error .invalid
    else
      let n := run.foldl (fun acc c => acc * 10 + (c.toNat - '0'.toNat)) 0
      if n ≥ Nat.pow 2 63 then .error .outOfRange else .ok (cs.drop run.length, n)

/-- Blanks that must be there. -/
def space (cs : List Char) : Except ParseError (List Char) :=
  let rest := skipBlank cs
  if rest.length < cs.length then .ok rest
  else if rest.isEmpty then .error .tooShort
  else .error .invalid

/-- One given character. -/
def char (cs : List Char) (c : Char) : Except ParseError (List Char) :=
  match cs with
  | [] => .error .tooShort
  | d :: rest => if d = c then .ok rest else .error .invalid

/-- A letter in lower case, for ASCII letters. -/
def lower (c : Char) : Char := if 'A' ≤ c ∧ c ≤ 'Z' then Char.ofNat (c.toNat + 32) else c

/-- The index of a three-letter name among some, in any case. -/
def shortName (names : List String) (cs : List Char) : Step Nat :=
  if byteLength cs < 3 then .error .tooShort
  else
    let key := String.ofList ((cs.take 3).map lower)
    match names.idxOf? key with
    | some i => .ok (cs.drop 3, i)
    | none => .error .invalid

/-- The weekday names, Monday first. -/
def weekdays : List String := ["mon", "tue", "wed", "thu", "fri", "sat", "sun"]

/-- The month names, January first. -/
def months : List String :=
  ["jan", "feb", "mar", "apr", "may", "jun", "jul", "aug", "sep", "oct", "nov", "dec"]

/-- Whether a character is an ASCII letter. -/
def isLetter (c : Char) : Bool := ('a' ≤ c ∧ c ≤ 'z') || ('A' ≤ c ∧ c ≤ 'Z')

/-- A numeric zone `±hhmm`, in seconds east of UTC. -/
def numericZone (cs : List Char) : Step Int :=
  match cs with
  | [] => .error .tooShort
  | sign :: rest =>
    if sign ≠ '+' ∧ sign ≠ '-' then .error .invalid
    else if byteLength rest < 2 then .error .tooShort
    else
      match rest with
      | h1 :: h2 :: rest =>
        if !(h1.isDigit && h2.isDigit) then .error .invalid
        else if byteLength rest < 2 then .error .tooShort
        else
          match rest with
          | m1 :: m2 :: rest =>
            if '0' ≤ m1 ∧ m1 ≤ '5' ∧ m2.isDigit then
              let hours := (h1.toNat - '0'.toNat) * 10 + (h2.toNat - '0'.toNat)
              let minutes := (m1.toNat - '0'.toNat) * 10 + (m2.toNat - '0'.toNat)
              let secs : Int := hours * 3600 + minutes * 60
              .ok (rest, if sign = '-' then -secs else secs)
            else if '6' ≤ m1 ∧ m1 ≤ '9' ∧ m2.isDigit then .error .outOfRange
            else .error .invalid
          | _ => .error .invalid
      | _ => .error .invalid

/-- A zone: a name or a numeric offset, in seconds east of UTC. -/
def zone (cs : List Char) : Step Int :=
  let name := cs.takeWhile isLetter
  if name.isEmpty then numericZone cs
  else
    let rest := cs.drop name.length
    let key := String.ofList (name.map lower)
    let hours : Option Int :=
      if key = "gmt" ∨ key = "ut" ∨ key = "z" then some 0
      else if key = "edt" then some (-4)
      else if key = "est" ∨ key = "cdt" then some (-5)
      else if key = "cst" ∨ key = "mdt" then some (-6)
      else if key = "mst" ∨ key = "pdt" then some (-7)
      else if key = "pst" then some (-8)
      else if key.length = 1 ∧ key ≠ "j" then some 0
      else none
    match hours with
    | some h => .ok (rest, h * 3600)
    | none => .error .invalid

/-- The state of reading a comment: at its start, inside at a depth, or after a backslash. -/
inductive CommentState where
  | start
  | inside (depth : Nat)
  | escaped (depth : Nat)

/-- The rest of a comment. -/
def commentRest : CommentState → List Char → Except ParseError (List Char)
  | _, [] => .error .tooShort
  | .start, c :: rest => if c = '(' then commentRest (.inside 1) rest else .error .invalid
  | .inside d, c :: rest =>
    if c = ')' then (if d ≤ 1 then .ok rest else commentRest (.inside (d - 1)) rest)
    else if c = '\\' then commentRest (.escaped d) rest
    else if c = '(' then commentRest (.inside (d + 1)) rest
    else commentRest (.inside d) rest
  | .escaped d, _ :: rest => commentRest (.inside d) rest

/-- Skip the comments that follow, each after optional blanks. -/
def skipComments : Nat → List Char → List Char
  | 0, cs => cs
  | fuel + 1, cs =>
    match commentRest .start (skipBlank cs) with
    | .ok rest => skipComments fuel rest
    | .error _ => cs

/-- The fields read from the text, before they are checked together. -/
structure Fields where
  weekday : Option Nat
  year : Int
  month : Nat
  day : Nat
  hour : Nat
  minute : Nat
  second : Nat
  offset : Int

/-- A year as written, counted as the grammar says from its number of digits. -/
def fullYear (digits : Nat) (y : Nat) : Int :=
  if digits = 2 ∧ y ≤ 49 then y + 2000
  else if digits = 2 then y + 1900
  else if digits = 3 then y + 1900
  else y

/-- Read the fields of a date. -/
def fields (text : List Char) : Except ParseError Fields := do
  let cs := skipBlank text
  let (cs, weekday) ← match shortName weekdays cs with
    | .ok (rest, w) =>
      match rest with
      | ',' :: rest => pure (rest, some w)
      | _ => throw ParseError.invalid
    | .error _ => pure (cs, none)
  let cs := skipBlank cs
  let (cs, day) ← number cs 1 2
  if day < 1 ∨ day > 31 then throw ParseError.outOfRange
  let cs ← space cs
  let (cs, month0) ← shortName months cs
  let cs ← space cs
  let before := cs.length
  let (cs, y) ← number cs 2 (cs.length + 1)
  let year := fullYear (before - cs.length) y
  if year ≥ Nat.pow 2 31 then throw ParseError.outOfRange
  let cs ← space cs
  let (cs, hour) ← number cs 2 2
  if hour > 23 then throw ParseError.outOfRange
  let cs ← char (skipBlank cs) ':'
  let cs := skipBlank cs
  let (cs, minute) ← number cs 2 2
  if minute > 59 then throw ParseError.outOfRange
  let (cs, second) ← match char (skipBlank cs) ':' with
    | .ok rest => number rest 2 2
    | .error _ => pure (cs, 0)
  if second > 60 then throw ParseError.outOfRange
  let cs ← space cs
  let (cs, offset) ← zone cs
  let cs := skipComments (cs.length + 1) cs
  if !cs.isEmpty then throw ParseError.tooLong
  pure ⟨weekday, year, month0 + 1, day, hour, minute, second, offset⟩

/-- The greatest offset in seconds, exclusive. -/
def offsetLimit : Int := 86400

/-- Check the fields together: a real date, its weekday, the offset, and a UTC time within
the calendar's range. -/
def Fields.toInstant (f : Fields) : Except ParseError Instant := do
  if f.year < minYear ∨ f.year > maxYear ∨ f.day > daysInMonth f.year f.month then
    throw ParseError.outOfRange
  let days := daysFromCivil f.year f.month f.day
  match f.weekday with
  | some w => if w ≠ weekdayOfDays days then throw ParseError.impossible
  | none => pure ()
  if f.offset ≤ -offsetLimit ∨ f.offset ≥ offsetLimit then throw ParseError.outOfRange
  let t : Instant := ⟨f.year, f.month, f.day, f.hour, f.minute, f.second, f.offset⟩
  let lo := daysFromCivil minYear 1 1 * 86400
  let hi := daysFromCivil maxYear 12 31 * 86400 + 86399
  if t.timestamp < lo ∨ t.timestamp > hi then throw ParseError.impossible
  pure t

end Rfc2822

/-- Read an RFC 2822 date, such as `Fri, 14 Oct 2016 15:20:38 +0000`. -/
def parseRfc2822 (text : String) : Except ParseError Instant :=
  Rfc2822.fields text.toList >>= Rfc2822.Fields.toInstant

end GraphWire.Time
