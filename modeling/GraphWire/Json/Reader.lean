import GraphWire.Json.Basic
import GraphWire.Decimal.Binary64

/-! # Reading JSON text

`Json.read` turns text into a `Json` document or a `ReadError`. An error names what was wrong
and where: the line, counted from one, and the column, the number of bytes of that line read
before the error. An error found on looking at the next character counts that character's first
byte as read; a newline read this way starts the next line at column zero.

Numbers follow one rule throughout. The digits build a significand in 64 bits; digits that no
longer fit are dropped, before the point counting as powers of ten. An integer that fits stays
exact (`-0` is the float negative zero). Otherwise the significand becomes the nearest binary64
number, which is then multiplied or divided by the nearest binary64 power of ten, so a long
literal can land one unit away from the nearest float. A value beyond the finite range is an
error, not an infinity. Containers nest at most 127 deep.

`Json.skip` reads a value only to pass over it: it checks the form of the text but builds
nothing, so it has no limit of depth, takes numbers of any size and `\\u` escapes of any four
hexadecimal digits. -/

namespace GraphWire.Json

/-- What the reader found wrong. -/
inductive ReadCode where
  | eofList
  | eofObject
  | eofString
  | eofValue
  | expectedColon
  | expectedListCommaOrEnd
  | expectedObjectCommaOrEnd
  | expectedIdent
  | expectedValue
  | invalidEscape
  | invalidNumber
  | numberOutOfRange
  | controlCharacter
  | keyMustBeString
  | loneLeadingSurrogate
  | trailingComma
  | trailingCharacters
  | unexpectedEndOfHexEscape
  | recursionLimit
deriving DecidableEq, Repr

/-- The wording of each code. -/
def ReadCode.text : ReadCode → String
  | .eofList => "EOF while parsing a list"
  | .eofObject => "EOF while parsing an object"
  | .eofString => "EOF while parsing a string"
  | .eofValue => "EOF while parsing a value"
  | .expectedColon => "expected `:`"
  | .expectedListCommaOrEnd => "expected `,` or `]`"
  | .expectedObjectCommaOrEnd => "expected `,` or `\x7d`"
  | .expectedIdent => "expected ident"
  | .expectedValue => "expected value"
  | .invalidEscape => "invalid escape"
  | .invalidNumber => "invalid number"
  | .numberOutOfRange => "number out of range"
  | .controlCharacter => "control character (\\u0000-\\u001F) found while parsing a string"
  | .keyMustBeString => "key must be a string"
  | .loneLeadingSurrogate => "lone leading surrogate in hex escape"
  | .trailingComma => "trailing comma"
  | .trailingCharacters => "trailing characters"
  | .unexpectedEndOfHexEscape => "unexpected end of hex escape"
  | .recursionLimit => "recursion limit exceeded"

/-- A reading error and where it happened. -/
structure ReadError where
  code : ReadCode
  line : Nat
  column : Nat
deriving DecidableEq, Repr

/-- The error as one line of text. -/
def ReadError.message (e : ReadError) : String :=
  e.code.text ++ " at line " ++ toString e.line ++ " column " ++ toString e.column

/-- A place in the text: what is left of it, and the line and byte column reached. -/
structure Scan where
  rest : List Char
  line : Nat
  column : Nat

namespace Scan

/-- The start of a text. -/
def start (s : String) : Scan := ⟨s.toList, 1, 0⟩

/-- The next character. -/
def peek (s : Scan) : Option Char := s.rest.head?

/-- The place after one more character. -/
def bump (s : Scan) : Scan :=
  match s.rest with
  | [] => s
  | c :: r => if c = '\n' then ⟨r, s.line + 1, 0⟩ else ⟨r, s.line, s.column + c.utf8Size⟩

/-- The place after the given characters, which begin what is left. -/
def advance (s : Scan) (cs : List Char) : Scan :=
  let (line, column) := cs.foldl
    (fun (lc : Nat × Nat) c => if c = '\n' then (lc.1 + 1, 0) else (lc.1, lc.2 + c.utf8Size))
    (s.line, s.column)
  ⟨s.rest.drop cs.length, line, column⟩

/-- The place after the next `n` bytes; a character cut by the end counts its bytes before it. -/
def advanceBytes (s : Scan) (n : Nat) : Scan :=
  let step := fun (acc : Nat × Nat × Nat) (c : Char) =>
    let (used, line, column) := acc
    if used ≥ n then acc
    else if c = '\n' then (used + 1, line + 1, 0)
    else (used + c.utf8Size, line, column + min c.utf8Size (n - used))
  let (_, line, column) := s.rest.foldl step (0, s.line, s.column)
  ⟨[], line, column⟩

/-- An error at the place reached. -/
def here (s : Scan) (code : ReadCode) : ReadError := ⟨code, s.line, s.column⟩

/-- An error that counts the first byte of the next character as read. -/
def ahead (s : Scan) (code : ReadCode) : ReadError :=
  match s.rest with
  | [] => ⟨code, s.line, s.column⟩
  | c :: _ => if c = '\n' then ⟨code, s.line + 1, 0⟩ else ⟨code, s.line, s.column + 1⟩

/-- Whether a character is blank between JSON tokens. -/
def isGap (c : Char) : Bool := c = ' ' || c = '\n' || c = '\t' || c = '\r'

/-- The place after the blanks that follow. -/
def skipGap (s : Scan) : Scan := s.advance (s.rest.takeWhile isGap)

end Scan

/-- The largest significand: `2^64 - 1`. -/
def maxSignificand : Nat := Nat.pow 2 64 - 1

/-- The largest exponent literal: `2^31 - 1`. -/
def maxExponent : Nat := Nat.pow 2 31 - 1

/-- The value of a decimal digit. -/
def digitValue (c : Char) : Nat := c.toNat - '0'.toNat

/-- Add digits to a significand while it stays within 64 bits: the significand reached and how
many digits were taken. -/
def accumulate (bound : Nat) : List Char → Nat → Nat × Nat
  | [], sig => (sig, 0)
  | c :: r, sig =>
    let v := sig * 10 + digitValue c
    if v > bound then (sig, 0)
    else
      let (s', n) := accumulate bound r v
      (s', n + 1)

/-- `f / 10^k`, dividing by `10^308` while `k` is larger and the quotient is not zero. -/
def divideTen (f : Float) (k : Nat) : Float :=
  if h : k ≤ 308 then f / Binary64.pow10 k
  else if f == 0 then f
  else divideTen (f / Binary64.pow10 308) (k - 308)
termination_by k
decreasing_by omega

/-- `significand · 10^exponent` as binary64, or `none` beyond the finite range. -/
def scaleTen (significand : Nat) (exponent : Int) : Option Float :=
  let f := Binary64.ofNat significand
  if exponent ≥ 0 then
    if exponent ≤ 308 then
      let r := f * Binary64.pow10 exponent.toNat
      if r.isInf then none else some r
    else if f == 0 then some f else none
  else some (divideTen f (-exponent).toNat)

/-- A float from a sign, a significand and a decimal exponent, read up to `s`. -/
def floatAt (positive : Bool) (sig : Nat) (exp : Int) (s : Scan) :
    Except ReadError (Number × Scan) :=
  match scaleTen sig exp with
  | some f => .ok (.float (if positive then f else -f), s)
  | none => .error (s.here .numberOutOfRange)

/-- The exponent part, from the `e`. -/
def readExponent (positive : Bool) (sig : Nat) (start : Int) (s : Scan) :
    Except ReadError (Number × Scan) :=
  let s := s.bump
  let (positiveExp, s) := match s.peek with
    | some '+' => (true, s.bump)
    | some '-' => (false, s.bump)
    | _ => (true, s)
  match s.peek with
  | none => .error (s.here .eofValue)
  | some c =>
    if !c.isDigit then .error (s.ahead .invalidNumber)
    else
      let s := s.bump
      let run := s.rest.takeWhile Char.isDigit
      let (exp, taken) := accumulate maxExponent run (digitValue c)
      if taken < run.length then
        -- the exponent overflowed at digit `taken`
        let s' := s.advance (run.take (taken + 1))
        if sig != 0 && positiveExp then .error (s'.here .numberOutOfRange)
        else .ok (.float (if positive then 0.0 else -0.0), s.advance run)
      else
        let s := s.advance run
        floatAt positive sig (if positiveExp then start + exp else start - exp) s

/-- After the significand's digits: an exponent, or the end of the number. -/
def finishFloat (positive : Bool) (sig : Nat) (exp : Int) (s : Scan) :
    Except ReadError (Number × Scan) :=
  match s.peek with
  | some 'e' | some 'E' => readExponent positive sig exp s
  | _ => floatAt positive sig exp s

/-- The fraction part, from the point. -/
def readFraction (positive : Bool) (sig : Nat) (before : Int) (s : Scan) :
    Except ReadError (Number × Scan) :=
  let s := s.bump
  let run := s.rest.takeWhile Char.isDigit
  if run.isEmpty then
    match s.peek with
    | some _ => .error (s.ahead .invalidNumber)
    | none => .error (s.ahead .eofValue)
  else
    let (sig', taken) := accumulate maxSignificand run sig
    finishFloat positive sig' (before - taken) (s.advance run)

/-- After the integer digits: a fraction, an exponent, or an integer. -/
def finishInteger (positive : Bool) (sig : Nat) (s : Scan) : Except ReadError (Number × Scan) :=
  match s.peek with
  | some '.' => readFraction positive sig 0 s
  | some 'e' | some 'E' => readExponent positive sig 0 s
  | _ =>
    if positive then .ok (.int sig, s)
    else if sig == 0 then .ok (.float (-0.0), s)
    else if sig ≤ Nat.pow 2 63 then .ok (.int (-(sig : Int)), s)
    else .ok (.float (-(Binary64.ofNat sig)), s)

/-- A number, from its first digit (after a minus sign). -/
def readNumber (positive : Bool) (s : Scan) : Except ReadError (Number × Scan) :=
  match s.peek with
  | none => .error (s.here .eofValue)
  | some c =>
    if !c.isDigit then .error (s.ahead .invalidNumber)
    else if c = '0' then
      let s := s.bump
      match s.peek with
      | some d => if d.isDigit then .error (s.ahead .invalidNumber) else finishInteger positive 0 s
      | none => finishInteger positive 0 s
    else
      let s := s.bump
      let run := s.rest.takeWhile Char.isDigit
      let (sig, taken) := accumulate maxSignificand run (digitValue c)
      let s := s.advance run
      if taken < run.length then
        -- digits beyond 64 bits count as powers of ten
        let dropped : Int := run.length - taken
        match s.peek with
        | some '.' => readFraction positive sig dropped s
        | some 'e' | some 'E' => readExponent positive sig dropped s
        | _ => floatAt positive sig dropped s
      else finishInteger positive sig s

/-- The value of a hexadecimal digit. -/
def hexValue (c : Char) : Option Nat :=
  if '0' ≤ c ∧ c ≤ '9' then some (c.toNat - '0'.toNat)
  else if 'a' ≤ c ∧ c ≤ 'f' then some (c.toNat - 'a'.toNat + 10)
  else if 'A' ≤ c ∧ c ≤ 'F' then some (c.toNat - 'A'.toNat + 10)
  else none

/-- The four hexadecimal digits of a `\u` escape. -/
def readHex4 (s : Scan) : Except ReadError (Nat × Scan) :=
  let bytes := s.rest.foldl (fun n c => n + c.utf8Size) 0
  if bytes < 4 then .error ((s.advance s.rest).here .eofString)
  else
    match s.rest with
    | a :: b :: c :: d :: _ =>
      match hexValue a, hexValue b, hexValue c, hexValue d with
      | some va, some vb, some vc, some vd =>
        .ok (((va * 16 + vb) * 16 + vc) * 16 + vd, s.advance [a, b, c, d])
      | _, _, _, _ => .error ((s.advanceBytes 4).here .invalidEscape)
    | _ => .error ((s.advanceBytes 4).here .invalidEscape)

/-- The character of a `\u` escape, a surrogate pair taken together. -/
def readUnicode (s : Scan) : Except ReadError (Char × Scan) := do
  let (n, s) ← readHex4 s
  if 0xDC00 ≤ n ∧ n ≤ 0xDFFF then throw (s.here .loneLeadingSurrogate)
  else if n < 0xD800 ∨ n > 0xDBFF then pure (Char.ofNat n, s)
  else
    let s ← match s.peek with
      | none => throw (s.here .eofString)
      | some '\\' => pure s.bump
      | some _ => throw (s.ahead .unexpectedEndOfHexEscape)
    let s ← match s.peek with
      | none => throw (s.here .eofString)
      | some 'u' => pure s.bump
      | some _ => throw (s.ahead .unexpectedEndOfHexEscape)
    let (n2, s) ← readHex4 s
    if n2 < 0xDC00 ∨ n2 > 0xDFFF then throw (s.here .loneLeadingSurrogate)
    else pure (Char.ofNat (((n - 0xD800) * 0x400 + (n2 - 0xDC00)) + 0x10000), s)

/-- The rest of a string after its opening quote; `acc` holds what was read, reversed. -/
def readChars : Nat → Scan → List Char → Except ReadError (String × Scan)
  | 0, s, _ => .error (s.here .eofString)
  | fuel + 1, s, acc =>
    match s.peek with
    | none => .error (s.here .eofString)
    | some c =>
      if c = '"' then .ok (String.ofList acc.reverse, s.bump)
      else if c = '\\' then
        let s := s.bump
        match s.peek with
        | none => .error (s.here .eofString)
        | some e =>
          let s' := s.bump
          let simple : Option Char := match e with
            | '"' => some '"' | '\\' => some '\\' | '/' => some '/'
            | 'b' => some (Char.ofNat 8) | 'f' => some (Char.ofNat 12)
            | 'n' => some '\n' | 'r' => some '\r' | 't' => some '\t'
            | _ => none
          match simple with
          | some ch => readChars fuel s' (ch :: acc)
          | none =>
            if e = 'u' then
              match readUnicode s' with
              | .ok (ch, s'') => readChars fuel s'' (ch :: acc)
              | .error err => .error err
            else .error (s.ahead .invalidEscape)
      else if c.toNat < 0x20 then .error (s.ahead .controlCharacter)
      else readChars fuel s.bump (c :: acc)

/-- A string after its opening quote. -/
def readString (s : Scan) : Except ReadError (String × Scan) :=
  readChars (s.rest.length + 1) s []

/-- The rest of a keyword after its first letter. -/
def readWord (word : List Char) (s : Scan) : Except ReadError Scan :=
  word.foldlM (fun s w =>
    match s.peek with
    | none => .error (s.here .eofValue)
    | some c => if c = w then .ok s.bump else .error (s.ahead .expectedIdent)) s

mutual

/-- A value; `depth` containers may still open. -/
def readValue : Nat → Nat → Scan → Except ReadError (Json × Scan)
  | 0, _, s => .error (s.here .eofValue)
  | fuel + 1, depth, s =>
    let s := s.skipGap
    match s.peek with
    | none => .error (s.ahead .eofValue)
    | some 'n' => (readWord ['u', 'l', 'l'] s.bump).map (fun s => (.null, s))
    | some 't' => (readWord ['r', 'u', 'e'] s.bump).map (fun s => (.bool true, s))
    | some 'f' => (readWord ['a', 'l', 's', 'e'] s.bump).map (fun s => (.bool false, s))
    | some '-' => (readNumber false s.bump).map (fun (n, s) => (.number n, s))
    | some '"' => (readString s.bump).map (fun (t, s) => (.string t, s))
    | some '[' =>
      if depth ≤ 1 then .error (s.ahead .recursionLimit)
      else readItems fuel (depth - 1) s.bump [] true
    | some '{' =>
      if depth ≤ 1 then .error (s.ahead .recursionLimit)
      else readMembers fuel (depth - 1) s.bump [] true
    | some c =>
      if c.isDigit then (readNumber true s).map (fun (n, s) => (.number n, s))
      else .error (s.ahead .expectedValue)

/-- The items of an array after its opening bracket; `acc` holds those read, reversed. -/
def readItems : Nat → Nat → Scan → List Json → Bool → Except ReadError (Json × Scan)
  | 0, _, s, _, _ => .error (s.here .eofList)
  | fuel + 1, depth, s, acc, first =>
    let s := s.skipGap
    match s.peek with
    | none => .error (s.ahead .eofList)
    | some ']' => .ok (.array acc.reverse, s.bump)
    | some c =>
      if first then
        match readValue fuel depth s with
        | .ok (v, s) => readItems fuel depth s (v :: acc) false
        | .error e => .error e
      else if c = ',' then
        let s := s.bump.skipGap
        match s.peek with
        | some ']' => .error (s.ahead .trailingComma)
        | none => .error (s.ahead .eofValue)
        | some _ =>
          match readValue fuel depth s with
          | .ok (v, s) => readItems fuel depth s (v :: acc) false
          | .error e => .error e
      else .error (s.ahead .expectedListCommaOrEnd)

/-- The members of an object after its opening brace; `acc` holds those read. -/
def readMembers : Nat → Nat → Scan → List (String × Json) → Bool →
    Except ReadError (Json × Scan)
  | 0, _, s, _, _ => .error (s.here .eofObject)
  | fuel + 1, depth, s, acc, first =>
    let s := s.skipGap
    match s.peek with
    | none => .error (s.ahead .eofObject)
    | some '}' => .ok (.object acc, s.bump)
    | some c =>
      let atKey : Except ReadError Scan :=
        if first then .ok s
        else if c = ',' then .ok s.bump.skipGap
        else .error (s.ahead .expectedObjectCommaOrEnd)
      match atKey with
      | .error e => .error e
      | .ok s =>
        match s.peek with
        | some '"' =>
          match readString s.bump with
          | .error e => .error e
          | .ok (k, s) =>
            let s := s.skipGap
            match s.peek with
            | none => .error (s.ahead .eofObject)
            | some ':' =>
              match readValue fuel depth s.bump with
              | .ok (v, s) => readMembers fuel depth s (insertField k v acc) false
              | .error e => .error e
            | some _ => .error (s.ahead .expectedColon)
        | some '}' => .error (s.ahead .trailingComma)
        | some _ => .error (s.ahead .keyMustBeString)
        | none => .error (s.ahead .eofValue)

end

/-- The rest of a string after its opening quote, read and dropped: an escape is checked only
for its form, so a `\\u` escape takes any four hexadecimal digits. -/
def skipChars : Nat → Scan → Except ReadError Scan
  | 0, s => .error (s.here .eofString)
  | fuel + 1, s =>
    match s.peek with
    | none => .error (s.here .eofString)
    | some '"' => .ok s.bump
    | some '\\' =>
      let s := s.bump
      match s.peek with
      | none => .error (s.here .eofString)
      | some e =>
        if e = 'u' then
          match readHex4 s.bump with
          | .ok (_, t) => skipChars fuel t
          | .error err => .error err
        else if ['"', '\\', '/', 'b', 'f', 'n', 'r', 't'].contains e then skipChars fuel s.bump
        else .error (s.ahead .invalidEscape)
    | some c => if c.toNat < 0x20 then .error (s.here .controlCharacter) else skipChars fuel s.bump

/-- The digits that follow. -/
def skipDigits (s : Scan) : Scan := s.advance (s.rest.takeWhile Char.isDigit)

/-- Whether a digit follows. -/
def digitNext (s : Scan) : Bool := (s.peek.map Char.isDigit).getD false

/-- An exponent after its `e`: a sign, then at least one digit. -/
def skipExponent (s : Scan) : Except ReadError Scan :=
  let s := match s.peek with
    | some '+' | some '-' => s.bump
    | _ => s
  if digitNext s then .ok (skipDigits s.bump) else .error (s.ahead .invalidNumber)

/-- What may follow the integer part of a number: a fraction of at least one digit, then an
exponent. -/
def skipNumberTail (s : Scan) : Except ReadError Scan :=
  match s.peek with
  | some '.' =>
    let t := s.bump
    if digitNext t then
      let t := skipDigits t
      match t.peek with
      | some 'e' | some 'E' => skipExponent t.bump
      | _ => .ok t
    else .error (t.ahead .invalidNumber)
  | some 'e' | some 'E' => skipExponent s.bump
  | _ => .ok s

/-- A number from its first digit (after a minus sign), read and dropped: its form is checked,
not its size. -/
def skipNumber (s : Scan) : Except ReadError Scan :=
  match s.peek with
  | some '0' =>
    let t := s.bump
    if digitNext t then .error (t.ahead .invalidNumber) else skipNumberTail t
  | some c => if c.isDigit then skipNumberTail (skipDigits s.bump) else .error (s.ahead .invalidNumber)
  | none => .error (s.here .invalidNumber)

/-- A key and its colon, read and dropped. -/
def skipKey (s : Scan) : Except ReadError Scan := do
  let s := s.skipGap
  let s ← match s.peek with
    | some '"' => skipChars (s.rest.length + 1) s.bump
    | some _ => throw (s.ahead .keyMustBeString)
    | none => throw (s.ahead .eofObject)
  let s := s.skipGap
  match s.peek with
  | some ':' => pure s.bump
  | some _ => throw (s.ahead .expectedColon)
  | none => throw (s.ahead .eofObject)

/-- Values read and dropped, to any depth. `frames` holds the brackets of the open containers,
the innermost first. With `value` set a value comes next; otherwise the innermost container
goes on, and `comma` tells whether an item was read in it, so that a comma may come. -/
def skipNested : Nat → Bool → Bool → List Char → Scan → Except ReadError Scan
  | 0, _, _, _, s => .error (s.here .eofValue)
  | fuel + 1, true, _, frames, s =>
    let s := s.skipGap
    let scalar := fun (r : Except ReadError Scan) =>
      match r with
      | .error e => .error e
      | .ok t => if frames.isEmpty then .ok t else skipNested fuel false true frames t
    match s.peek with
    | none => .error (s.ahead .eofValue)
    | some 'n' => scalar (readWord ['u', 'l', 'l'] s.bump)
    | some 't' => scalar (readWord ['r', 'u', 'e'] s.bump)
    | some 'f' => scalar (readWord ['a', 'l', 's', 'e'] s.bump)
    | some '-' => scalar (skipNumber s.bump)
    | some '"' => scalar (skipChars (s.rest.length + 1) s.bump)
    | some '[' => skipNested fuel false false ('[' :: frames) s.bump
    | some '{' => skipNested fuel false false ('{' :: frames) s.bump
    | some c => if c.isDigit then scalar (skipNumber s) else .error (s.ahead .expectedValue)
  | fuel + 1, false, comma, frames, s =>
    match frames with
    | [] => .ok s
    | f :: outer =>
      let s := s.skipGap
      let isArray := f = '['
      let item := fun (t : Scan) =>
        if isArray then skipNested fuel true false frames t
        else
          match skipKey t with
          | .ok t => skipNested fuel true false frames t
          | .error e => .error e
      match s.peek with
      | none => .error (s.ahead (if isArray then .eofList else .eofObject))
      | some c =>
        if c = ',' ∧ comma then item s.bump
        else if (c = ']' ∧ isArray) ∨ (c = '}' ∧ ¬isArray) then
          if outer.isEmpty then .ok s.bump else skipNested fuel false true outer s.bump
        else if comma then
          .error (s.ahead (if isArray then .expectedListCommaOrEnd else .expectedObjectCommaOrEnd))
        else item s

/-- A value read and dropped: containers nest to any depth, strings are checked only for the
form of their escapes and numbers only for their form. -/
def skip (s : Scan) : Except ReadError Scan :=
  skipNested (3 * s.rest.length + 3) true false [] s

/-- Read a whole text as one JSON document; only blanks may follow it. -/
def read (text : String) : Except ReadError Json := do
  let s := Scan.start text
  let (v, s) ← readValue (3 * s.rest.length + 8) 128 s
  let s := s.skipGap
  match s.peek with
  | some _ => throw (s.ahead .trailingCharacters)
  | none => pure v

end GraphWire.Json
