import GraphWire.Toml.Syntax
import GraphWire.Toml.Value
import GraphWire.Toml.Datetime
import GraphWire.Decimal.Binary64

/-!
# Decoding TOML keys and scalars

The third phase of reading TOML, for the leaves of the document: the text of a key or a scalar
becomes a name or a value, or a fault pointing into the text.

* Strings: basic strings take the escapes `\b \t \n \f \r \e \" \\`, `\xHH`, `\uHHHH` and
  `\UHHHHHHHH` (a code point, not a surrogate); literal strings take none. A multi-line string
  drops a line end right after its opening quotes, and in a multi-line basic string a backslash
  before blanks and line ends drops them. Control characters other than tab must be escaped.
* Bare keys are letters, digits, `-` and `_`, and not empty; multi-line strings are no keys.
* Bare scalars are read by their first character: a sign, `0`, a digit or `_` start numbers and
  date-times, `.` a float, `t`/`f` booleans, `i`/`n` infinity and not-a-number. A number may have
  single `_` between digits, no leading zero, and a radix prefix `0x`, `0o`, `0b` (lower case,
  unsigned; `0d` is redundant). A float needs digits before and after its point and in its
  exponent. Anything else, or text with a blank in it that is no date-time, must be quoted
  (`string values must be quoted`).
* An integer text that passes these checks may still stand for no number (`0x`, `1_2z`), and a
  float may be too large for binary64; the value records that, and taking it as a number fails.

Where a text has several faults, the first one checked is reported: for a number, its sign and
radix, then its digits, then its underscores.
-/

namespace GraphWire.Toml

/-- What a key fault says was expected. -/
def keyExpected : List Expected :=
  [.description "letters", .description "numbers", .literal "-", .literal "_"]

/-- The escapes a basic string accepts, as a fault lists them. -/
def escapeExpected : List Expected :=
  ["b", "e", "f", "n", "r", "\\", "\"", "x", "u", "U"].map .literal

/-- Whether a character may stand unescaped in a one-line basic string. -/
def isBasicChar (c : Char) : Bool :=
  c = ' ' || c = '\t' || c = '!' || (0x23 ≤ c.toNat && c.toNat ≤ 0x5B) ||
    (0x5D ≤ c.toNat && c.toNat ≤ 0x7E) || c.toNat ≥ 0x80

/-- Whether a character may stand in a one-line literal string. -/
def isLiteralChar (c : Char) : Bool :=
  c = '\t' || (0x20 ≤ c.toNat && c.toNat ≤ 0x26) || (0x28 ≤ c.toNat && c.toNat ≤ 0x7E) ||
    c.toNat ≥ 0x80

/-- Whether a character may stand in a bare key. -/
def isBareKeyChar (c : Char) : Bool :=
  ('a' ≤ c && c ≤ 'z') || ('A' ≤ c && c ≤ 'Z') || ('0' ≤ c && c ≤ '9') || c == '_' || c == '-'

/-- Whether a character is a hexadecimal digit. -/
def isHexDigit (c : Char) : Bool :=
  c.isDigit || ('a' ≤ c && c ≤ 'f') || ('A' ≤ c && c ≤ 'F')

/-- The value of a hexadecimal digit. -/
def hexDigitValue (c : Char) : Nat :=
  if c.isDigit then c.toNat - '0'.toNat
  else if 'a' ≤ c && c ≤ 'f' then c.toNat - 'a'.toNat + 10
  else c.toNat - 'A'.toNat + 10

/-- The number some digits stand for in a base. -/
def digitsIn (base : Nat) (ds : List Char) : Nat :=
  ds.foldl (fun n c => n * base + hexDigitValue c) 0

/-- A decoding step inside a string: the character read, the byte offset after it and the
characters left. -/
abbrev CharStep := Except Fault (Char × Nat × List Char)

/-- The character of a hexadecimal escape of `n` digits starting at byte `pos`. -/
def hexEscape (n pos : Nat) (cs : List Char) : CharStep :=
  let ds := (cs.take n).takeWhile isHexDigit
  if ds.length < n then
    .error (Fault.at "too few unicode value digits"
      (some [.description "unicode hexadecimal value"]) (pos + ds.length))
  else
    let v := digitsIn 16 ds
    if (0xD800 ≤ v ∧ v ≤ 0xDFFF) ∨ v > 0x10FFFF then
      .error (Fault.at "invalid value" (some [.description "unicode hexadecimal value"]) pos)
    else .ok (Char.ofNat v, pos + n, cs.drop n)

/-- The character of an escape whose letter starts at byte `pos`. -/
def escapeAt (pos : Nat) : List Char → CharStep
  | [] => .error (Fault.at "missing escaped value" (some escapeExpected) pos)
  | e :: rest =>
    let simple : Option Char :=
      if e = 'b' then some '\x08' else if e = 't' then some '\t' else if e = 'n' then some '\n'
      else if e = 'f' then some '\x0c' else if e = 'r' then some '\r'
      else if e = 'e' then some '\x1b' else if e = '"' then some '"'
      else if e = '\\' then some '\\' else none
    match simple with
    | some c => .ok (c, pos + 1, rest)
    | none =>
      if e = 'x' then hexEscape 2 (pos + 1) rest
      else if e = 'u' then hexEscape 4 (pos + 1) rest
      else if e = 'U' then hexEscape 8 (pos + 1) rest
      else .error (Fault.at "missing escaped value" (some escapeExpected) pos)

/-- Whether the characters start with one that may stand in a multi-line basic string: a
one-line one, a quote, a line feed, or a carriage return before a line feed. -/
def mlBasicOk : List Char → Bool
  | '\r' :: '\n' :: _ => true
  | c :: _ => isBasicChar c || c = '"' || c = '\n'
  | [] => false

/-- The fault of a carriage return that no line feed follows; `pos` is the byte offset after it,
where the line feed should be. -/
def bareCarriageReturn (pos : Nat) : Fault :=
  Fault.at "carriage return must be followed by newline" (some [.literal "\n"]) pos

/-- The length in bytes of the blanks and line ends at the start of some characters, which a
line-ending backslash drops; a carriage return counts only before a line feed. -/
def gapLength : List Char → Nat
  | ' ' :: rest => 1 + gapLength rest
  | '\t' :: rest => 1 + gapLength rest
  | '\n' :: rest => 1 + gapLength rest
  | '\r' :: '\n' :: rest => 2 + gapLength rest
  | _ => 0

/-- What a fault of a character in a basic string says was expected. -/
def basicExpected (multiline : Bool) : List Expected :=
  if multiline then [.literal "\\", .description "characters"]
  else [.description "non-double-quote visible characters", .literal "\\"]

/-- Decode the body of a basic string starting at byte `pos`; `multiline` allows quotes, line
ends and line-ending backslashes, and `kind` names the string in faults. A line-ending backslash
may be followed by blanks, then must be followed by a line end; it drops all blanks and line
ends up to the next other character. `acc` holds what was decoded, reversed. -/
def basicBody (multiline : Bool) (kind : String) : Nat → Nat → List Char → List Char →
    Except Fault String
  | 0, _, _, acc => .ok (String.ofList acc.reverse)
  | _, _, [], acc => .ok (String.ofList acc.reverse)
  | fuel + 1, pos, c :: rest, acc =>
    if c = '\\' then
      if multiline && (rest.head?.map fun d => d = ' ' || d = '\t' || d = '\r' || d = '\n').getD false then
        let blanks := rest.takeWhile (fun d => d = ' ' || d = '\t')
        let afterBlanks := rest.drop blanks.length
        let mark := pos + 1 + blanks.length
        match afterBlanks with
        | '\n' :: _ | '\r' :: '\n' :: _ =>
          let gap := gapLength afterBlanks
          basicBody multiline kind fuel (mark + gap) (afterBlanks.drop gap) acc
        | '\r' :: _ => .error (bareCarriageReturn (mark + 1))
        | _ => .error (Fault.at ("invalid " ++ kind) (some [.literal "\n"]) mark)
      else
        match escapeAt (pos + 1) rest with
        | .ok (ch, p, r) => basicBody multiline kind fuel p r (ch :: acc)
        | .error e => .error e
    else if multiline && c = '\r' && rest.head? ≠ some '\n' then .error (bareCarriageReturn (pos + 1))
    else if (if multiline then mlBasicOk (c :: rest) else isBasicChar c) then
      basicBody multiline kind fuel (pos + c.utf8Size) rest (c :: acc)
    else
      let bad := fun (d : Char) => d ≠ '\\' && !(if multiline then isBasicChar d || d = '"' || d = '\n'
        else isBasicChar d)
      let run := c :: rest.takeWhile bad
      .error (Fault.make ("invalid " ++ kind) (some (basicExpected multiline))
        (pos, pos + byteCount run))

/-- Check the body of a literal string starting at byte `pos`, `kind` naming it: the fault of
its first character that may not stand in it, or of a carriage return with no line feed after
it in a multi-line one. -/
def literalFault (multiline : Bool) (kind : String) : Nat → List Char → Option Fault
  | _, [] => none
  | pos, c :: rest =>
    if multiline && c = '\r' then
      if rest.head? = some '\n' then literalFault multiline kind (pos + 1) rest
      else some (bareCarriageReturn (pos + 1))
    else if isLiteralChar c || (multiline && (c = '\'' || c = '\n')) then
      literalFault multiline kind (pos + c.utf8Size) rest
    else some (Fault.at ("invalid " ++ kind)
      (some [.description (if multiline then "non-single-quote characters"
        else "non-single-quote visible characters")]) pos)

/-- The characters after a line end at their start, if there is one, and its length. -/
def dropLineEnd : List Char → List Char × Nat
  | '\n' :: rest => (rest, 1)
  | '\r' :: '\n' :: rest => (rest, 2)
  | cs => (cs, 0)

/-- Whether some characters end with others. -/
def endsWith (cs suffix : List Char) : Bool :=
  suffix.length ≤ cs.length && cs.drop (cs.length - suffix.length) == suffix

/-- The body of a string written between delimiters `quote`, with a line end after the opening
ones dropped if `multiline`: its byte offset and its characters, or the fault of a missing
closing delimiter. -/
def stringBody (w : Written) (quote : List Char) (multiline : Bool) (kind : String)
    (closing : String) : Except Fault (Nat × List Char) :=
  let afterOpen := w.chars.drop quote.length
  let (body, skipped) := if multiline then dropLineEnd afterOpen else (afterOpen, 0)
  if endsWith body quote then
    .ok (w.start + quote.length + skipped, body.take (body.length - quote.length))
  else
    .error (Fault.at ("invalid " ++ kind) (some [.literal closing]) w.span.2)

/-- Decode a string of one of the four kinds. -/
def Written.string (w : Written) : Except Fault String :=
  match w.form with
  | .basic => do
    let (pos, body) ← stringBody w ['"'] false "basic string" "\""
    basicBody false "basic string" (body.length + 1) pos body []
  | .mlBasic => do
    let (pos, body) ← stringBody w ['"', '"', '"'] true "multi-line basic string" "\""
    basicBody true "multi-line basic string" (body.length + 1) pos body []
  | .literal => do
    let (pos, body) ← stringBody w ['\''] false "literal string" "'"
    match literalFault false "literal string" pos body with
    | some f => throw f
    | none => pure (String.ofList body)
  | .mlLiteral => do
    let (pos, body) ← stringBody w ['\'', '\'', '\''] true "multi-line literal string" "'"
    match literalFault true "multi-line literal string" pos body with
    | some f => throw f
    | none => pure (String.ofList body)
  | .bare => .ok (String.ofList w.chars)

/-- The first run of characters of a bare key that may not stand in it: its byte offset and
size. -/
def badKeyChar : Nat → List Char → Option (Nat × Nat)
  | _, [] => none
  | pos, c :: rest => if isBareKeyChar c then badKeyChar (pos + c.utf8Size) rest
    else some (pos, byteCount (c :: rest.takeWhile (fun d => !isBareKeyChar d)))

/-- Decode a key. -/
def Written.key (w : Written) : Except Fault String :=
  match w.form with
  | .bare =>
    if w.chars.isEmpty then
      .error (Fault.make "unquoted keys cannot be empty" (some keyExpected) w.span)
    else
      match badKeyChar w.start w.chars with
      | some (pos, size) =>
        .error (Fault.make "invalid unquoted key" (some keyExpected) (pos, pos + size))
      | none => .ok (String.ofList w.chars)
  | .mlBasic =>
    .error (Fault.make "keys cannot be multi-line basic strings"
      (some [.description "basic string", .description "literal string"]) w.span)
  | .mlLiteral =>
    .error (Fault.make "keys cannot be multi-line literal strings"
      (some [.description "basic string", .description "literal string"]) w.span)
  | _ => w.string

/-! ### Bare scalars -/

/-- The fault of a bare text that is no value: a string missing its opening quote, or text that
must be quoted. -/
def Written.unquoted (w : Written) : Fault :=
  let cs := w.chars
  if endsWith cs ['\'', '\'', '\''] then Fault.at "missing opening quote" (some [.literal "'''"]) w.start
  else if endsWith cs ['"', '"', '"'] then
    Fault.at "missing opening quote" (some [.literal "\"\"\""]) w.start
  else if endsWith cs ['\''] then Fault.at "missing opening quote" (some [.literal "'"]) w.start
  else if endsWith cs ['"'] then Fault.at "missing opening quote" (some [.literal "\""]) w.start
  else Fault.make "string values must be quoted" (some [.description "literal string"]) w.span

/-- The byte offset of the character at an index of a written scalar. -/
def Written.offset (w : Written) (i : Nat) : Nat := w.start + byteCount (w.chars.take i)

/-- A fault of a number: no expectations, over a range of character indices. -/
def Written.numberFault (w : Written) (description : String) (i j : Nat) : Fault :=
  Fault.make description (some []) (w.offset i, w.offset j)

/-- The radixes of integers. -/
inductive Radix where
  | binary
  | octal
  | decimal
  | hexadecimal
deriving DecidableEq, Repr

/-- The base of a radix. -/
def Radix.base : Radix → Nat
  | .binary => 2
  | .octal => 8
  | .decimal => 10
  | .hexadecimal => 16

/-- Whether a character is a digit of a radix. -/
def Radix.isDigit (r : Radix) (c : Char) : Bool :=
  isHexDigit c && hexDigitValue c < r.base

/-- How a fault names a number of a radix that has a wrong digit. -/
def Radix.invalid : Radix → String
  | .binary => "invalid binary number"
  | .octal => "invalid octal number"
  | .decimal => "invalid decimal number"
  | .hexadecimal => "invalid hexadecimal number"

/-- The number of digits at the start of some characters, underscores passed over, and how many
characters that run takes. -/
def digitRun (cs : List Char) : Nat × Nat :=
  let run := cs.takeWhile (fun c => c.isDigit || c = '_')
  ((run.filter Char.isDigit).length, run.length)

/-- Check a number without a leading zero, from character index `i`. -/
def Written.noLeadingZero (w : Written) (i : Nat) : Except Fault Unit :=
  if (w.chars.drop i).head? = some '0' then .error (w.numberFault "unexpected leading zero" i (i + 1))
  else .ok ()

/-- Check the form of a float from character index `i`: a mantissa of digits without a
leading zero, then a fraction of digits, then an exponent of digits with an optional sign. -/
def Written.floatForm (w : Written) (i : Nat) : Except Fault Unit := do
  let cs := w.chars.drop i
  let digitsFault := fun (description : String) (k : Nat) =>
    Fault.at description (some [.description "digits"]) (w.offset k)
  let (count, taken) := digitRun cs
  if count = 0 then throw (digitsFault "invalid mantissa" i)
  if count ≥ 2 && cs.head? = some '0' then throw (w.numberFault "unexpected leading zero" i (i + 1))
  let k := i + taken
  let k ← match (w.chars.drop k).head? with
    | some '.' =>
      let (count, taken) := digitRun (w.chars.drop (k + 1))
      if count = 0 then throw (digitsFault "invalid fraction" (k + 1)) else pure (k + 1 + taken)
    | _ => pure k
  let k ← match (w.chars.drop k).head? with
    | some 'e' | some 'E' =>
      let k := if (w.chars.drop (k + 1)).head? = some '+' || (w.chars.drop (k + 1)).head? = some '-'
        then k + 2 else k + 1
      let (count, taken) := digitRun (w.chars.drop k)
      if count = 0 then throw (digitsFault "invalid exponent" k) else pure (k + taken)
    | _ => pure k
  if k < w.chars.length then
    throw (Fault.make "invalid float" (some []) (w.offset k, w.span.2))

/-- Check the digits of an integer with a radix prefix, from character index `i`. -/
def Written.radixDigits (w : Written) (r : Radix) (i : Nat) : Except Fault Unit := do
  let cs := w.chars.drop i
  let i ← match cs.head? with
    | some '+' | some '-' =>
      let pos := (w.chars.findIdx? (fun c => c = '+' || c = '-')).getD i
      throw (w.numberFault "unexpected sign" pos (pos + 1))
    | _ => pure i
  match ((w.chars.drop i).zipIdx i).find? (fun (c, _) => !r.isDigit c && c ≠ '_') with
  | some (_, j) => throw (Fault.at r.invalid none (w.offset j))
  | none => pure ()

/-- The parts of characters between underscores, each with the character index it starts at;
`part` holds the characters of the part being read, reversed, which starts at `start`. -/
def underscoreParts (start : Nat) (part : List Char) : List Char → List (Nat × List Char)
  | [] => [(start, part.reverse)]
  | c :: rest =>
    if c = '_' then (start, part.reverse) :: underscoreParts (start + part.length + 1) [] rest
    else underscoreParts start (c :: part) rest

/-- Check the underscores of a number whose digits start at character index `i`, digits told
by `isDigit`, and give its text from there without them. An underscore must stand between two
digits; the first one that does not is the fault. -/
def Written.underscores (w : Written) (isDigit : Char → Bool) (i : Nat) :
    Except Fault (List Char) := do
  let cs := w.chars.drop i
  if cs.contains '_' then
    if cs.head? = some '_' then throw (w.numberFault "`_` may only go between digits" i (i + 1))
    for (ps, part) in underscoreParts i [] cs do
      if ps > i && !((part.head?.map isDigit).getD false) then
        throw (w.numberFault "`_` may only go between digits" (ps - 1) ps)
      let pe := ps + part.length
      if part.length > 1 && pe < w.chars.length && !((part.getLast?.map isDigit).getD false) then
        throw (w.numberFault "`_` may only go between digits" pe (pe + 1))
  return cs.filter (· ≠ '_')

/-- The sign and the digits after it of a number text. -/
def splitSign : List Char → Bool × List Char
  | '-' :: ds => (true, ds)
  | '+' :: ds => (false, ds)
  | ds => (false, ds)

/-- The integer that a sign and decimal digits stand for, if they are one: at least one digit
and nothing else. -/
def decimalOf (cs : List Char) : Option Int :=
  let (negative, ds) := splitSign cs
  if ds.isEmpty || !ds.all Char.isDigit then none
  else
    let n : Int := digitsIn 10 ds
    some (if negative then -n else n)

/-- The float that a sign, digits, a fraction and an exponent stand for, correctly rounded, or
`none` when it is too large for binary64. -/
def floatOf (cs : List Char) : Option Float :=
  let (negative, body) := splitSign cs
  let whole := body.takeWhile Char.isDigit
  let afterWhole := body.drop whole.length
  let (fraction, afterFraction) := match afterWhole with
    | '.' :: r => (r.takeWhile Char.isDigit, r.dropWhile Char.isDigit)
    | r => ([], r)
  let exponent : Int := match afterFraction with
    | _ :: r => (decimalOf r).getD 0
    | [] => 0
  let f := Binary64.ofDecimal (digitsIn 10 (whole ++ fraction)) (exponent - fraction.length)
  if f.isInf then none else some (if negative then -f else f)

/-- Infinity. -/
def infinity : Float := 1.0 / 0.0

/-- Not a number. -/
def notANumber : Float := 0.0 / 0.0

/-- An integer written in decimal, its digits from character index `i` after its sign. An
underscore is checked against hexadecimal digits around it: a letter digit passes the check and
leaves a text that stands for no number. -/
def Written.decimalInteger (w : Written) (i : Nat) : Except Fault Value := do
  let text ← w.underscores Radix.hexadecimal.isDigit i
  return .integer (decimalOf (w.chars.take i ++ text))

/-- A float, its digits from character index `i` after its sign. -/
def Written.floatValue (w : Written) (i : Nat) : Except Fault Value := do
  let text ← w.underscores Char.isDigit i
  return .float (floatOf (w.chars.take i ++ text))

/-- Whether a scalar is read as a date-time: digits and then `-` or `:`, with no sign before
them. Only such a scalar may hold a blank. -/
def Written.isStampLike (w : Written) : Bool :=
  let digits := w.chars.takeWhile Char.isDigit
  !digits.isEmpty && (match w.chars.drop digits.length with
    | '-' :: _ | ':' :: _ => true
    | _ => false)

/-- A number or date-time whose digits start at character index `i`: digits then `-` or `:`
make a date-time, a point or an exponent a float, and digits with underscores an integer. -/
def Written.numberOrStamp (w : Written) (i : Nat) : Except Fault Value := do
  let value := w.chars.drop i
  let digits := value.takeWhile Char.isDigit
  let rest := value.drop digits.length
  match rest with
  | [] => do w.noLeadingZero i; w.decimalInteger i
  | c :: _ =>
    if c = '-' || c = ':' then
      match checkStamp w.chars with
      | .ok () => return .datetime (String.ofList w.chars)
      | .error f => throw (Fault.make f.message none w.span)
    else if rest.contains ' ' then throw w.unquoted
    else if rest.contains '.' || rest.contains 'e' || rest.contains 'E' then do
      w.floatForm i
      w.floatValue i
    else if c = '_' then do w.noLeadingZero i; w.decimalInteger i
    else throw w.unquoted

/-- The radix a character after a leading `0` names, with its lower-case letter. -/
def radixOf (p : Char) : Option (Radix × Char) :=
  if p = 'x' || p = 'X' then some (.hexadecimal, 'x')
  else if p = 'o' || p = 'O' then some (.octal, 'o')
  else if p = 'b' || p = 'B' then some (.binary, 'b')
  else if p = 'd' || p = 'D' then some (.decimal, 'd')
  else none

/-- A number starting with `0` at character index `i`; `signed` tells that a sign precedes it.
A radix prefix may not follow a sign, must be lower case, and `0d` is redundant. -/
def Written.zeroPrefixed (w : Written) (i : Nat) (signed : Bool) : Except Fault Value := do
  let value := w.chars.drop i
  match value with
  | [_] => w.decimalInteger i
  | _ :: p :: _ =>
    match radixOf p with
    | some (r, lower) =>
      if signed then throw (w.numberFault "integers with a radix cannot be signed" 0 1)
      if r = .decimal then throw (w.numberFault "redundant integer number prefix" i (i + 2))
      if p ≠ lower then
        throw (Fault.make "radix must be lowercase" (some [.literal (String.ofList ['0', lower])])
          (w.offset i, w.offset (i + 2)))
      w.radixDigits r (i + 2)
      let text ← w.underscores r.isDigit (i + 2)
      return .integer (if text.isEmpty then none else some (digitsIn r.base text))
    | none => w.numberOrStamp i
  | [] => throw w.unquoted

/-- A word that must be exactly `word`, from character index `i`, or a fault over it. -/
def Written.word (w : Written) (i : Nat) (word kind : String) (v : Value) : Except Fault Value :=
  if String.ofList (w.chars.drop i) = word then .ok v
  else .error (Fault.make ("invalid " ++ kind) (some [.literal word]) (w.offset i, w.span.2))

/-- A bare scalar. -/
def Written.bareScalar (w : Written) : Except Fault Value :=
  if w.chars.contains ' ' && !w.isStampLike then .error w.unquoted
  else
  match w.chars with
  | [] => .error w.unquoted
  | c :: rest =>
    if c = '+' || c = '-' then
      let negative := c = '-'
      match rest with
      | [] => .error w.unquoted
      | d :: _ =>
        if d = '+' || d = '-' then .error (w.numberFault "redundant numeric sign" 1 2)
        else if d = '_' || ('1' ≤ d && d ≤ '9') then w.numberOrStamp 1
        else if d = '0' then w.zeroPrefixed 1 true
        else if d = '.' then do w.floatForm 0; w.floatValue 1
        else if d = 'i' || d = 'I' then
          w.word 1 "inf" "float" (.float (some (if negative then -infinity else infinity)))
        else if d = 'n' || d = 'N' then w.word 1 "nan" "float" (.float (some notANumber))
        else .error w.unquoted
    else if c = '_' || ('1' ≤ c && c ≤ '9') then w.numberOrStamp 0
    else if c = '0' then w.zeroPrefixed 0 false
    else if c = '.' then do w.floatForm 0; w.floatValue 0
    else if c = 't' || c = 'T' then w.word 0 "true" "boolean" (.boolean true)
    else if c = 'f' || c = 'F' then w.word 0 "false" "boolean" (.boolean false)
    else if c = 'i' || c = 'I' then w.word 0 "inf" "float" (.float (some infinity))
    else if c = 'n' || c = 'N' then w.word 0 "nan" "float" (.float (some notANumber))
    else .error w.unquoted

/-- Decode a scalar. -/
def Written.scalar (w : Written) : Except Fault Value :=
  match w.form with
  | .bare => w.bareScalar
  | _ => w.string.map .string

end GraphWire.Toml
