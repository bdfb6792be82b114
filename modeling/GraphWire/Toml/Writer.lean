/-!
# Writing TOML

A document of pairs at its root and in tables, one pair per line, each table after a blank line
under its header.

A string is written in the first of these forms that needs no escape:

* a basic string `"…"`, when it has no quote, backslash, control character or line end;
* a literal string `'…'`, when it has no apostrophe, control character or line end;
* a multi-line basic string, when it has no backslash or control character and no run of three
  quotes;
* a multi-line literal string, when it has no control character and no run of three apostrophes;

and otherwise as a basic string (multi-line if it has a line end) with escapes: `\b`, `\t`,
`\f`, `\r`, `\\`, `\"`, `\n` outside multi-line strings, and `\uXXXX` for the other control
characters. A tab does not count as a control character when the form is chosen, so it stands
as it is in a literal string, while a basic string writes it as `\t`. A multi-line string with
a line end starts on a new line.
-/

namespace GraphWire.Toml

/-- What a string holds that its form must allow for. -/
structure StringTraits where
  apostrophes : Nat
  quotes : Nat
  controls : Bool
  backslash : Bool
  newline : Bool

/-- The longest run of a character. -/
def longestRun (c : Char) (cs : List Char) : Nat :=
  (cs.foldl (fun (acc : Nat × Nat) d =>
    if d = c then (max acc.1 (acc.2 + 1), acc.2 + 1) else (acc.1, 0)) (0, 0)).1

/-- Whether a character must be escaped in any string: a control character other than tab and
line feed. -/
def isControl (c : Char) : Bool := (c.toNat ≤ 0x1f && c != '\n' && c != '\t') || c.toNat = 0x7f

/-- The traits of a string. -/
def StringTraits.of (s : String) : StringTraits :=
  let cs := s.toList
  ⟨longestRun '\'' cs, longestRun '"' cs, cs.any isControl, cs.contains '\\', cs.contains '\n'⟩

/-- Four uppercase hexadecimal digits. -/
def hex4 (n : Nat) : String :=
  let digit := fun (d : Nat) => if d < 10 then Char.ofNat (48 + d) else Char.ofNat (55 + d)
  String.ofList ((List.range 4).reverse.map fun i => digit (n / Nat.pow 16 i % 16))

/-- The content of a basic string, escaped; `multiline` leaves line ends and up to two quotes in
a row as they are. -/
def escapeBasic (multiline : Bool) (cs : List Char) : String :=
  let step := fun (acc : String × Nat) (c : Char) =>
    let (out, run) := acc
    let run := if c = '"' then run + 1 else 0
    if c = '"' then
      if run > (if multiline then 2 else 0) then (out ++ "\\\"", 0) else (out.push c, run)
    else if c.toNat = 8 then (out ++ "\\b", run)
    else if c = '\t' then (out ++ "\\t", run)
    else if c.toNat = 12 then (out ++ "\\f", run)
    else if c = '\n' then (if multiline then (out.push c, run) else (out ++ "\\n", run))
    else if c = '\r' then (out ++ "\\r", run)
    else if c = '\\' then (out ++ "\\\\", run)
    else if isControl c then (out ++ "\\u" ++ hex4 c.toNat, run)
    else (out.push c, run)
  (cs.foldl step ("", 0)).1

/-- A string as TOML writes it. -/
def quoteString (s : String) : String :=
  let t := StringTraits.of s
  let lead := if t.newline then "\n" else ""
  if !t.controls && !t.backslash && t.quotes = 0 && !t.newline then
    "\"" ++ escapeBasic false s.toList ++ "\""
  else if !t.controls && t.apostrophes = 0 && !t.newline then "'" ++ s ++ "'"
  else if !t.controls && !t.backslash && t.quotes ≤ 2 then
    "\"\"\"" ++ lead ++ escapeBasic true s.toList ++ "\"\"\""
  else if !t.controls && t.apostrophes ≤ 2 then "'''" ++ lead ++ s ++ "'''"
  else if t.newline then "\"\"\"" ++ lead ++ escapeBasic true s.toList ++ "\"\"\""
  else "\"" ++ escapeBasic false s.toList ++ "\""

/-- A value written on a line: a string, an integer or a boolean. -/
inductive Scalar where
  | string (s : String)
  | integer (i : Int)
  | boolean (b : Bool)
deriving DecidableEq, Repr

/-- The text of a value. -/
def Scalar.text : Scalar → String
  | .string s => quoteString s
  | .integer i => toString i
  | .boolean b => if b then "true" else "false"

/-- Whether a key can be written bare. -/
def isBareKey (k : String) : Bool :=
  !k.isEmpty && k.toList.all fun c =>
    ('a' ≤ c && c ≤ 'z') || ('A' ≤ c && c ≤ 'Z') || ('0' ≤ c && c ≤ '9') || c == '_' || c == '-'

/-- A key as TOML writes it. -/
def keyText (k : String) : String := if isBareKey k then k else quoteString k

/-- Pairs, one per line. -/
def pairLines (pairs : List (String × Scalar)) : String :=
  String.join (pairs.map fun (k, v) => keyText k ++ " = " ++ v.text ++ "\n")

/-- A document: pairs at its root, then tables of pairs. -/
def render (root : List (String × Scalar)) (tables : List (String × List (String × Scalar))) :
    String :=
  tables.foldl (fun out (name, pairs) =>
    out ++ (if out.isEmpty then "" else "\n") ++ "[" ++ keyText name ++ "]\n" ++ pairLines pairs)
    (pairLines root)

end GraphWire.Toml
