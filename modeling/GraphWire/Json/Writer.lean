import GraphWire.Json.Basic
import GraphWire.Decimal.Layout

/-! # Writing JSON text

Two layouts of a document: `compact`, with no blank at all, and `pretty`, one member per line
indented by two spaces per level, with `": "` after a key. Empty arrays and objects stay on one
line. In a string, the quote, the backslash and the control characters are escaped (the short
forms where JSON has one, else `\u00XX` in lowercase hex); every other character is written as
it is. A float follows a layout, `Decimal.Layout.json` unless another is given; a non-finite
float is written `null`. -/

namespace GraphWire

namespace Json

/-- A hexadecimal digit, lowercase. -/
def hexDigit (n : Nat) : Char :=
  if n < 10 then Char.ofNat ('0'.toNat + n) else Char.ofNat ('a'.toNat + n - 10)

/-- One character of a string's content. -/
def escapeChar (c : Char) : String :=
  if c = '"' then "\\\""
  else if c = '\\' then "\\\\"
  else if c = '\n' then "\\n"
  else if c = '\r' then "\\r"
  else if c = '\t' then "\\t"
  else if c.toNat = 8 then "\\b"
  else if c.toNat = 12 then "\\f"
  else if c.toNat < 0x20 then
    String.ofList ['\\', 'u', '0', '0', hexDigit (c.toNat / 16), hexDigit (c.toNat % 16)]
  else String.singleton c

/-- A string in quotes, escaped. -/
def quote (s : String) : String :=
  "\"" ++ String.join (s.toList.map escapeChar) ++ "\""

end Json

/-- The text of a number, its float laid out by `l`. -/
def Number.textIn (l : Decimal.Layout) : Number → String
  | .int i => toString i
  | .float f => if f.isFinite then l.render f else "null"

/-- The text of a number. -/
def Number.text : Number → String := Number.textIn Decimal.Layout.json

namespace Json

mutual

/-- A document with no blanks. -/
def compact : Json → String
  | .null => "null"
  | .bool b => if b then "true" else "false"
  | .number n => n.text
  | .string s => quote s
  | .array items => "[" ++ compactItems items ++ "]"
  | .object fs => "\x7b" ++ compactFields fs ++ "\x7d"

/-- Array items, comma separated. -/
def compactItems : List Json → String
  | [] => ""
  | [x] => compact x
  | x :: rest => compact x ++ "," ++ compactItems rest

/-- Object members, comma separated. -/
def compactFields : List (String × Json) → String
  | [] => ""
  | [(k, v)] => quote k ++ ":" ++ compact v
  | (k, v) :: rest => quote k ++ ":" ++ compact v ++ "," ++ compactFields rest

end

/-- The indentation of a level. -/
def indent (level : Nat) : String := String.ofList (List.replicate (2 * level) ' ')

mutual

/-- A document one member per line, at an indentation level, its floats laid out by `l`. -/
def prettyAt (l : Decimal.Layout) (level : Nat) : Json → String
  | .null => "null"
  | .bool b => if b then "true" else "false"
  | .number n => n.textIn l
  | .string s => quote s
  | .array [] => "[]"
  | .array items => "[\n" ++ prettyItems l (level + 1) items ++ "\n" ++ indent level ++ "]"
  | .object [] => "\x7b\x7d"
  | .object fs => "\x7b\n" ++ prettyFields l (level + 1) fs ++ "\n" ++ indent level ++ "\x7d"

/-- Array items, one per line. -/
def prettyItems (l : Decimal.Layout) (level : Nat) : List Json → String
  | [] => ""
  | [x] => indent level ++ prettyAt l level x
  | x :: rest => indent level ++ prettyAt l level x ++ ",\n" ++ prettyItems l level rest

/-- Object members, one per line. -/
def prettyFields (l : Decimal.Layout) (level : Nat) : List (String × Json) → String
  | [] => ""
  | [(k, v)] => indent level ++ quote k ++ ": " ++ prettyAt l level v
  | (k, v) :: rest =>
    indent level ++ quote k ++ ": " ++ prettyAt l level v ++ ",\n" ++ prettyFields l level rest

end

/-- A document one member per line, two spaces per level, its floats laid out by `l`. -/
def prettyIn (l : Decimal.Layout) (j : Json) : String := prettyAt l 0 j

/-- A document one member per line, two spaces per level. -/
def pretty (j : Json) : String := prettyIn Decimal.Layout.json j

end Json

end GraphWire
