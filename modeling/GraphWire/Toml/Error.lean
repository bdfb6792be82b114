/-! # TOML errors and their report

A TOML reading error holds its message, the byte range of the text it is about, and the text.
`Toml.Error.report` shows the line of the range with carets under it:

```
TOML parse error at line 1, column 12
  |
1 | base_url = 5
  |            ^
invalid type: integer `5`, expected a string
```

The column counts characters from the start of the line, one-based; the carets cover the range,
at least one and at most to the end of the line.

A fault found while reading names what was wrong and, for most faults, what was expected
instead: `unclosed table, expected ]`, with literal texts in backticks and the line end as
`newline`; an empty list of expectations reads `expected nothing`. -/

namespace GraphWire.Toml

/-- A byte range of a text: start and end. -/
abbrev Span := Nat × Nat

/-- What a reading fault says was expected instead. -/
inductive Expected where
  /-- A text to write as it stands, shown in backticks. -/
  | literal (s : String)
  /-- A kind of thing, shown in words. -/
  | description (s : String)
deriving DecidableEq, Repr

/-- How an expectation is shown. -/
def Expected.text : Expected → String
  | .literal s => if s = "\n" then "newline" else "`" ++ s ++ "`"
  | .description s => s

/-- A reading fault: its message and the byte range it is about, if it is about one. -/
structure Fault where
  message : String
  span : Option Span
deriving DecidableEq, Repr

/-- A fault from its description, what was expected (nothing said for `none`) and its range. -/
def Fault.make (description : String) (expected : Option (List Expected)) (span : Span) :
    Fault :=
  ⟨description ++ (match expected with
    | none => ""
    | some [] => ", expected nothing"
    | some es => ", expected " ++ ", ".intercalate (es.map Expected.text)), some span⟩

/-- A fault at one place: its range is empty. -/
def Fault.at (description : String) (expected : Option (List Expected)) (pos : Nat) : Fault :=
  Fault.make description expected (pos, pos)

/-- A TOML reading error: message, the byte range it is about, and the whole text. -/
structure Error where
  message : String
  span : Option (Nat × Nat)
  source : String
deriving Repr

/-- The line (zero-based) and column of a byte offset of a text; the column counts
characters, or bytes when the offset falls on a character of several bytes. -/
def position (bytes : List UInt8) (index : Nat) : Nat × Nat :=
  if bytes.isEmpty then (0, index)
  else
    let safe := min index (bytes.length - 1)
    let extra := index - safe
    let before := bytes.take safe
    let lineStart := match (before.reverse.idxOf? 10) with
      | some k => safe - k
      | none => 0
    let line := (bytes.take lineStart).count 10
    let seg := (bytes.drop lineStart).take (safe + 1 - lineStart)
    let lastIsAscii := match bytes[safe]? with
      | some b => decide (b < 0x80)
      | none => true
    let column :=
      if lastIsAscii then (seg.filter (fun b => b < 0x80 || b ≥ 0xC0)).length - 1
      else safe - lineStart
    (line, column + extra)

/-- The error as a report: position, the line with carets under the range, and the message,
each line ending in a newline. -/
def Error.report (e : Error) : String :=
  match e.span with
  | none => e.message ++ "\n"
  | some (start, stop) =>
    let bytes := e.source.toUTF8.toList
    let (line, column) := position bytes start
    let lineNum := line + 1
    let gutter := (toString lineNum).length
    let content := ((e.source.splitOn "\n")[line]?).getD ""
    let width := min (stop - start) (content.utf8ByteSize - column)
    let pad := fun (n : Nat) => String.ofList (List.replicate n ' ')
    "TOML parse error at line " ++ toString lineNum ++ ", column " ++ toString (column + 1) ++
      "\n" ++ pad (gutter + 1) ++ "|\n" ++ toString lineNum ++ " | " ++ content ++ "\n" ++
      pad (gutter + 1) ++ "|" ++ pad (column + 1) ++ "^" ++
      String.ofList (List.replicate (width - 1) '^') ++ "\n" ++ e.message ++ "\n"

end GraphWire.Toml
