/-!
# Boxed tables

A table of a header and rows of text cells, drawn in box-drawing characters:

```
┌──────┬─────┐
│ name ┆ age │
╞══════╪═════╡
│ Ada  ┆ 36  │
├╌╌╌╌╌╌┼╌╌╌╌╌┤
│ Alan ┆     │
└──────┴─────┘
```

A cell may span several lines, one per line of its text; a row is as tall as its tallest cell,
and its shorter cells are filled with blank lines. A column is as wide as the widest line in
it, header included, and every cell line is left-aligned with one space on each side. A row
shorter than the header is filled with empty cells. The line under the header is drawn even
when there are no rows; lines between rows are dashed. Widths count columns on a terminal:
wide characters count two, combining marks and control characters none.
-/

namespace GraphWire.Cli

/-- Whether a code point is drawn two columns wide: the wide East Asian scripts, their
punctuation and forms, and the pictographs. -/
def isWide (n : Nat) : Bool :=
  (0x1100 ≤ n && n ≤ 0x115F) || (0x231A ≤ n && n ≤ 0x231B) || (0x2329 ≤ n && n ≤ 0x232A) ||
  (0x23E9 ≤ n && n ≤ 0x23EC) || n == 0x23F0 || n == 0x23F3 || (0x25FD ≤ n && n ≤ 0x25FE) ||
  (0x2614 ≤ n && n ≤ 0x2615) || (0x2648 ≤ n && n ≤ 0x2653) || n == 0x267F || n == 0x2693 ||
  n == 0x26A1 || (0x26AA ≤ n && n ≤ 0x26AB) || (0x26BD ≤ n && n ≤ 0x26BE) ||
  (0x26C4 ≤ n && n ≤ 0x26C5) || n == 0x26CE || n == 0x26D4 || n == 0x26EA ||
  (0x26F2 ≤ n && n ≤ 0x26F3) || n == 0x26F5 || n == 0x26FA || n == 0x26FD || n == 0x2705 ||
  (0x270A ≤ n && n ≤ 0x270B) || n == 0x2728 || n == 0x274C || n == 0x274E ||
  (0x2753 ≤ n && n ≤ 0x2755) || n == 0x2757 || (0x2795 ≤ n && n ≤ 0x2797) || n == 0x27B0 ||
  n == 0x27BF || (0x2B1B ≤ n && n ≤ 0x2B1C) || n == 0x2B50 || n == 0x2B55 ||
  (0x2E80 ≤ n && n ≤ 0x303E) || (0x3041 ≤ n && n ≤ 0x33FF) || (0x3400 ≤ n && n ≤ 0x4DBF) ||
  (0x4E00 ≤ n && n ≤ 0x9FFF) || (0xA000 ≤ n && n ≤ 0xA4CF) || (0xA960 ≤ n && n ≤ 0xA97F) ||
  (0xAC00 ≤ n && n ≤ 0xD7A3) || (0xF900 ≤ n && n ≤ 0xFAFF) || (0xFE10 ≤ n && n ≤ 0xFE19) ||
  (0xFE30 ≤ n && n ≤ 0xFE6F) || (0xFF00 ≤ n && n ≤ 0xFF60) || (0xFFE0 ≤ n && n ≤ 0xFFE6) ||
  (0x16FE0 ≤ n && n ≤ 0x16FE4) || (0x17000 ≤ n && n ≤ 0x18CFF) ||
  (0x1B000 ≤ n && n ≤ 0x1B2FF) || n == 0x1F004 || n == 0x1F0CF || n == 0x1F18E ||
  (0x1F191 ≤ n && n ≤ 0x1F19A) || (0x1F200 ≤ n && n ≤ 0x1F251) ||
  (0x1F300 ≤ n && n ≤ 0x1F320) || (0x1F32D ≤ n && n ≤ 0x1F335) ||
  (0x1F337 ≤ n && n ≤ 0x1F37C) || (0x1F37E ≤ n && n ≤ 0x1F393) ||
  (0x1F3A0 ≤ n && n ≤ 0x1F3CA) || (0x1F3CF ≤ n && n ≤ 0x1F3D3) ||
  (0x1F3E0 ≤ n && n ≤ 0x1F3F0) || n == 0x1F3F4 || (0x1F3F8 ≤ n && n ≤ 0x1F43E) ||
  n == 0x1F440 || (0x1F442 ≤ n && n ≤ 0x1F4FC) || (0x1F4FF ≤ n && n ≤ 0x1F53D) ||
  (0x1F54B ≤ n && n ≤ 0x1F54E) || (0x1F550 ≤ n && n ≤ 0x1F567) || n == 0x1F57A ||
  (0x1F595 ≤ n && n ≤ 0x1F596) || n == 0x1F5A4 || (0x1F5FB ≤ n && n ≤ 0x1F64F) ||
  (0x1F680 ≤ n && n ≤ 0x1F6C5) || n == 0x1F6CC || (0x1F6D0 ≤ n && n ≤ 0x1F6D2) ||
  (0x1F6D5 ≤ n && n ≤ 0x1F6D7) || (0x1F6DC ≤ n && n ≤ 0x1F6DF) ||
  (0x1F6EB ≤ n && n ≤ 0x1F6EC) || (0x1F6F4 ≤ n && n ≤ 0x1F6FC) ||
  (0x1F7E0 ≤ n && n ≤ 0x1F7EB) || n == 0x1F7F0 || (0x1F90C ≤ n && n ≤ 0x1F93A) ||
  (0x1F93C ≤ n && n ≤ 0x1F945) || (0x1F947 ≤ n && n ≤ 0x1F9FF) ||
  (0x1FA70 ≤ n && n ≤ 0x1FAFF) || (0x20000 ≤ n && n ≤ 0x2FFFD) || (0x30000 ≤ n && n ≤ 0x3FFFD)

/-- Whether a code point takes no column: control characters, combining marks, joiners and
variation selectors. -/
def isZeroWidth (n : Nat) : Bool :=
  n < 0x20 || (0x7F ≤ n && n ≤ 0x9F) || n == 0xAD || (0x300 ≤ n && n ≤ 0x36F) ||
  (0x483 ≤ n && n ≤ 0x489) || (0x591 ≤ n && n ≤ 0x5BD) || (0x610 ≤ n && n ≤ 0x61A) ||
  (0x64B ≤ n && n ≤ 0x65F) || (0x1AB0 ≤ n && n ≤ 0x1AFF) || (0x1DC0 ≤ n && n ≤ 0x1DFF) ||
  (0x200B ≤ n && n ≤ 0x200F) || (0x2028 ≤ n && n ≤ 0x202E) || (0x2060 ≤ n && n ≤ 0x2064) ||
  (0x20D0 ≤ n && n ≤ 0x20FF) || (0xFE00 ≤ n && n ≤ 0xFE0F) || (0xFE20 ≤ n && n ≤ 0xFE2F) ||
  n == 0xFEFF || (0x1160 ≤ n && n ≤ 0x11FF) || (0xE0100 ≤ n && n ≤ 0xE01EF)

/-- The columns a character takes on a terminal. -/
def charWidth (c : Char) : Nat :=
  if isZeroWidth c.toNat then 0 else if isWide c.toNat then 2 else 1

/-- The columns a text takes on a terminal. -/
def textWidth (s : String) : Nat := s.toList.foldl (fun w c => w + charWidth c) 0

/-- A table: its header and its rows, each a list of cell texts. -/
structure Table where
  header : List String
  rows : List (List String)
deriving DecidableEq, Repr

namespace Table

/-- The lines of a cell's text. -/
def cellLines (s : String) : List String := s.splitOn "\n"

/-- The rows, each filled with empty cells up to the header's length. -/
def filledRows (t : Table) : List (List String) :=
  t.rows.map fun r => r ++ List.replicate (t.header.length - r.length) ""

/-- The widest line of a cell. -/
def cellWidth (s : String) : Nat := ((cellLines s).map textWidth).foldl max 0

/-- The width of each column: its widest cell line, header included. -/
def widths (t : Table) : List Nat :=
  (t.header :: t.filledRows).foldl
    (fun ws r => (ws.zip (r.map cellWidth ++ List.replicate (ws.length - r.length) 0)).map
      fun (a, b) => max a b)
    (t.header.map fun _ => 0)

/-- A rule across the table: its left end, a run of `fill` over each column with its padding,
`cross` between columns, and its right end. -/
def rule (ws : List Nat) (left fill cross right : Char) : String :=
  String.singleton left ++
    String.intercalate (String.singleton cross)
      (ws.map fun w => String.ofList (List.replicate (w + 2) fill)) ++
    String.singleton right

/-- The lines of one row: as many as its tallest cell, each cell line padded to its column. -/
def rowLines (ws : List Nat) (r : List String) : List String :=
  let cells := r.map cellLines
  let height := (cells.map List.length).foldl max 1
  (List.range height).map fun i =>
    "│" ++ String.intercalate "┆" ((ws.zip cells).map fun (w, ls) =>
      let l := ls.getD i ""
      " " ++ l ++ String.ofList (List.replicate (w - textWidth l) ' ') ++ " ") ++ "│"

/-- The rows of a table, dashed rules between them. -/
def bodyLines (ws : List Nat) : List (List String) → List String
  | [] => []
  | [r] => rowLines ws r
  | r :: rest => rowLines ws r ++ [rule ws '├' '╌' '┼' '┤'] ++ bodyLines ws rest

/-- The table drawn, its lines joined by line ends, with no line end after the last. -/
def render (t : Table) : String :=
  let ws := t.widths
  "\n".intercalate
    ([rule ws '┌' '─' '┬' '┐'] ++ rowLines ws t.header ++ [rule ws '╞' '═' '╪' '╡'] ++
      bodyLines ws t.filledRows ++ [rule ws '└' '─' '┴' '┘'])

end Table

end GraphWire.Cli
