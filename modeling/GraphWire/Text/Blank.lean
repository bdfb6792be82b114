/-! # Blank characters

The characters with the Unicode property White_Space, and trimming them from either end of a
text. Core's `Char.isWhitespace` knows the ASCII blanks only, so the class is written out here. -/

namespace GraphWire.Text

/-- The Unicode White_Space property: tab to carriage return, space, next line, no-break
space, ogham space mark, the spaces from en quad to hair space, the line and paragraph
separators, narrow no-break space, medium mathematical space and ideographic space. -/
def isBlank (c : Char) : Bool :=
  let n := c.toNat
  (0x09 ≤ n && n ≤ 0x0D) || n == 0x20 || n == 0x85 || n == 0xA0 || n == 0x1680 ||
  (0x2000 ≤ n && n ≤ 0x200A) || n == 0x2028 || n == 0x2029 || n == 0x202F ||
  n == 0x205F || n == 0x3000

/-- The text without blank characters at its start. -/
def trimStart (s : String) : String := String.ofList (s.toList.dropWhile isBlank)

/-- The text without blank characters at its end. -/
def trimEnd (s : String) : String :=
  String.ofList ((s.toList.reverse.dropWhile isBlank).reverse)

/-- The text without blank characters at either end. -/
def trim (s : String) : String := trimEnd (trimStart s)

/-- The text without every copy of a character at its end. -/
def dropTrailing (c : Char) (s : String) : String :=
  String.ofList ((s.toList.reverse.dropWhile (· == c)).reverse)

/-- Whether a text holds blank characters only. -/
def isBlankText (s : String) : Bool := s.toList.all isBlank

end GraphWire.Text
