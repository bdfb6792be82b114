/-!
# Tokens of TOML text

The first phase of reading TOML: the text is cut into tokens, each at least one character long,
so that the tokens laid end to end give back the text, less a byte order mark at its start.
Cutting never fails; a string left open runs to the end of its line (a one-line string) or of
the text (a multi-line one), and what is wrong with it is found when its value is decoded.

* Punctuation: `.`, `=`, `,`, `[`, `]`, `{`, `}`, one character each.
* Blanks: a run of spaces and tabs. A comment: `#` up to a carriage return or line feed. A line
  end: a line feed, or a carriage return with the line feed after it if there is one.
* Strings: `'…'` and `"…"` end at their closing quote, or before a line feed; in a basic string
  a backslash takes a following backslash or quote with it. `'''…'''` and `"""…"""` end at
  their closing quotes, which take up to two more quotes with them.
* Anything else is an atom: a run of characters up to punctuation, a blank, `#` or a line end.
  Quotes inside an atom belong to it.
-/

namespace GraphWire.Toml

/-- The kinds of tokens. -/
inductive TokenKind where
  | dot
  | equals
  | comma
  | openBracket
  | closeBracket
  | openBrace
  | closeBrace
  | blank
  | comment
  | newline
  | literal
  | basic
  | mlLiteral
  | mlBasic
  | atom
deriving DecidableEq, Repr

/-- The number of bytes of some characters in UTF-8. -/
def byteCount (cs : List Char) : Nat := cs.foldl (fun n c => n + c.utf8Size) 0

/-- A token: its kind, the byte offset it starts at, and its characters. -/
structure Token where
  kind : TokenKind
  start : Nat
  chars : List Char
deriving Repr

/-- The byte offset just after a token. -/
def Token.stop (t : Token) : Nat := t.start + byteCount t.chars

/-- Whether a character ends an atom. -/
def isAtomEnd (c : Char) : Bool :=
  c = '.' || c = '=' || c = ',' || c = '[' || c = ']' || c = '{' || c = '}' || c = ' ' ||
    c = '\t' || c = '#' || c = '\r' || c = '\n'

/-- The length of a one-line literal string after its opening quote: up to and including the
closing quote, or up to a line feed or the end. -/
def literalTail : List Char → Nat
  | [] => 0
  | c :: rest => if c = '\'' then 1 else if c = '\n' then 0 else 1 + literalTail rest

/-- The length of a one-line basic string after its opening quote; a backslash takes a
following backslash or quote with it. -/
def basicTail : List Char → Nat
  | [] => 0
  | c :: rest =>
    if c = '"' then 1
    else if c = '\n' then 0
    else if c = '\\' then
      match rest with
      | d :: more => if d = '\\' || d = '"' then 2 + basicTail more else 1 + basicTail (d :: more)
      | [] => 1
    else 1 + basicTail rest

/-- The quotes of a kind that directly follow closing quotes, two at most. -/
def extraQuotes (q : Char) : List Char → Nat
  | a :: b :: _ => if a = q then (if b = q then 2 else 1) else 0
  | [a] => if a = q then 1 else 0
  | [] => 0

/-- The length of a multi-line basic string after its opening quotes: up to and including its
closing quotes and the quotes right after them, or to the end. -/
def mlBasicTail : List Char → Nat
  | [] => 0
  | c :: rest =>
    if c = '"' then
      if rest.take 2 = ['"', '"'] then 3 + extraQuotes '"' (rest.drop 2)
      else 1 + mlBasicTail rest
    else if c = '\\' then
      match rest with
      | d :: more => if d = '\\' || d = '"' then 2 + mlBasicTail more else 1 + mlBasicTail (d :: more)
      | [] => 1
    else 1 + mlBasicTail rest

/-- The length of a multi-line literal string after its opening quotes. -/
def mlLiteralTail : List Char → Nat
  | [] => 0
  | c :: rest =>
    if c = '\'' then
      if rest.take 2 = ['\'', '\''] then 3 + extraQuotes '\'' (rest.drop 2)
      else 1 + mlLiteralTail rest
    else 1 + mlLiteralTail rest

/-- The kind and the length in characters of the token at the start of some text. -/
def nextToken : List Char → TokenKind × Nat
  | [] => (.atom, 0)
  | c :: rest =>
    if c = '.' then (.dot, 1)
    else if c = '=' then (.equals, 1)
    else if c = ',' then (.comma, 1)
    else if c = '[' then (.openBracket, 1)
    else if c = ']' then (.closeBracket, 1)
    else if c = '{' then (.openBrace, 1)
    else if c = '}' then (.closeBrace, 1)
    else if c = ' ' || c = '\t' then (.blank, 1 + (rest.takeWhile (fun d => d = ' ' || d = '\t')).length)
    else if c = '#' then (.comment, 1 + (rest.takeWhile (fun d => d ≠ '\r' && d ≠ '\n')).length)
    else if c = '\r' then (.newline, if rest.head? = some '\n' then 2 else 1)
    else if c = '\n' then (.newline, 1)
    else if c = '\'' then
      match rest with
      | '\'' :: '\'' :: more => (.mlLiteral, 3 + mlLiteralTail more)
      | _ => (.literal, 1 + literalTail rest)
    else if c = '"' then
      match rest with
      | '"' :: '"' :: more => (.mlBasic, 3 + mlBasicTail more)
      | _ => (.basic, 1 + basicTail rest)
    else (.atom, 1 + (rest.takeWhile (fun d => !isAtomEnd d)).length)

/-- Cut text starting at a byte offset into tokens; `fuel` bounds the number of tokens. -/
def scanFrom : Nat → Nat → List Char → List Token
  | 0, _, _ => []
  | _, _, [] => []
  | fuel + 1, offset, c :: rest =>
    let (kind, n) := nextToken (c :: rest)
    let chars := (c :: rest).take n
    ⟨kind, offset, chars⟩ :: scanFrom fuel (offset + byteCount chars) ((c :: rest).drop n)

/-- The tokens of a text; a byte order mark at its start is passed over. -/
def Token.scan (text : String) : List Token :=
  match text.toList with
  | '\uFEFF' :: rest => scanFrom rest.length 3 rest
  | cs => scanFrom cs.length 0 cs

end GraphWire.Toml
