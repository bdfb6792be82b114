import GraphWire.Toml.Token
import GraphWire.Toml.Error

/-!
# The statements of a TOML document

The second phase of reading TOML: the tokens are grouped into statements, each a key/value pair
or a table header, with values as written (scalars, arrays, inline tables), and the syntax is
checked. Nothing is decoded yet: keys and scalars keep their text, so that a key that is not
allowed or a number that is malformed is found in the next phase, after every fault of syntax.

The first fault of syntax, in text order, is the one reported:

* after a pair or a header only blanks and a comment may follow on the line
  (`unexpected key or value, expected newline, #`);
* a key must be followed by `=` (`key with no value`, or `missing value for key` when the line
  starts with a dot), and a value by at most one `=` (`extra =`);
* headers must be closed (`unclosed table`, `unclosed array table`);
* arrays need commas between their items and none twice, inline tables need `=` after each key
  and commas between pairs (a trailing comma, line ends and comments are allowed), a token that
  cannot stand in an inline table is an `invalid inline table element`, and both must be closed;
* arrays and inline tables nest at most 80 deep; the opening of the 81st level is the fault
  `cannot recurse further; max recursion depth met`;
* a comment may hold tabs and printable characters only, and a carriage return must be followed
  by a line feed.

Where a key is missing (a header `[]`, a pair `= 1`, a dot followed by no key) an empty bare key
stands in its place, and where a value is missing an empty bare scalar does, or in an inline
table closed too early an empty literal string; decoding them later gives the fault. A value's scalar is its first atom with the dots, atoms and blanks
between atoms that follow it, so that `1979-05-27 07:32:00` and `30 junk` are one scalar each.
-/

namespace GraphWire.Toml

/-- How a key or a scalar is written: bare, or as one of the four kinds of strings. -/
inductive Form where
  | bare
  | literal
  | basic
  | mlLiteral
  | mlBasic
deriving DecidableEq, Repr

/-- A key or a scalar as written: its form, the byte offset it starts at, and its characters. -/
structure Written where
  form : Form
  start : Nat
  chars : List Char
deriving Repr

/-- The byte range of a written key or scalar. -/
def Written.span (w : Written) : Span := (w.start, w.start + byteCount w.chars)

/-- An empty bare key or scalar standing for a missing one. -/
def Written.missing (pos : Nat) : Written := ⟨.bare, pos, []⟩

/-- A value as written: a scalar, an array of values between byte offsets, or an inline table
of pairs between byte offsets. -/
inductive Syntax where
  | scalar (w : Written)
  | array (start stop : Nat) (items : List Syntax)
  | inline (start stop : Nat) (pairs : List (List Written × Syntax))
deriving Repr

/-- A statement of a document: a pair of a dotted key and a value, or a header of a table or of
an element of an array of tables, with its byte range. -/
inductive Statement where
  | pair (key : List Written) (value : Syntax)
  | header (isArray : Bool) (key : List Written) (span : Span)
deriving Repr

/-- The form of a token that can stand as a key or a scalar. -/
def TokenKind.form? : TokenKind → Option Form
  | .atom => some .bare
  | .literal => some .literal
  | .basic => some .basic
  | .mlLiteral => some .mlLiteral
  | .mlBasic => some .mlBasic
  | _ => none

/-- A token as a written key or scalar. -/
def Token.written (t : Token) (form : Form) : Written := ⟨form, t.start, t.chars⟩

/-- The tokens after leading blanks. -/
def skipBlank : List Token → List Token
  | [] => []
  | t :: rest => if t.kind = .blank then skipBlank rest else t :: rest

/-- Whether a character may stand in a comment: a tab, a printable ASCII character, or any
character beyond ASCII. -/
def isCommentChar (c : Char) : Bool :=
  c = '\t' || (0x20 ≤ c.toNat && c.toNat ≤ 0x7E) || c.toNat ≥ 0x80

/-- The byte offset of the first character of a list that fails a test, counting from `pos`. -/
def firstFailing (p : Char → Bool) : Nat → List Char → Option Nat
  | _, [] => none
  | pos, c :: rest => if p c then firstFailing p (pos + c.utf8Size) rest else some pos

/-- Check the characters of a comment. -/
def checkComment (t : Token) : Except Fault Unit :=
  match firstFailing isCommentChar t.start t.chars with
  | some pos => .error (Fault.at "invalid comment character"
      (some [.description "printable characters"]) pos)
  | none => .ok ()

/-- Check a line end: a carriage return must be followed by a line feed. -/
def checkNewline (t : Token) : Except Fault Unit :=
  if t.chars = ['\r'] then
    .error (Fault.at "carriage return must be followed by newline" (some [.literal "\n"]) t.stop)
  else .ok ()

/-- Check a blank, comment or line-end token; other tokens pass. -/
def checkTrivia (t : Token) : Except Fault Unit :=
  match t.kind with
  | .comment => checkComment t
  | .newline => checkNewline t
  | _ => .ok ()

/-- The rest of a line after a statement: blanks, then a comment or a line end; anything else
is a fault. -/
def lineEnd : List Token → Except Fault (List Token)
  | [] => .ok []
  | t :: rest =>
    match t.kind with
    | .blank => lineEnd rest
    | .comment => do
      checkComment t
      match rest with
      | u :: more => if u.kind = .newline then do checkNewline u; return more else return rest
      | [] => return []
    | .newline => do checkNewline t; return rest
    | _ => .error (Fault.at "unexpected key or value"
        (some [.literal "\n", .literal "#"]) t.start)

/-- Pass over the rest of a line, checking its comments and its line end only. -/
def skipLine : List Token → Except Fault (List Token)
  | [] => .ok []
  | t :: rest =>
    match t.kind with
    | .comment => do
      checkComment t
      match rest with
      | u :: more => if u.kind = .newline then do checkNewline u; return more else return rest
      | [] => return []
    | .newline => do checkNewline t; return rest
    | _ => skipLine rest

/-- The parts of a dotted key after its first: each dot is followed by a key, an empty one
standing in where none is written. Also tells whether every part was written. `eof` is the
byte offset of the end of the text. -/
def dotKeys (eof : Nat) : Nat → List Token → List Written × Bool × List Token
  | 0, ts => ([], true, ts)
  | fuel + 1, ts =>
    match skipBlank ts with
    | t :: rest =>
      if t.kind = .dot then
        match skipBlank rest with
        | u :: more =>
          match u.kind.form? with
          | some form =>
            let (ks, ok, r) := dotKeys eof fuel more
            (u.written form :: ks, ok, r)
          | none =>
            let (ks, _, r) := dotKeys eof fuel (u :: more)
            (Written.missing u.start :: ks, false, r)
        | [] => ([Written.missing eof], false, [])
      else ([], true, t :: rest)
    | [] => ([], true, [])

/-- The key of a header: its parts, whether every part was written, and the tokens left. -/
def headerKey (eof : Nat) : Nat → List Token → List Written × Bool × List Token
  | 0, ts => ([Written.missing eof], false, ts)
  | fuel + 1, ts =>
    match ts with
    | [] => ([Written.missing eof], false, [])
    | t :: rest =>
      if t.kind = .blank then headerKey eof fuel rest
      else if t.kind = .dot then
        let (ks, ok, r) := headerKey eof fuel rest
        (Written.missing t.start :: ks, ok, r)
      else
        match t.kind.form? with
        | some form =>
          let (ks, ok, r) := dotKeys eof (rest.length + 1) rest
          (t.written form :: ks, ok, r)
        | none => ([Written.missing t.start], false, t :: rest)

/-- A scalar from its first atom or dot: the dots and atoms that follow, and an atom after
blanks, belong to it. -/
def mergeScalar (first : Token) : Nat → List Token → Written × List Token
  | 0, ts => (first.written .bare, ts)
  | fuel + 1, ts =>
    match ts with
    | t :: rest =>
      if t.kind = .dot || t.kind = .atom then
        mergeScalar ⟨.atom, first.start, first.chars ++ t.chars⟩ fuel rest
      else if t.kind = .blank then
        match rest with
        | u :: more =>
          if u.kind = .atom then
            mergeScalar ⟨.atom, first.start, first.chars ++ t.chars ++ u.chars⟩ fuel more
          else (first.written .bare, ts)
        | [] => (first.written .bare, ts)
      else (first.written .bare, ts)
    | [] => (first.written .bare, ts)

/-- What an inline table waits for next. -/
inductive Await where
  | key
  | equals
  | value
  | comma
deriving DecidableEq, Repr

/-- What a fault in an inline table says was expected, by what it waited for. -/
def Await.expected : Await → List Expected
  | .key => [.description "key"]
  | .equals => [.literal "="]
  | .value => [.description "value"]
  | .comma => [.literal ","]

/-- A fault before a token. -/
def faultBefore {α : Type} (t : Token) (description : String) (expected : List Expected) :
    Except Fault α :=
  .error (Fault.at description (some expected) t.start)

/-- How deeply arrays and inline tables may nest. -/
def nestingLimit : Nat := 80

/-- The fault of an array or inline table opened deeper than `nestingLimit`. -/
def tooDeep (t : Token) : Fault :=
  Fault.make "cannot recurse further; max recursion depth met" none (t.start, t.stop)

mutual

/-- A value, after the blanks before it; `tail` is the byte offset after the last token that is
not a blank, comment or line end. -/
def value (eof tail depth : Nat) : Nat → List Token → Except Fault (Syntax × List Token)
  | 0, ts => .ok (.scalar (Written.missing eof), ts)
  | fuel + 1, ts =>
    match ts with
    | [] => .ok (.scalar (Written.missing eof), [])
    | t :: rest =>
      match t.kind with
      | .comment | .comma | .newline | .blank => .ok (.scalar (Written.missing t.start), t :: rest)
      | .equals => .error (Fault.make "extra `=`" (some []) (t.start, t.stop))
      | .openBrace =>
        if depth ≥ nestingLimit then .error (tooDeep t)
        else inline eof tail (depth + 1) fuel t .key [] [] rest
      | .closeBrace => faultBefore t "missing inline table opening" [.literal "\x7b"]
      | .openBracket =>
        if depth ≥ nestingLimit then .error (tooDeep t)
        else array eof tail (depth + 1) fuel t true [] rest
      | .closeBracket => faultBefore t "missing array opening" [.literal "["]
      | .dot | .atom =>
        let (w, r) := mergeScalar t (rest.length + 1) rest
        .ok (.scalar w, r)
      | k =>
        match k.form? with
        | some form => .ok (.scalar (t.written form), rest)
        | none => .ok (.scalar (Written.missing t.start), t :: rest)

/-- The items of an array after its opening bracket; `needsValue` tells that a value, not a
comma, comes next; `items` holds those read, reversed. -/
def array (eof tail depth : Nat) : Nat → Token → Bool → List Syntax → List Token →
    Except Fault (Syntax × List Token)
  | 0, _, _, _, _ => .error (Fault.at "unclosed array" (some [.literal "]"]) tail)
  | fuel + 1, opening, needsValue, items, ts =>
    match ts with
    | [] => .error (Fault.at "unclosed array" (some [.literal "]"]) tail)
    | t :: rest =>
      let missingComma : Except Fault Unit :=
        if needsValue then .ok ()
        else faultBefore t "missing comma between array elements" [.literal ","]
      match t.kind with
      | .blank => array eof tail depth fuel opening needsValue items rest
      | .comment | .newline => do
        checkTrivia t
        array eof tail depth fuel opening needsValue items rest
      | .comma =>
        if needsValue then
          .error (Fault.make "extra comma in array" (some [.description "value"]) (t.start, t.stop))
        else array eof tail depth fuel opening true items rest
      | .equals =>
        .error (Fault.make "unexpected `=` in array"
          (some [.description "value", .literal "]"]) (t.start, t.stop))
      | .closeBracket => .ok (.array opening.start t.stop items.reverse, rest)
      | .closeBrace => do
        missingComma
        faultBefore t "missing inline table opening" [.literal "\x7b"]
      | _ => do
        missingComma
        let (v, r) ← value eof tail depth fuel (t :: rest)
        array eof tail depth fuel opening false (v :: items) r

/-- The pairs of an inline table after its opening brace; `await` tells what comes next,
`key` holds the key being read and `pairs` the pairs read, reversed. -/
def inline (eof tail depth : Nat) : Nat → Token → Await → List Written →
    List (List Written × Syntax) → List Token → Except Fault (Syntax × List Token)
  | 0, _, _, _, _, _ => .error (Fault.at "unclosed inline table" (some [.literal "\x7d"]) tail)
  | fuel + 1, opening, await, key, pairs, ts =>
    match ts with
    | [] => .error (Fault.at "unclosed inline table" (some [.literal "\x7d"]) tail)
    | t :: rest =>
      let withValue := fun (r : Except Fault (Syntax × List Token)) =>
        match r with
        | .ok (v, r) => inline eof tail depth fuel opening .comma [] ((key, v) :: pairs) r
        | .error e => .error e
      let readKey := fun (first : Written) (after : List Token) =>
        let (more, _, r) := dotKeys eof (after.length + 1) after
        inline eof tail depth fuel opening .equals (first :: more) pairs r
      match t.kind with
      | .blank => inline eof tail depth fuel opening await key pairs rest
      | .comment | .newline => do
        checkTrivia t
        inline eof tail depth fuel opening await key pairs rest
      | .comma =>
        if await = .comma then inline eof tail depth fuel opening .key [] pairs rest
        else faultBefore t "extra comma in inline table" await.expected
      | .equals =>
        match await with
        | .key => inline eof tail depth fuel opening .value [Written.missing t.start] pairs rest
        | .equals => inline eof tail depth fuel opening .value key pairs rest
        | _ => faultBefore t "extra assignment between key-value pairs" await.expected
      | .closeBrace =>
        match await with
        | .key | .comma => .ok (.inline opening.start t.stop pairs.reverse, rest)
        | .equals | .value =>
          let missing : Written := ⟨.literal, t.start, []⟩
          .ok (.inline opening.start t.stop ((key, .scalar missing) :: pairs).reverse, rest)
      | .openBrace | .openBracket =>
        match await with
        | .value => withValue (value eof tail depth fuel (t :: rest))
        | .equals => faultBefore t "missing assignment between key-value pairs" [.literal "="]
        | _ => faultBefore t "missing key for inline table element" await.expected
      | .closeBracket =>
        .error (Fault.make "invalid inline table element" (some await.expected) (t.start, t.stop))
      | .dot =>
        match await with
        | .key => readKey (Written.missing t.start) (t :: rest)
        | .value => withValue (value eof tail depth fuel (t :: rest))
        | .equals => faultBefore t "missing assignment between key-value pairs" [.literal "="]
        | .comma => faultBefore t "missing comma between key-value pairs" [.literal ","]
      | k =>
        match await, k.form? with
        | .key, some form => readKey (t.written form) rest
        | .value, _ => withValue (value eof tail depth fuel (t :: rest))
        | .equals, _ => faultBefore t "missing assignment between key-value pairs" [.literal "="]
        | _, _ => faultBefore t "missing comma between key-value pairs" [.literal ","]

end

/-- The rest of a pair after its first key part: more parts, `=`, the value and the end of the
line. -/
def pairRest (eof tail : Nat) (noValue : String) (first : List Written) (ts : List Token) :
    Except Fault (Statement × List Token) :=
  let (more, _, ts) := dotKeys eof (ts.length + 1) ts
  match skipBlank ts with
  | t :: rest =>
    if t.kind = .equals then do
      let (v, r) ← value eof tail 0 (rest.length + 1) (skipBlank rest)
      let r ← lineEnd r
      return (.pair (first ++ more) v, r)
    else faultBefore t noValue [.literal "="]
  | [] => .error (Fault.at noValue (some [.literal "="]) eof)

/-- A header after its opening bracket. -/
def header (eof : Nat) (opening : Token) (ts : List Token) : Except Fault (Option Statement × List Token) :=
  let (isArray, ts) : Bool × List Token := match ts with
    | t :: rest => if t.kind = .openBracket then (true, rest) else (false, t :: rest)
    | [] => (false, [])
  let (key, valid, ts) := headerKey eof (ts.length + 1) (skipBlank ts)
  let lastStop := ((key.getLast?.map fun (w : Written) => w.span.2).getD opening.stop)
  let unclosed : Except Fault (Option Statement × List Token) :=
    if isArray then .error (Fault.at "unclosed array table" (some [.literal "]]"]) lastStop)
    else .error (Fault.at "unclosed table" (some [.literal "]"]) lastStop)
  match skipBlank ts with
  | t :: rest =>
    if t.kind = .closeBracket then
      if isArray then
        match rest with
        | u :: more =>
          if u.kind = .closeBracket then do
            let r ← lineEnd more
            return (some (.header true key (opening.start, u.stop)), r)
          else .error (Fault.at "unclosed array table" (some [.literal "]"]) t.stop)
        | [] => .error (Fault.at "unclosed array table" (some [.literal "]"]) t.stop)
      else do
        let r ← lineEnd rest
        return (some (.header false key (opening.start, t.stop)), r)
    else if valid then unclosed
    else do
      let r ← skipLine (t :: rest)
      return (some (.header isArray key (opening.start, opening.stop)), r)
  | [] => if valid then unclosed else .ok (some (.header isArray key (opening.start, opening.stop)), [])

/-- One statement from the start of a line, or none for a blank line or a comment. -/
def statement (eof tail : Nat) (t : Token) (rest : List Token) :
    Except Fault (Option Statement × List Token) :=
  match t.kind with
  | .openBracket => header eof t rest
  | .closeBracket => faultBefore t "missing table opening" [.literal "["]
  | .equals => do
    let (s, r) ← pairRest eof tail "key with no value" [Written.missing t.start] (t :: rest)
    return (some s, r)
  | .dot => do
    let (s, r) ← pairRest eof tail "missing value for key" [Written.missing t.start] (t :: rest)
    return (some s, r)
  | .comma | .openBrace | .closeBrace =>
    faultBefore t "invalid key-value pair" [.description "key"]
  | .blank => .ok (none, rest)
  | .comment => do
    checkComment t
    match rest with
    | u :: more =>
      if u.kind = .newline then
        checkNewline u
        return (none, more)
      else return (none, rest)
    | [] => return (none, [])
  | .newline => do
    checkNewline t
    return (none, rest)
  | k =>
    match k.form? with
    | some form => do
      let (s, r) ← pairRest eof tail "key with no value" [t.written form] rest
      return (some s, r)
    | none => .ok (none, rest)

/-- The statements of the tokens left; `acc` holds those read, reversed. -/
def statements (eof tail : Nat) : Nat → List Token → List Statement →
    Except Fault (List Statement)
  | 0, _, acc => .ok acc.reverse
  | _, [], acc => .ok acc.reverse
  | fuel + 1, t :: rest, acc => do
    let (s, r) ← statement eof tail t rest
    statements eof tail fuel r (match s with
      | some s => s :: acc
      | none => acc)

/-- The byte offset after the last token that is not a blank, comment or line end. -/
def lastSolidStop (ts : List Token) : Nat :=
  ts.foldl (fun n t =>
    if t.kind = .blank || t.kind = .comment || t.kind = .newline then n else t.stop) 0

/-- The statements of a document, or its first fault of syntax. -/
def Statement.read (text : String) : Except Fault (List Statement) :=
  let ts := Token.scan text
  statements text.utf8ByteSize (lastSolidStop ts) (ts.length + 1) ts []

end GraphWire.Toml
