import GraphWire.Json.Basic
import GraphWire.Text.GraphemeExtend

/-! # Decoding JSON documents into records

A `Decoder α` reads a JSON document as an `α` or says why it cannot, in the words of the
`DecodeError` kinds: a value of the wrong kind (`invalid type`), of the right kind but out of
range (`invalid value`), a sequence of the wrong length, a missing or repeated field, or a
message of the decoder's own.

A record (`Shape`) is read from an object or from an array. From an object the members are
taken in key order; a member that names no field is skipped, one that names a field already
given is an error, and a field left out takes its default or, if it has none, is missing. From
an array the items fill the fields in order; a field past the last item takes its default or the
array is too short, and items beyond the last field make it too long. -/

namespace GraphWire.Json

/-- What a decoder found instead of what it expected. -/
inductive Unexpected where
  | unit
  | bool (b : Bool)
  | unsigned (n : Nat)
  | signed (i : Int)
  | float (f : Float)
  | str (s : String)
  | seq
  | map
  | other (text : String)
deriving Inhabited, Repr

/-- What a document is, for an error. -/
def Unexpected.ofJson : Json → Unexpected
  | .null => .unit
  | .bool b => .bool b
  | .number (.int i) => if i < 0 then .signed i else .unsigned i.toNat
  | .number (.float f) => .float f
  | .string s => .str s
  | .array _ => .seq
  | .object _ => .map

/-- A character as a string literal shows it: quotes and backslashes escaped, the usual
control characters by their short escapes, and every other character that is not printable or
that extends the grapheme before it by its code point in lowercase hexadecimal, `\u{…}`. -/
def debugChar (c : Char) : String :=
  if c = '"' then "\\\""
  else if c = '\\' then "\\\\"
  else if c = '\n' then "\\n"
  else if c = '\r' then "\\r"
  else if c = '\t' then "\\t"
  else if c.toNat = 0 then "\\0"
  else if Text.isGraphemeExtend c || !Text.isPrintable c then
    "\\u" ++ "\x7b" ++ String.ofList (Nat.toDigits 16 c.toNat) ++ "\x7d"
  else String.singleton c

/-- A string as a string literal shows it. -/
def debugString (s : String) : String :=
  "\"" ++ String.join (s.toList.map debugChar) ++ "\""

/-- The wording of what was found; floats are written by the given function. -/
def Unexpected.text (floatText : Float → String) : Unexpected → String
  | .unit => "null"
  | .bool b => "boolean `" ++ (if b then "true" else "false") ++ "`"
  | .unsigned n => "integer `" ++ toString n ++ "`"
  | .signed i => "integer `" ++ toString i ++ "`"
  | .float f => "floating point `" ++ floatText f ++ "`"
  | .str s => "string " ++ debugString s
  | .seq => "sequence"
  | .map => "map"
  | .other text => text

/-- Why a document could not be decoded. -/
inductive DecodeError where
  | invalidType (found : Unexpected) (expected : String)
  | invalidValue (found : Unexpected) (expected : String)
  | invalidLength (length : Nat) (expected : String)
  | missingField (name : String)
  | duplicateField (name : String)
  | custom (message : String)
deriving Inhabited, Repr

/-- The wording of a decoding error; floats are written by the given function. -/
def DecodeError.text (floatText : Float → String) : DecodeError → String
  | .invalidType u e => "invalid type: " ++ u.text floatText ++ ", expected " ++ e
  | .invalidValue u e => "invalid value: " ++ u.text floatText ++ ", expected " ++ e
  | .invalidLength n e => "invalid length " ++ toString n ++ ", expected " ++ e
  | .missingField n => "missing field `" ++ n ++ "`"
  | .duplicateField n => "duplicate field `" ++ n ++ "`"
  | .custom m => m

/-- A reading of documents as `α`. -/
abbrev Decoder (α : Type) := Json → Except DecodeError α

namespace Decoder

/-- A string. -/
def string : Decoder String
  | .string s => .ok s
  | j => .error (.invalidType (.ofJson j) "a string")

/-- A boolean. -/
def bool : Decoder Bool
  | .bool b => .ok b
  | j => .error (.invalidType (.ofJson j) "a boolean")

/-- An unsigned 64-bit integer. -/
def u64 : Decoder UInt64
  | .number (.int i) =>
    if i < 0 then .error (.invalidValue (.signed i) "u64")
    else if i < Nat.pow 2 64 then .ok (UInt64.ofNat i.toNat)
    else .error (.invalidValue (.unsigned i.toNat) "u64")
  | j => .error (.invalidType (.ofJson j) "u64")

/-- A document that may be null. -/
def option {α : Type} (d : Decoder α) : Decoder (Option α)
  | .null => .ok none
  | j => (d j).map some

/-- A sequence of items. -/
def seq {α : Type} (d : Decoder α) : Decoder (List α)
  | .array items => items.mapM d
  | j => .error (.invalidType (.ofJson j) "a sequence")

/-- An object's members, in key order. -/
def members : Decoder (List (String × Json))
  | .object fs => .ok fs
  | j => .error (.invalidType (.ofJson j) "a map")

/-- Any document. -/
def any : Decoder Json := .ok

end Decoder

/-- A field of a record: its name, other names it answers to, a check of its value, and
whether it has no default. -/
structure Field where
  name : String
  aliases : List String
  check : Json → Except DecodeError Unit
  required : Bool

/-- A field read by a decoder. -/
def Field.of {α : Type} (name : String) (d : Decoder α) (required : Bool)
    (aliases : List String) : Field :=
  ⟨name, aliases, fun j => (d j).map (fun _ => ()), required⟩

/-- A record: its name and fields in declaration order. -/
structure Shape where
  name : String
  fields : List Field

namespace Shape

/-- How a record is named in an error. -/
def expected (s : Shape) : String := "struct " ++ s.name

/-- The field a key names. -/
def fieldIndex? (s : Shape) (key : String) : Option Nat :=
  s.fields.findIdx? (fun f => f.name == key || f.aliases.contains key)

/-- Set a slot of a list of optional documents. -/
def setSlot (slots : List (Option Json)) (i : Nat) (j : Json) : List (Option Json) :=
  slots.set i (some j)

/-- Take the members of an object in order, filling the slots of the fields they name. -/
def fillMembers (s : Shape) : List (String × Json) → List (Option Json) →
    Except DecodeError (List (Option Json))
  | [], slots => .ok slots
  | (k, v) :: rest, slots =>
    match s.fieldIndex? k with
    | none => fillMembers s rest slots
    | some i =>
      match slots[i]?, s.fields[i]? with
      | some (some _), some f => .error (.duplicateField f.name)
      | _, some f =>
        match f.check v with
        | .ok () => fillMembers s rest (setSlot slots i v)
        | .error e => .error e
      | _, none => fillMembers s rest slots

/-- After the members: the first field left out without a default is missing. -/
def checkMissing (s : Shape) (slots : List (Option Json)) : Except DecodeError Unit :=
  match (s.fields.zip slots).find? (fun p => p.1.required && p.2.isNone) with
  | some (f, _) => .error (.missingField f.name)
  | none => .ok ()

/-- Take the items of an array as the fields in order. -/
def fillItems (s : Shape) : List Field → List Json → Nat → List (Option Json) →
    Except DecodeError (List (Option Json))
  | [], [], _, acc => .ok acc.reverse
  | [], _ :: _, _, _ => .error (.invalidLength 0 "")
  | f :: fs, [], i, acc =>
    if f.required then .error (.invalidLength i
      (s.expected ++ " with " ++ toString s.fields.length ++ " elements"))
    else fillItems s fs [] (i + 1) (none :: acc)
  | f :: fs, j :: js, i, acc =>
    match f.check j with
    | .ok () => fillItems s fs js (i + 1) (some j :: acc)
    | .error e => .error e

/-- The documents given for each field, in declaration order (`none` where left out), read from
an object or an array. -/
def collect (s : Shape) : Json → Except DecodeError (List (Option Json))
  | .object fs => do
    let slots ← s.fillMembers fs (s.fields.map (fun _ => none))
    s.checkMissing slots
    pure slots
  | .array items =>
    if items.length > s.fields.length then
      -- every field is read first, then the surplus is refused
      match s.fillItems s.fields (items.take s.fields.length) 0 [] with
      | .error e => .error e
      | .ok _ => .error (.invalidLength items.length "fewer elements in array")
    else s.fillItems s.fields items 0 []
  | j => .error (.invalidType (.ofJson j) s.expected)

end Shape

/-- Read slot `i` with a decoder, or give the default when it was left out. -/
def slot {α : Type} (slots : List (Option Json)) (i : Nat) (d : Decoder α) (default : α) :
    Except DecodeError α :=
  match slots[i]? with
  | some (some j) => d j
  | _ => .ok default

/-- An error of reading a record from text: what was wrong, and the line and byte column where
it was found. -/
structure TextError where
  what : String
  line : Nat
  column : Nat
deriving DecidableEq, Repr

/-- The error as one line of text. -/
def TextError.message (e : TextError) : String :=
  e.what ++ " at line " ++ toString e.line ++ " column " ++ toString e.column

end GraphWire.Json
