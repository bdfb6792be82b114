import GraphWire.Config.Basic
import GraphWire.Toml.Document
import GraphWire.Toml.Writer
import GraphWire.Json.Schema
import GraphWire.Decimal.Layout

/-!
# Configurations in TOML

A TOML document is read whole first; its root table is then decoded as a configuration. The
table's keys are taken in sorted order: a key that names a field must hold a value of that
field's kind, other keys are skipped, and fields left out keep their defaults.

Integers are handed to a field by the narrowest width that holds them: signed or unsigned 64
bits, then signed or unsigned 128 bits, which no field takes. An integer beyond 128 bits or
whose text is no number, and a float beyond binary64, are errors wherever they stand, also
under a key that is skipped, since a skipped value is still read through.

Credentials come from a table, whose `username` is required and whose `password` is the empty
text when left out, or from an array holding the username and, optionally, the password; more
items are not looked at.

An error points at the value it is about; a missing username points at the credentials table,
which for a table opened by a header is the header.

`ClientConfig.toTomlText` writes a configuration back: its fields in declaration order, the
credentials as a table after them.
-/

namespace GraphWire

namespace Toml

/-- Whether an integer fits 128 bits, signed or unsigned. -/
def fitsWidth (i : Int) : Bool :=
  -((Nat.pow 2 127 : Nat) : Int) ≤ i && i < ((Nat.pow 2 128 : Nat) : Int)

/-- What a value is, for an error: an integer by the narrowest width that holds it. -/
def Value.unexpected : Value → Json.Unexpected
  | .string s => .str s
  | .integer (some i) =>
    if -((Nat.pow 2 63 : Nat) : Int) ≤ i && i < ((Nat.pow 2 64 : Nat) : Int) then
      if i < 0 then .signed i else .unsigned i.toNat
    else if i < ((Nat.pow 2 127 : Nat) : Int) then .other ("integer `" ++ toString i ++ "` as i128")
    else .other ("integer `" ++ toString i ++ "` as u128")
  | .integer none => .other "integer"
  | .float f => .float (f.getD 0)
  | .boolean b => .bool b
  | .datetime _ => .map
  | .array _ _ => .seq
  | .table _ _ => .map

/-- Entries sorted by key, the order in which a record takes them. -/
def sortedEntries (es : Entries) : Entries :=
  es.mergeSort (fun a b => decide (a.1 ≤ b.1))

end Toml

/-- A decoding step: a result, or the error and the range it is about. -/
abbrev TomlDecode (α : Type) := Except (Json.DecodeError × Toml.Span) α

namespace TomlDecode

/-- A value as a field sees it: an integer that is no number or is beyond 128 bits, and a float
beyond binary64, are errors. -/
def width (v : Toml.Value × Toml.Span) : TomlDecode Unit :=
  match v.1 with
  | .integer (some i) =>
    if Toml.fitsWidth i then .ok () else .error (.custom "integer number overflowed", v.2)
  | .integer none => .error (.custom "integer number overflowed", v.2)
  | .float none => .error (.custom "floating-point number overflowed", v.2)
  | _ => .ok ()

/-- A value of the wrong kind. -/
def mismatch {α : Type} (v : Toml.Value × Toml.Span) (expected : String) : TomlDecode α :=
  .error (.invalidType v.1.unexpected expected, v.2)

/-- A string. -/
def string (v : Toml.Value × Toml.Span) : TomlDecode String := do
  width v
  match v.1 with
  | .string s => .ok s
  | _ => mismatch v "a string"

/-- A boolean. -/
def bool (v : Toml.Value × Toml.Span) : TomlDecode Bool := do
  width v
  match v.1 with
  | .boolean b => .ok b
  | _ => mismatch v "a boolean"

/-- An unsigned 64-bit integer. -/
def u64 (v : Toml.Value × Toml.Span) : TomlDecode UInt64 := do
  width v
  match v.1 with
  | .integer (some i) =>
    if i < 0 && -((Nat.pow 2 63 : Nat) : Int) ≤ i then .error (.invalidValue (.signed i) "u64", v.2)
    else if 0 ≤ i && i < ((Nat.pow 2 64 : Nat) : Int) then .ok (UInt64.ofNat i.toNat)
    else mismatch v "u64"
  | _ => mismatch v "u64"

/-- Read through a value that no field takes; `fuel` bounds the nesting, and the length of
the text a value was read from is enough, as every level of nesting takes a character. -/
def skip : Nat → Toml.Value × Toml.Span → TomlDecode Unit
  | 0, _ => .ok ()
  | fuel + 1, v =>
    match v.1 with
    | .array items _ => items.forM (skip fuel)
    | .table es _ => (Toml.sortedEntries es).forM (fun e => skip fuel e.2)
    | _ => width v

/-- Credentials, from a table or an array; `fuel` bounds the nesting of what is skipped. -/
def credentials (fuel : Nat) (v : Toml.Value × Toml.Span) : TomlDecode Credentials := do
  width v
  match v.1 with
  | .table es _ => do
    let mut username : Option String := none
    let mut password : Option String := none
    for (k, w, sp) in Toml.sortedEntries es do
      if k = "username" then username := some (← string (w, sp))
      else if k = "password" then password := some (← string (w, sp))
      else skip fuel (w, sp)
    match username with
    | some u => return ⟨u, password.getD ""⟩
    | none => .error (.missingField "username", v.2)
  | .array items _ =>
    match items with
    | [] => .error (.invalidLength 0 "struct Credentials with 2 elements", v.2)
    | [u] => do return ⟨← string u, ""⟩
    | u :: p :: _ => do return ⟨← string u, ← string p⟩
  | _ => mismatch v "struct Credentials"

/-- One entry of the root table, taken into a configuration; `fuel` bounds the nesting of
what is skipped. -/
def field (fuel : Nat) (c : ClientConfig) (k : String) (v : Toml.Value × Toml.Span) :
    TomlDecode ClientConfig :=
  if k = "base_url" then do return { c with baseUrl := ← string v }
  else if k = "credentials" then do return { c with credentials := some (← credentials fuel v) }
  else if k = "timeout_secs" then do return { c with timeoutSecs := ← u64 v }
  else if k = "stream_results" then do return { c with streamResults := ← bool v }
  else if k = "user_agent" then do return { c with userAgent := ← string v }
  else do skip fuel v; return c

end TomlDecode

namespace ClientConfig

/-- Decode a root table as a configuration; `fuel` bounds the nesting of what is skipped. -/
def ofTomlTable (fuel : Nat) (es : Toml.Entries) : TomlDecode ClientConfig :=
  (Toml.sortedEntries es).foldlM (fun c e => TomlDecode.field fuel c e.1 e.2) default

/-- Read a configuration from TOML text. -/
def ofTomlText (text : String) : Except Toml.Error ClientConfig :=
  match Toml.read text with
  | .error f => .error ⟨f.message, f.span, text⟩
  | .ok es =>
    match ofTomlTable (text.length + 1) es with
    | .ok c => .ok c
    | .error (e, sp) => .error ⟨e.text Decimal.Layout.pointed.render, some sp, text⟩

/-- The configuration as TOML text. -/
def toTomlText (c : ClientConfig) : String :=
  Toml.render [("base_url", .string c.baseUrl),
      ("timeout_secs", .integer c.timeoutSecs.toNat), ("stream_results", .boolean c.streamResults),
      ("user_agent", .string c.userAgent)]
    (match c.credentials with
      | some cr => [("credentials", [("username", .string cr.username),
          ("password", .string cr.password)])]
      | none => [])

end ClientConfig

end GraphWire
