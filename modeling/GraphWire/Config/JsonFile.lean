import GraphWire.Config.Basic
import GraphWire.Json.Reader
import GraphWire.Json.Schema
import GraphWire.Decimal.Layout

/-!
# Configurations in JSON

A JSON configuration is decoded as it is read, from left to right, and the first fault wins: a
fault of syntax, or a value of the wrong kind, stops the reading where it was found. Each error
names the line and byte column it was found at.

A record (the configuration, or its credentials) is an object or an array.

* From an object, members naming no field are read and skipped, a field named twice is an
  error, and fields left out keep their defaults; `username` has none.
* From an array, items fill the fields in declaration order, and items beyond the last field are
  trailing characters.

A value of the wrong kind is reported where its reading ended, after the whole scalar, but
before the bracket of an array or object. Errors about the record as a whole (a missing or
repeated field, an array too short) are reported after the blanks that follow and, for a
record that was closed, after its closing bracket.
-/

namespace GraphWire

namespace Json

/-- A decoding error of JSON text as one line, floats written as decoding errors name them. -/
def TextError.ofDecode (e : DecodeError) (s : Scan) : TextError :=
  ⟨e.text Decimal.Layout.unexpected.render, s.line, s.column⟩

/-- A reading error as a text error. -/
def TextError.ofRead (e : ReadError) : TextError := ⟨e.code.text, e.line, e.column⟩

/-- A record reading that failed: at a known place, or with its place still to be fixed when the
record is closed. -/
inductive Miss where
  | at (e : TextError)
  | pending (e : DecodeError) (s : Scan)

/-- A step of decoding: a value and the place after it. -/
abbrev Stream (α : Type) := Except TextError (α × Scan)

/-- A step of decoding inside a record. -/
abbrev RecordStep (α : Type) := Except Miss (α × Scan)

/-- A reading error as a decoding failure. -/
def Stream.ofRead {α : Type} (r : Except ReadError (α × Scan)) : Stream α :=
  r.mapError TextError.ofRead

namespace Stream

/-- The error for a value of the wrong kind at a place: the value is read to find its kind. -/
def mismatch (expected : String) (s : Scan) : TextError :=
  let s := s.skipGap
  let after := fun (r : Except ReadError Scan) (u : Unexpected) =>
    match r with
    | .ok t => TextError.ofDecode (.invalidType u expected) t
    | .error e => TextError.ofRead e
  match s.peek with
  | none => TextError.ofRead (s.ahead .eofValue)
  | some 'n' => after (readWord ['u', 'l', 'l'] s.bump) .unit
  | some 't' => after (readWord ['r', 'u', 'e'] s.bump) (.bool true)
  | some 'f' => after (readWord ['a', 'l', 's', 'e'] s.bump) (.bool false)
  | some '-' =>
    match readNumber false s.bump with
    | .ok (n, t) => TextError.ofDecode (.invalidType (.ofJson (.number n)) expected) t
    | .error e => TextError.ofRead e
  | some '"' =>
    match readString s.bump with
    | .ok (str, t) => TextError.ofDecode (.invalidType (.str str) expected) t
    | .error e => TextError.ofRead e
  | some '[' => TextError.ofDecode (.invalidType .seq expected) s
  | some '{' => TextError.ofDecode (.invalidType .map expected) s
  | some c =>
    if c.isDigit then
      match readNumber true s with
      | .ok (n, t) => TextError.ofDecode (.invalidType (.ofJson (.number n)) expected) t
      | .error e => TextError.ofRead e
    else TextError.ofRead (s.ahead .expectedValue)

/-- A string. -/
def string (s : Scan) : Stream String :=
  let s := s.skipGap
  match s.peek with
  | some '"' => ofRead (readString s.bump)
  | _ => .error (mismatch "a string" s)

/-- A boolean. -/
def bool (s : Scan) : Stream Bool :=
  let s := s.skipGap
  match s.peek with
  | some 't' => ofRead ((readWord ['r', 'u', 'e'] s.bump).map (fun t => (true, t)))
  | some 'f' => ofRead ((readWord ['a', 'l', 's', 'e'] s.bump).map (fun t => (false, t)))
  | _ => .error (mismatch "a boolean" s)

/-- An unsigned 64-bit integer. -/
def u64 (s : Scan) : Stream UInt64 :=
  let s := s.skipGap
  let number := fun (r : Except ReadError (Number × Scan)) =>
    match r with
    | .error e => .error (TextError.ofRead e)
    | .ok (.int i, t) =>
      if i < 0 then .error (TextError.ofDecode (.invalidValue (.signed i) "u64") t)
      else if i < Nat.pow 2 64 then .ok (UInt64.ofNat i.toNat, t)
      else .error (TextError.ofDecode (.invalidValue (.unsigned i.toNat) "u64") t)
    | .ok (.float f, t) => .error (TextError.ofDecode (.invalidType (.float f) "u64") t)
  match s.peek with
  | some '-' => number (readNumber false s.bump)
  | some c => if c.isDigit then number (readNumber true s) else .error (mismatch "u64" s)
  | none => .error (mismatch "u64" s)

/-- Any value, read and dropped. -/
def skipValue (s : Scan) : Stream Unit :=
  ofRead ((Json.skip s).map (fun t => ((), t)))

/-- The place after the blanks and the closing bracket that may follow a record that failed. -/
def closeAfterMiss (close : Char) (s : Scan) : Scan :=
  let s := s.skipGap
  match s.peek with
  | some c =>
    if c = close then s.bump
    else if c = ',' ∧ close = ']' then s.bump.skipGap
    else s
  | none => s

/-- The end of an object after its members. -/
def closeObject (s : Scan) : Except TextError Scan :=
  let s := s.skipGap
  match s.peek with
  | some '}' => .ok s.bump
  | some ',' => .error (TextError.ofRead (s.ahead .trailingComma))
  | some _ => .error (TextError.ofRead (s.ahead .trailingCharacters))
  | none => .error (TextError.ofRead (s.ahead .eofObject))

/-- The end of an array after the items a record took. -/
def closeArray (s : Scan) : Except TextError Scan :=
  let s := s.skipGap
  match s.peek with
  | some ']' => .ok s.bump
  | some ',' =>
    let t := s.bump.skipGap
    match t.peek with
    | some ']' => .error (TextError.ofRead (t.ahead .trailingComma))
    | _ => .error (TextError.ofRead (t.ahead .trailingCharacters))
  | some _ => .error (TextError.ofRead (s.ahead .trailingCharacters))
  | none => .error (TextError.ofRead (s.ahead .eofList))

/-- Close a record read from an object or an array: a failure with its place pending is placed
after the closing. -/
def closeRecord {α : Type} (close : Char) (r : RecordStep α) : Stream α :=
  match r with
  | .ok (v, t) =>
    match (if close = '}' then closeObject t else closeArray t) with
    | .ok t => .ok (v, t)
    | .error e => .error e
  | .error (.at e) => .error e
  | .error (.pending e t) => .error (TextError.ofDecode e (closeAfterMiss close t))

/-- The next key of an object, or `none` at its end; `first` tells whether a member was read. -/
def nextKey (first : Bool) (s : Scan) : Stream (Option String) :=
  let s := s.skipGap
  let key := fun (t : Scan) =>
    match t.peek with
    | some '"' => (ofRead (readString t.bump)).map (fun (k, u) => (some k, u))
    | some '}' => .error (TextError.ofRead (t.ahead .trailingComma))
    | some _ => .error (TextError.ofRead (t.ahead .keyMustBeString))
    | none => .error (TextError.ofRead (t.ahead .eofValue))
  match s.peek with
  | some '}' => .ok (none, s)
  | some ',' => if first then key s else key s.bump.skipGap
  | some _ => if first then key s else .error (TextError.ofRead (s.ahead .expectedObjectCommaOrEnd))
  | none => .error (TextError.ofRead (s.ahead .eofObject))

/-- The colon between a key and its value. -/
def colon (s : Scan) : Except TextError Scan :=
  let s := s.skipGap
  match s.peek with
  | some ':' => .ok s.bump
  | some _ => .error (TextError.ofRead (s.ahead .expectedColon))
  | none => .error (TextError.ofRead (s.ahead .eofObject))

/-- Whether another item of an array follows, and the place before it; `first` tells whether an
item was read. -/
def nextItem (first : Bool) (s : Scan) : Stream Bool :=
  let s := s.skipGap
  match s.peek with
  | some ']' => .ok (false, s)
  | some ',' =>
    if first then .ok (true, s)
    else
      let t := s.bump.skipGap
      match t.peek with
      | some ']' => .error (TextError.ofRead (t.ahead .trailingComma))
      | none => .error (TextError.ofRead (t.ahead .eofValue))
      | some _ => .ok (true, t)
  | some _ => if first then .ok (true, s) else .error (TextError.ofRead (s.ahead .expectedListCommaOrEnd))
  | none => .error (TextError.ofRead (s.ahead .eofList))

end Stream

/-- A record read one field at a time: its name, its fields in declaration order, and how to
read a field by name from a place into the values so far. -/
structure Record (α : Type) where
  name : String
  fields : List String
  read : String → α → Scan → Stream α

namespace Record

/-- Read the members of an object into a record, from its opening brace on; `seen` holds the
fields given so far. -/
def members {α : Type} (r : Record α) : Nat → α → List String → Bool → Scan → RecordStep α
  | 0, v, _, _, s => .ok (v, s)
  | fuel + 1, v, seen, first, s =>
    match Stream.nextKey first s with
    | .error e => .error (.at e)
    | .ok (none, t) => .ok (v, t)
    | .ok (some k, t) =>
      if r.fields.contains k then
        if seen.contains k then .error (.pending (.duplicateField k) t)
        else
          match Stream.colon t with
          | .error e => .error (.at e)
          | .ok t =>
            match r.read k v t with
            | .ok (v, t) => members r fuel v (k :: seen) false t
            | .error e => .error (.at e)
      else
        match Stream.colon t with
        | .error e => .error (.at e)
        | .ok t =>
          match Stream.skipValue t with
          | .ok ((), t) => members r fuel v seen false t
          | .error e => .error (.at e)

/-- Read items of an array into the fields in order, from its opening bracket on. -/
def items {α : Type} (r : Record α) : List String → α → Bool → Scan → RecordStep α
  | [], v, _, s => .ok (v, s)
  | f :: fs, v, first, s =>
    match Stream.nextItem first s with
    | .error e => .error (.at e)
    | .ok (false, t) => .ok (v, t)
    | .ok (true, t) =>
      match r.read f v t with
      | .ok (v, t) => items r fs v false t
      | .error e => .error (.at e)

end Record

end Json

namespace ClientConfig

open Json

/-- Credentials being read: the username and the password, if given. -/
abbrev CredentialsDraft := Option String × Option String

/-- Read credentials from a record's place, which must be an object or an array. -/
def credentialsOfStream (s : Scan) : Stream Credentials :=
  let record : Record CredentialsDraft := ⟨"Credentials", ["username", "password"], fun k d t =>
    if k = "username" then (Stream.string t).map (fun (u, t) => ((some u, d.2), t))
    else (Stream.string t).map (fun (p, t) => ((d.1, some p), t))⟩
  let finish := fun (close : Char) (r : RecordStep CredentialsDraft) (missing : DecodeError) =>
    Stream.closeRecord close (match r with
      | .ok ((some u, p), t) => .ok (⟨u, p.getD ""⟩, t)
      | .ok ((none, _), t) => .error (.pending missing t)
      | .error e => .error e)
  let s := s.skipGap
  let fuel := s.rest.length + 1
  match s.peek with
  | some '{' => finish '}' (record.members fuel (none, none) [] true s.bump) (.missingField "username")
  | some '[' =>
    finish ']' (record.items record.fields (none, none) true s.bump)
      (.invalidLength 0 "struct Credentials with 2 elements")
  | none => .error (TextError.ofRead (s.ahead .eofValue))
  | some _ => .error (Stream.mismatch ("struct " ++ record.name) s)

/-- Read optional credentials: `null` or credentials. -/
def optionalCredentials (s : Scan) : Stream (Option Credentials) :=
  let s := s.skipGap
  match s.peek with
  | some 'n' => Stream.ofRead ((readWord ['u', 'l', 'l'] s.bump).map (fun t => (none, t)))
  | _ => (credentialsOfStream s).map (fun (c, t) => (some c, t))

/-- Read one field of a configuration by name. -/
def readField (k : String) (c : ClientConfig) (s : Scan) : Stream ClientConfig :=
  if k = "base_url" then (Stream.string s).map (fun (v, t) => ({ c with baseUrl := v }, t))
  else if k = "credentials" then
    (optionalCredentials s).map (fun (v, t) => ({ c with credentials := v }, t))
  else if k = "timeout_secs" then
    (Stream.u64 s).map (fun (v, t) => ({ c with timeoutSecs := v }, t))
  else if k = "stream_results" then
    (Stream.bool s).map (fun (v, t) => ({ c with streamResults := v }, t))
  else (Stream.string s).map (fun (v, t) => ({ c with userAgent := v }, t))

/-- The configuration as a record of five fields. -/
def record : Record ClientConfig :=
  ⟨"ClientConfig", ["base_url", "credentials", "timeout_secs", "stream_results", "user_agent"],
    readField⟩

/-- Read a configuration from JSON text: one object or array, then only blanks. -/
def ofJsonText (text : String) : Except TextError ClientConfig := do
  let s := (Scan.start text).skipGap
  let fuel := s.rest.length + 1
  let (c, t) ← match s.peek with
    | some '{' => Stream.closeRecord '}' (record.members fuel default [] true s.bump)
    | some '[' => Stream.closeRecord ']' (record.items record.fields default true s.bump)
    | none => .error (TextError.ofRead (s.ahead .eofValue))
    | some _ => .error (Stream.mismatch ("struct " ++ record.name) s)
  let t := t.skipGap
  match t.peek with
  | some _ => .error (TextError.ofRead (t.ahead .trailingCharacters))
  | none => .ok c

end ClientConfig

end GraphWire
