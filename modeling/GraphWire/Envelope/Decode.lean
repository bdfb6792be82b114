import GraphWire.Envelope.Basic
import GraphWire.Envelope.Error
import GraphWire.Json.Schema
import GraphWire.Json.Reader
import GraphWire.Value.Basic
import GraphWire.Text.Blank

/-! # Decoding response envelopes

`Envelope.read` turns a response body into an `Envelope`. A blank body is the empty envelope; a
body must otherwise be a JSON object whose members have the expected kinds. Every record
defaults its absent members, except the identities of nodes and relationships and the code of a
server error, which must be present.

An identity is a JSON integer in 64-bit signed range, or a string that holds one: after
trimming blanks, an optional sign and decimal digits only (`Identity.ofText?`). -/

namespace GraphWire

open Json

/-- A leading sign taken off: whether it was a minus, and the characters after it. -/
def splitSign : List Char → Bool × List Char
  | '+' :: r => (false, r)
  | '-' :: r => (true, r)
  | r => (false, r)

/-- The value of decimal digits, the most significant first. -/
def digitsValue (digits : List Char) : Nat :=
  digits.foldl (fun acc c => acc * 10 + (c.toNat - '0'.toNat)) 0

/-- A decimal integer in 64-bit signed range: an optional sign, then one or more digits. -/
def parseInt64? (s : String) : Option Int64 :=
  let (negative, digits) := splitSign s.toList
  if digits.isEmpty || !digits.all Char.isDigit then none
  else
    let n : Nat := digitsValue digits
    let i : Int := if negative then -(n : Int) else n
    if Value.fitsInt64 i then some (Int64.ofInt i) else none

namespace Identity

/-- The identity a text holds, blanks around it ignored. -/
def ofText? (s : String) : Option Int64 := parseInt64? (Text.trim s)

/-- What is said of a document that is neither an integer in range nor a string. -/
def noMatch : DecodeError := .custom "data did not match any variant of untagged enum RawId"

/-- The identity a string holds, or why it holds none. -/
def ofString (s : String) : Except DecodeError Int64 :=
  match ofText? s with
  | some i => .ok i
  | none => .error (.custom ("invalid identity '" ++ s ++ "'"))

/-- An identity: an integer in 64-bit signed range, or a string holding one. -/
def decode : Decoder Int64
  | .number (.int i) => if Value.fitsInt64 i then .ok (Int64.ofInt i) else .error noMatch
  | .string s => ofString s
  | _ => .error noMatch

end Identity

/-- Properties as sent: a JSON object, or null. -/
def propertiesDecoder : Decoder (Option (List (String × Json))) := Decoder.option Decoder.members

namespace ServerError

/-- The record of a server error. -/
def shape : Shape := ⟨"ServerError", [.of "code" .string true [], .of "message" .string false []]⟩

/-- Read a server error. -/
def decode : Decoder ServerError := fun j => do
  let s ← shape.collect j
  pure ⟨← slot s 0 .string "", ← slot s 1 .string ""⟩

end ServerError

namespace QueryStats

/-- The record of statistics; every counter defaults to zero. -/
def shape : Shape := ⟨"QueryStats", [
  .of "contains_updates" .bool false [],
  .of "nodes_created" .u64 false [],
  .of "nodes_deleted" .u64 false [],
  .of "properties_set" .u64 false [],
  .of "relationships_created" .u64 false [],
  .of "relationships_deleted" .u64 false ["relationship_deleted"],
  .of "labels_added" .u64 false [],
  .of "labels_removed" .u64 false [],
  .of "indexes_added" .u64 false [],
  .of "indexes_removed" .u64 false [],
  .of "constraints_added" .u64 false [],
  .of "constraints_removed" .u64 false []]⟩

/-- Read statistics. -/
def decode : Decoder QueryStats := fun j => do
  let s ← shape.collect j
  pure ⟨← slot s 0 .bool false, ← slot s 1 .u64 0, ← slot s 2 .u64 0, ← slot s 3 .u64 0,
    ← slot s 4 .u64 0, ← slot s 5 .u64 0, ← slot s 6 .u64 0, ← slot s 7 .u64 0,
    ← slot s 8 .u64 0, ← slot s 9 .u64 0, ← slot s 10 .u64 0, ← slot s 11 .u64 0⟩

end QueryStats

namespace WireNode

/-- The record of a node. -/
def shape : Shape := ⟨"WireNode", [
  .of "id" Identity.decode true [],
  .of "labels" (Decoder.seq .string) false [],
  .of "properties" propertiesDecoder false []]⟩

/-- Read a node. -/
def decode : Decoder WireNode := fun j => do
  let s ← shape.collect j
  pure ⟨← slot s 0 Identity.decode 0, ← slot s 1 (Decoder.seq .string) [],
    ← slot s 2 propertiesDecoder none⟩

end WireNode

namespace WireRelationship

/-- The record of a relationship. -/
def shape : Shape := ⟨"WireRelationship", [
  .of "id" Identity.decode true [],
  .of "type" .string false [],
  .of "startNode" Identity.decode true [],
  .of "endNode" Identity.decode true [],
  .of "properties" propertiesDecoder false []]⟩

/-- Read a relationship. -/
def decode : Decoder WireRelationship := fun j => do
  let s ← shape.collect j
  pure ⟨← slot s 0 Identity.decode 0, ← slot s 1 .string "", ← slot s 2 Identity.decode 0,
    ← slot s 3 Identity.decode 0, ← slot s 4 propertiesDecoder none⟩

end WireRelationship

namespace SubGraph

/-- The record of a sub-graph. -/
def shape : Shape := ⟨"SubGraph", [
  .of "nodes" (Decoder.seq WireNode.decode) false [],
  .of "relationships" (Decoder.seq WireRelationship.decode) false []]⟩

/-- Read a sub-graph. -/
def decode : Decoder SubGraph := fun j => do
  let s ← shape.collect j
  pure ⟨← slot s 0 (Decoder.seq WireNode.decode) [],
    ← slot s 1 (Decoder.seq WireRelationship.decode) []⟩

end SubGraph

namespace DataItem

/-- A row of cells, or null. -/
def rowDecoder : Decoder (Option (List Json)) := Decoder.option (Decoder.seq Decoder.any)

/-- The record of a data item. -/
def shape : Shape := ⟨"DataItem", [
  .of "row" rowDecoder false [],
  .of "graph" (Decoder.option SubGraph.decode) false []]⟩

/-- Read a data item. -/
def decode : Decoder DataItem := fun j => do
  let s ← shape.collect j
  pure ⟨← slot s 0 rowDecoder none, ← slot s 1 (Decoder.option SubGraph.decode) none⟩

end DataItem

namespace Fragment

/-- The record of a result fragment. -/
def shape : Shape := ⟨"ResultFragment", [
  .of "columns" (Decoder.seq .string) false [],
  .of "data" (Decoder.seq DataItem.decode) false [],
  .of "stats" (Decoder.option QueryStats.decode) false []]⟩

/-- Read a result fragment. -/
def decode : Decoder Fragment := fun j => do
  let s ← shape.collect j
  pure ⟨← slot s 0 (Decoder.seq .string) [], ← slot s 1 (Decoder.seq DataItem.decode) [],
    ← slot s 2 (Decoder.option QueryStats.decode) none⟩

end Fragment

namespace TransactionInfo

/-- The record of transaction information. -/
def shape : Shape := ⟨"TransactionInfo", [.of "expires" (Decoder.option .string) false []]⟩

/-- Read transaction information. -/
def decode : Decoder TransactionInfo := fun j => do
  let s ← shape.collect j
  pure ⟨← slot s 0 (Decoder.option .string) none⟩

end TransactionInfo

namespace Envelope

/-- The record of an envelope. -/
def shape : Shape := ⟨"ResponseEnvelope", [
  .of "commit" (Decoder.option .string) false [],
  .of "transaction" (Decoder.option TransactionInfo.decode) false [],
  .of "results" (Decoder.seq Fragment.decode) false [],
  .of "errors" (Decoder.seq ServerError.decode) false []]⟩

/-- Read an envelope from a document. -/
def decode : Decoder Envelope := fun j => do
  let s ← shape.collect j
  pure ⟨← slot s 0 (Decoder.option .string) none,
    ← slot s 1 (Decoder.option TransactionInfo.decode) none,
    ← slot s 2 (Decoder.seq Fragment.decode) [], ← slot s 3 (Decoder.seq ServerError.decode) []⟩

/-- How the kind of a document is named when an object was expected. -/
def kindWord : Json → String
  | .null => "null"
  | .bool _ => "a boolean"
  | .number _ => "a number"
  | .string _ => "a string"
  | .array _ => "an array"
  | .object _ => "an object"

/-- Read a response body: blank is the empty envelope, else a JSON object is required. -/
def read (body : String) : Except EnvelopeFault Envelope :=
  if Text.isBlankText body then .ok empty
  else
    match Json.read body with
    | .error e => .error (.unreadable e)
    | .ok j =>
      match j with
      | .object _ => (decode j).mapError .schema
      | other => .error (.notObject (kindWord other))

/-- Read a response body, as a protocol error on failure. -/
def ofBody (body : String) : Except ProtocolError Envelope :=
  (read body).mapError .malformedEnvelope

/-- The fragment of a statement by its index. -/
def fragment (e : Envelope) (index : Nat) : Except ProtocolError Fragment :=
  match e.results[index]? with
  | some f => .ok f
  | none => .error (.missingFragment index e.results.length)

end Envelope

end GraphWire
