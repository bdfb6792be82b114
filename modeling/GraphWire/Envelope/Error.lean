import GraphWire.Json.Reader
import GraphWire.Json.Schema
import GraphWire.Time.Rfc2822
import GraphWire.Decimal.Layout

/-! # Protocol errors

Errors of the wire protocol itself, as opposed to errors the server reports inside a
well-formed answer: a body that is not an envelope, a missing fragment or continuation, an
expiry that is missing or not a date, and a statement whose result is already set. -/

namespace GraphWire

/-- Why a body is not a response envelope. -/
inductive EnvelopeFault where
  | unreadable (e : Json.ReadError)
  | notObject (found : String)
  | schema (e : Json.DecodeError)
deriving Repr

/-- The wording of an envelope fault; floats in it are written plainly, with a point. -/
def EnvelopeFault.message : EnvelopeFault → String
  | .unreadable e => e.message
  | .notObject k => "expected a JSON object, found " ++ k
  | .schema e => e.text Decimal.Layout.unexpected.render

/-- An error of the wire protocol. -/
inductive ProtocolError where
  | malformedEnvelope (fault : EnvelopeFault)
  | encode (reason : String)
  | missingFragment (index available : Nat)
  | missingContinuation
  | missingExpiry
  | invalidExpiry (raw : String) (reason : Time.ParseError)
  | resultAlreadySet
deriving Repr

namespace ProtocolError

/-- The wording of a protocol error. -/
def message : ProtocolError → String
  | .malformedEnvelope f => "malformed response envelope: " ++ f.message
  | .encode r => "failed to encode request payload: " ++ r
  | .missingFragment i n =>
    "response has no result fragment for statement " ++ toString i ++ " (" ++ toString n ++
      " fragments returned)"
  | .missingContinuation => "response is missing the transaction continuation endpoint"
  | .missingExpiry => "response has a continuation endpoint but no transaction expiry"
  | .invalidExpiry raw r => "invalid transaction expiry '" ++ raw ++ "': " ++ r.message
  | .resultAlreadySet => "statement result has already been set"

/-- The class of a protocol error. -/
def kind : ProtocolError → String
  | .malformedEnvelope _ => "MalformedEnvelope"
  | .encode _ => "Encode"
  | .missingFragment _ _ => "MissingFragment"
  | .missingContinuation => "MissingContinuation"
  | .missingExpiry => "MissingExpiry"
  | .invalidExpiry _ _ => "InvalidExpiry"
  | .resultAlreadySet => "ResultAlreadySet"

/-- The error's wording followed by those of its causes. -/
def chain (e : ProtocolError) : List String :=
  match e with
  | .malformedEnvelope f => [e.message, f.message]
  | .encode r => [e.message, r]
  | .invalidExpiry _ r => [e.message, r.message]
  | _ => [e.message]

end ProtocolError

end GraphWire
