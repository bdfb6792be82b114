import GraphWire.Envelope.Decode
import GraphWire.Time.Rfc2822

/-! # Continuations

A round trip that leaves a transaction open returns where to continue it and when it expires.
The server names the commit URL; the continuation endpoint is that URL with one trailing
`/commit` removed, and committing goes to the endpoint with `/commit` put back. The expiry is an
RFC 2822 date, read after trimming blanks. -/

namespace GraphWire

/-- The suffix of a commit URL. -/
def commitSuffix : String := "/commit"

/-- A URL without one trailing `/commit`. -/
def stripCommitSuffix (url : String) : String :=
  if url.endsWith commitSuffix then
    String.ofList (url.toList.take (url.length - commitSuffix.length))
  else url

/-- Read an expiry date, blanks around it ignored; an error keeps the text as given. -/
def parseExpiry (raw : String) : Except ProtocolError Time.Instant :=
  (Time.parseRfc2822 (Text.trim raw)).mapError (.invalidExpiry raw)

/-- Where to continue an open transaction, and until when. -/
structure Continuation where
  endpoint : String
  expires : Time.Instant
deriving DecidableEq, Repr

namespace Continuation

/-- The continuation of a commit URL and an expiry text. -/
def ofCommitUrl (commit expires : String) : Except ProtocolError Continuation := do
  pure ⟨stripCommitSuffix commit, ← parseExpiry expires⟩

/-- Where committing goes. -/
def commitUrl (c : Continuation) : String := c.endpoint ++ commitSuffix

end Continuation

/-- The continuation an envelope carries: none without a commit URL, an error with a commit URL
but no expiry. -/
def Envelope.continuation (e : Envelope) : Except ProtocolError (Option Continuation) :=
  match e.commit with
  | none => .ok none
  | some commit =>
    match e.expires? with
    | none => .error .missingExpiry
    | some expires => (Continuation.ofCommitUrl commit expires).map some

end GraphWire
