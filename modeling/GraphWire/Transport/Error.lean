import GraphWire.Transport.Url

/-! # Transport errors

Why one HTTP exchange failed: the request could not be sent, it timed out, the server answered
with a status outside 2xx, a configured header is not valid HTTP, or a transport without HTTP
reported a connection failure. A failed send keeps the chain of lower-level causes, outermost
first, for reports that list them. -/

namespace GraphWire

/-- A request that could not be sent: the URL it went to, none when its text is no URL, and
the lower-level causes, outermost first. -/
structure SendFailure where
  url : Option String
  causes : List String
deriving DecidableEq, Repr

/-- The wording of a send failure. -/
def SendFailure.message (f : SendFailure) : String :=
  match f.url with
  | some u => "error sending request for url (" ++ u ++ ")"
  | none => "builder error"

/-- The failure of a request when the network has no route to the server: the URL its text
stands for, written as the URL Standard writes it, and the causes of a connection that could
not be made; or, for a text that is no URL, why it is none. -/
def SendFailure.unreachable (url : String) : SendFailure :=
  match Url.parse url with
  | .ok u => ⟨some u.text,
    ["client error (Connect)", "tcp connect error", "Network is unreachable (os error 101)"]⟩
  | .error e => ⟨none, [e.message]⟩

/-- Why one exchange failed. -/
inductive TransportError where
  | request (failure : SendFailure)
  | timeout
  | status (code : Nat) (body : String)
  | invalidHeader (name : String)
  | connection (reason : String)
deriving DecidableEq, Repr

namespace TransportError

/-- The wording of a transport error. -/
def message : TransportError → String
  | .request f => "HTTP request failed: " ++ f.message
  | .timeout => "request timed out"
  | .status c b => "HTTP " ++ toString c ++ ": " ++ b
  | .invalidHeader n => "invalid header value for " ++ n
  | .connection r => "connection failed: " ++ r

/-- The class of a transport error. -/
def kind : TransportError → String
  | .request _ => "Request"
  | .timeout => "Timeout"
  | .status _ _ => "Status"
  | .invalidHeader _ => "InvalidHeader"
  | .connection _ => "Connection"

/-- The error's wording followed by those of its causes. -/
def chain (e : TransportError) : List String :=
  match e with
  | .request f => [e.message, f.message] ++ f.causes
  | _ => [e.message]

end TransportError

end GraphWire
