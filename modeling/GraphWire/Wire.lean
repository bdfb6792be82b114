import GraphWire.Json.Basic
import GraphWire.Transport.Error

/-!
# Wires: requests and their replies

A transaction talks to the server by requests: a POST of a batch of statements to an endpoint,
or a DELETE of an endpoint. Each request gets one reply, a body or a transport error.

A `Wire` is what carries the requests. A scripted wire holds its replies in advance and hands
them out in order, recording every request; once the replies run out, a request fails to
connect. An unreachable wire stands for a network with no route to the server: no request gets
through, so nothing is recorded and every request fails to be sent.
-/

namespace GraphWire

/-- A request of a transaction. -/
inductive Request where
  | post (url : String) (payload : Json)
  | delete (url : String)
deriving Inhabited

namespace Request

/-- Where a request goes. -/
def url : Request → String
  | .post u _ => u
  | .delete u => u

/-- The number of statements a POST carries; none for a DELETE or a POST without a list. -/
def statementCount : Request → Option Nat
  | .post _ payload =>
    match payload.field? "statements" with
    | some (.array items) => some items.length
    | _ => none
  | .delete _ => none

end Request

/-- The reply to a request: a body, or why the exchange failed. -/
abbrev Reply := Except TransportError String

/-- What carries a client's requests. -/
inductive Wire where
  /-- Replies given in advance and used in order, with the requests recorded so far. -/
  | scripted (replies : List Reply) (sent : List Request)
  /-- A network with no route to the server. -/
  | unreachable
deriving Inhabited

namespace Wire

/-- The failure of a request when the scripted replies have run out. -/
def exhausted : TransportError := .connection "no scripted response left"

/-- Send a request: its reply, and the wire after it. -/
def send (w : Wire) (r : Request) : Reply × Wire :=
  match w with
  | .scripted replies sent =>
    match replies with
    | [] => (.error exhausted, .scripted [] (sent ++ [r]))
    | reply :: rest => (reply, .scripted rest (sent ++ [r]))
  | .unreachable => (.error (.request (SendFailure.unreachable r.url)), .unreachable)

/-- The requests recorded, in the order they were sent. -/
def sent : Wire → List Request
  | .scripted _ s => s
  | .unreachable => []

/-- The replies not yet used. -/
def remaining : Wire → Nat
  | .scripted replies _ => replies.length
  | .unreachable => 0

@[simp] theorem sent_send_scripted (replies : List Reply) (s : List Request) (r : Request) :
    ((Wire.scripted replies s).send r).2.sent = s ++ [r] := by
  cases replies <;> rfl

end Wire

end GraphWire
