import GraphWire.Envelope.Error
import GraphWire.Envelope.Basic
import GraphWire.Transport.Error
import GraphWire.Config.Error

/-! # Client errors

Every failure of a client operation is a local fault (transport, decoding, an operation the
transaction's state or mode does not allow, a statement already executed, configuration) or a
remote fault: one or more errors the server reported. `ClientError.ofServerErrors` turns the
errors of an envelope into the remote fault, or into nothing when there are none. -/

namespace GraphWire

/-- Whether a transaction commits in one round trip or stays open across several. -/
inductive Mode where
  | atomic
  | longRunning
deriving DecidableEq, Repr, Inhabited

/-- Where a transaction is in its life. -/
inductive Phase where
  | open
  | flushed
  | committed
  | rolledBack
  | failed
deriving DecidableEq, Repr, Inhabited

/-- The operations of a transaction. -/
inductive Operation where
  | begin
  | add
  | flush
  | commit
  | rollback
  | keepAlive
deriving DecidableEq, Repr

/-- Why an operation is not allowed in a transaction's state. -/
inductive Refusal where
  | finalized
  | alreadyBegun
  | notBegun (op : Operation)
deriving DecidableEq, Repr

namespace Mode

/-- The text of a mode. -/
def text : Mode → String
  | .atomic => "atomic"
  | .longRunning => "long-running"

/-- The name of a mode in a debug view. -/
def debugName : Mode → String
  | .atomic => "Atomic"
  | .longRunning => "LongRunning"

end Mode

namespace Phase

/-- The text of a phase. -/
def text : Phase → String
  | .open => "open"
  | .flushed => "flushed"
  | .committed => "committed"
  | .rolledBack => "rolled back"
  | .failed => "failed"

/-- The name of a phase in a debug view. -/
def debugName : Phase → String
  | .open => "Open"
  | .flushed => "Flushed"
  | .committed => "Committed"
  | .rolledBack => "RolledBack"
  | .failed => "Failed"

/-- Whether a transaction in the phase is finished for good. -/
def isTerminal : Phase → Bool
  | .committed | .rolledBack | .failed => true
  | _ => false

end Phase

/-- The name of an operation. -/
def Operation.text : Operation → String
  | .begin => "begin"
  | .add => "add"
  | .flush => "flush"
  | .commit => "commit"
  | .rollback => "rollback"
  | .keepAlive => "keep_alive"

/-- The wording of a refusal. -/
def Refusal.text : Refusal → String
  | .finalized => "transaction is finalized"
  | .alreadyBegun => "transaction has already begun"
  | .notBegun op => "begin must be called before " ++ op.text

/-- Whether a failure is on this side of the wire or the server's. -/
inductive Fault where
  | local
  | remote
deriving DecidableEq, Repr

/-- A failure of a client operation. -/
inductive ClientError where
  | transport (e : TransportError)
  | protocol (e : ProtocolError)
  | illegalState (op : Operation) (phase : Phase) (why : Refusal)
  | unsupported (op : Operation) (mode : Mode)
  | alreadyExecuted
  | remote (e : ServerError)
  | remoteMany (es : List ServerError)
  | config (e : ConfigError)
deriving Repr

namespace ClientError

/-- The wording of a client error. -/
def message : ClientError → String
  | .transport e => "transport error: " ++ e.message
  | .protocol e => "protocol decode error: " ++ e.message
  | .illegalState op p why =>
    "cannot " ++ op.text ++ " a transaction that is " ++ p.text ++ ": " ++ why.text
  | .unsupported op m => op.text ++ " is not supported by " ++ m.text ++ " transactions"
  | .alreadyExecuted => "statement has already been executed"
  | .remote e => "server error " ++ e.display
  | .remoteMany es =>
    "server reported " ++ toString es.length ++ " errors: " ++
      "; ".intercalate (es.map ServerError.display)
  | .config e => "configuration error: " ++ e.message

/-- The class of a client error. -/
def kind : ClientError → String
  | .transport e => "Transport/" ++ e.kind
  | .protocol e => "ProtocolDecode/" ++ e.kind
  | .illegalState _ _ _ => "IllegalTransactionState"
  | .unsupported _ _ => "UnsupportedOperation"
  | .alreadyExecuted => "StatementAlreadyExecuted"
  | .remote _ => "RemoteStatement"
  | .remoteMany _ => "RemoteMulti"
  | .config e => "Config/" ++ e.kind

/-- Which side of the wire the failure came from. -/
def fault : ClientError → Fault
  | .remote _ | .remoteMany _ => .remote
  | _ => .local

/-- Whether the failure came from the server. -/
def isRemote (e : ClientError) : Bool := e.fault == .remote

/-- The server errors a failure carries, in server order. -/
def serverErrors : ClientError → List ServerError
  | .remote e => [e]
  | .remoteMany es => es
  | _ => []

/-- The error's wording followed by those of its causes. -/
def chain (e : ClientError) : List String :=
  match e with
  | .transport t => e.message :: t.chain
  | .protocol p => e.message :: p.chain
  | .config c => e.message :: c.chain
  | _ => [e.message]

/-- The remote fault of a list of server errors: none, one, or several. -/
def ofServerErrors : List ServerError → Option ClientError
  | [] => none
  | [e] => some (.remote e)
  | es => some (.remoteMany es)

end ClientError

end GraphWire
