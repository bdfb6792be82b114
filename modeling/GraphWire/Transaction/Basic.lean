import GraphWire.Client.Error
import GraphWire.Client.Endpoints
import GraphWire.Continuation
import GraphWire.Statement
import GraphWire.Wire
import GraphWire.Registry.Table

/-!
# Transactions

A transaction queues statements and sends them to the server in round trips. An atomic
transaction makes one round trip that begins and commits at once; a long-running one is begun
explicitly, sends its queue by any number of flushes, and ends by a commit or a rollback.

```text
  open --flush--> flushed --flush--> flushed
    |                |
    +----commit------+---> committed
    +----rollback----+---> rolled back
    +--local fault---+---> failed
```

Statements are shared by reference: a transaction queues the references of statements held in
the client's statement store, so a result written by one transaction is seen by every holder.
The transactions of one client also share the wire and the registry's binding table; together
these are the `Shared` part of a `Scene`, the state a transaction's operations work on.
-/

namespace GraphWire

/-- The statements of a client, each under the reference it was given when stored. -/
structure Statements where
  items : List Statement

namespace Statements

/-- The store with no statements. -/
def empty : Statements := ⟨[]⟩

/-- The statement under a reference. -/
def get? (s : Statements) (r : Nat) : Option Statement := s.items[r]?

/-- Whether the statement under a reference holds its result. -/
def isResolved (s : Statements) (r : Nat) : Bool := ((s.get? r).map Statement.isResolved).getD false

/-- Store a statement; its reference. -/
def push (s : Statements) (st : Statement) : Nat × Statements := (s.items.length, ⟨s.items ++ [st]⟩)

/-- Replace the statement under a reference. -/
def set (s : Statements) (r : Nat) (st : Statement) : Statements := ⟨s.items.set r st⟩

/-- The statements under some references, in order. -/
def collect (s : Statements) (rs : List Nat) : List Statement := rs.filterMap s.get?

end Statements

/-- A transaction: its identity, mode, endpoints, the continuation of its server-side
transaction once one is open, the references of its queued statements, its phase, whether it
was begun, and its registry binding while it holds one. -/
structure Transaction where
  id : Nat
  mode : Mode
  endpoints : Endpoints
  continuation : Option Continuation
  queue : List Nat
  phase : Phase
  begun : Bool
  binding : Option Binding

namespace Transaction

/-- A fresh transaction of a mode. -/
def fresh (id : Nat) (mode : Mode) (endpoints : Endpoints) (binding : Option Binding) :
    Transaction :=
  ⟨id, mode, endpoints, none, [], .open, false, binding⟩

/-- A fresh atomic transaction. -/
def atomic (id : Nat) (endpoints : Endpoints) : Transaction := fresh id .atomic endpoints none

/-- A fresh long-running transaction, bound or not. -/
def longRunning (id : Nat) (endpoints : Endpoints) (binding : Option Binding) : Transaction :=
  fresh id .longRunning endpoints binding

/-- Whether the transaction can still be used. -/
def isActive (t : Transaction) : Bool := !t.phase.isTerminal

/-- Where the next round trip goes: the continuation once there is one, else where a
transaction of the mode begins. -/
def endpoint (t : Transaction) : String :=
  match t.continuation, t.mode with
  | some c, _ => c.endpoint
  | none, .atomic => t.endpoints.autocommit
  | none, .longRunning => t.endpoints.transaction

/-- When the server-side transaction expires. -/
def expiry (t : Transaction) : Option Time.Instant := t.continuation.map (·.expires)

/-- The transaction as a debug view shows it; `showId` writes the identity. -/
def debugText (showId : Nat → String) (t : Transaction) : String :=
  "Transaction \x7b id: TransactionId(" ++ showId t.id ++ "), mode: " ++ t.mode.debugName ++
    ", state: " ++ t.phase.debugName ++ ", endpoint: " ++ Json.debugString t.endpoint ++
    ", pending: " ++ toString t.queue.length ++ " \x7d"

@[simp] theorem phase_fresh (id : Nat) (m : Mode) (e : Endpoints) (b : Option Binding) :
    (fresh id m e b).phase = .open := rfl

@[simp] theorem queue_fresh (id : Nat) (m : Mode) (e : Endpoints) (b : Option Binding) :
    (fresh id m e b).queue = [] := rfl

end Transaction

/-- What the transactions of one client share: the wire, the statement store and the
registry's binding table. -/
structure Shared where
  wire : Wire
  statements : Statements
  table : Table

/-- The state a transaction operation works on: the transaction and what it shares. -/
structure Scene where
  tx : Transaction
  shared : Shared

/-- An operation on a transaction: it may fail with a client error, and keeps the changes it
made before failing. -/
abbrev TxM := ExceptT ClientError (StateM Scene)

/-- Run an operation from a scene: its result and the scene after it. -/
def TxM.runOn {α : Type} (op : TxM α) (s : Scene) : Except ClientError α × Scene :=
  (ExceptT.run op).run s

end GraphWire
