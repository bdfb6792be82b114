import GraphWire.Transaction.Steps

/-!
# Clients

A client makes transactions against one server and keeps what they share: the wire, the
statement store and the registry's binding table. Every transaction it makes lives in a cell,
referred to by its position, as callers and the registry share it; a cell's lock may be held by
someone, and then the registry counts its transaction as live whatever its phase.

The registry binds at most one live long-running transaction per context key:

* `Client.longRunning` returns the transaction bound to a key, or binds a fresh one when there
  is none or the one bound is finished and not locked;
* `Client.scope` does the same and hands back a scope, whose `Scope.close` undoes its own
  binding only, so a scope of a replaced binding never evicts the newer one;
* `Client.release` unbinds a key whatever it holds.

`Client.execute` runs one statement in an atomic transaction. `Client.inTransaction` runs some
work in the long-running transaction of a key: it begins it if needed, commits when the work
succeeds, rolls it back (ignoring failures) when the work fails or the server refuses the
commit, and always closes its scope.
-/

namespace GraphWire

instance : Inhabited Transaction := ⟨Transaction.atomic 0 ⟨""⟩⟩

/-- A client: its endpoints, what its transactions share, the cells of every transaction it
made, the cells whose lock is held, and the next identity to give. -/
structure Client where
  endpoints : Endpoints
  shared : Shared
  cells : List Transaction
  held : List Nat
  nextId : Nat

/-- A computation of a client. -/
abbrev ClientM := StateM Client

/-- A scope: the key it acquired, the identity bound when it did, and the cell it holds. -/
structure Scope where
  key : ContextKey
  id : Nat
  cell : Nat
deriving DecidableEq, Repr

/-- What an acquisition found or made: the identity bound, its cell, and the binding made when
a new transaction was bound. -/
structure Acquired where
  id : Nat
  cell : Nat
  created : Option Binding

namespace Client

/-- A client of a base URL over a wire, with nothing made yet. -/
def ofWire (base : String) (wire : Wire) : Client :=
  ⟨Endpoints.ofBase base, ⟨wire, .empty, .empty⟩, [], [], 0⟩

/-- The transaction of a cell. -/
def transaction (c : Client) (cell : Nat) : Transaction := c.cells.getD cell default

/-- Whether a cell's lock is held. -/
def isHeld (c : Client) (cell : Nat) : Bool := c.held.contains cell

/-- Whether the registry counts a cell's transaction as live: locked, or not finished. -/
def isLive (c : Client) (cell : Nat) : Bool := c.isHeld cell || (c.transaction cell).isActive

/-- The number of keys bound. -/
def boundCount (c : Client) : Nat := c.shared.table.size

/-- The cell bound to a key. -/
def bound? (c : Client) (key : ContextKey) : Option Nat := (c.shared.table.find? key).map (·.cell)

/-- The statement under a reference. -/
def statement? (c : Client) (r : Nat) : Option Statement := c.shared.statements.get? r

/-- The client as a debug view shows it. -/
def debugText (c : Client) : String :=
  "GraphClient \x7b base_url: " ++ Json.debugString c.endpoints.base ++ ", bound_transactions: " ++
    toString c.boundCount ++ " \x7d"

/-- A fresh identity. -/
def freshId : ClientM Nat :=
  modifyGet fun c => (c.nextId, { c with nextId := c.nextId + 1 })

/-- Put a transaction in a new cell; the cell. -/
def store (t : Transaction) : ClientM Nat :=
  modifyGet fun c => (c.cells.length, { c with cells := c.cells ++ [t] })

/-- Store a statement; its reference. -/
def addStatement (s : Statement) : ClientM Nat :=
  modifyGet fun c =>
    let (r, st) := c.shared.statements.push s
    (r, { c with shared := { c.shared with statements := st } })

/-- Change the binding table. -/
def modifyTable (f : Table → Table) : ClientM Unit :=
  modify fun c => { c with shared := { c.shared with table := f c.shared.table } }

/-- Run an operation on the transaction of a cell. -/
def run {α : Type} (cell : Nat) (op : TxM α) : ClientM (Except ClientError α) :=
  modifyGet fun c =>
    let (r, s) := op.runOn ⟨c.transaction cell, c.shared⟩
    (r, { c with cells := c.cells.set cell s.tx, shared := s.shared })

/-- Take a cell's lock; false when it is already held. -/
def hold (cell : Nat) : ClientM Bool :=
  modifyGet fun c =>
    if c.isHeld cell then (false, c) else (true, { c with held := c.held ++ [cell] })

/-- Give a cell's lock back; false when it was not held. -/
def unhold (cell : Nat) : ClientM Bool :=
  modifyGet fun c =>
    if c.isHeld cell then (true, { c with held := c.held.filter (· != cell) }) else (false, c)

/-- A fresh atomic transaction, never registered; its cell. -/
def atomic : ClientM Nat := do
  let id ← freshId
  store (Transaction.atomic id (← get).endpoints)

/-- A fresh long-running transaction outside the registry; its cell. -/
def detached : ClientM Nat := do
  let id ← freshId
  store (Transaction.longRunning id (← get).endpoints none)

/-- A fresh long-running transaction holding a binding, with the binding's identity. -/
def bound (b : Binding) : ClientM Nat := do
  store (Transaction.longRunning b.id (← get).endpoints (some b))

/-- Bind a transaction made by `create` from a fresh binding under a key. -/
def bindNew (key : ContextKey) (create : Binding → ClientM Nat) : ClientM Acquired := do
  let id ← freshId
  let b : Binding := ⟨key, id⟩
  let cell ← create b
  modifyTable (·.put key ⟨id, cell⟩)
  return ⟨id, cell, some b⟩

/-- The live transaction bound to a key, or a new one made by `create` and bound in place of a
finished one. -/
def acquire (key : ContextKey) (create : Binding → ClientM Nat) : ClientM Acquired := do
  let c ← get
  match c.shared.table.find? key with
  | some e => if c.isLive e.cell then return ⟨e.id, e.cell, none⟩ else bindNew key create
  | none => bindNew key create

/-- The cell of the live transaction bound to a key, or of one made by `create` and bound. -/
def getOrCreate (key : ContextKey) (create : Binding → ClientM Nat) : ClientM Nat := do
  return (← acquire key create).cell

/-- The long-running transaction bound to a key, made if absent or finished. -/
def longRunning (key : ContextKey) : ClientM Nat := getOrCreate key bound

/-- Acquire the transaction of a key until the scope is closed. -/
def scope (key : ContextKey) : ClientM Scope := do
  let a ← acquire key bound
  return ⟨key, a.id, a.cell⟩

/-- Unbind whatever a key holds; whether it held something. -/
def release (key : ContextKey) : ClientM Bool :=
  modifyGet fun c =>
    let (t, found) := c.shared.table.remove key
    (found, { c with shared := { c.shared with table := t } })

/-- Undo a binding, if its key still carries its identity. -/
def releaseBinding (b : Binding) : ClientM Unit := modifyTable (·.release b)

/-- Roll back a transaction still active, ignoring how it went. -/
def rollBackQuietly (cell : Nat) : ClientM Unit := do
  if ((← get).transaction cell).isActive then
    let _ ← run cell Transaction.rollback

/-- Run one statement in an atomic transaction; its reference, resolved. -/
def execute (s : Statement) : ClientM (Except ClientError Nat) := do
  let cell ← atomic
  let r ← addStatement s
  match ← run cell (Transaction.add r) with
  | .error e => return .error e
  | .ok () =>
    match ← run cell Transaction.commit with
    | .error e => return .error e
    | .ok () => return .ok r

/-- Commit after work that succeeded, unless the work finished the transaction; a remote fault
of the commit rolls back. -/
def settle {α : Type} (cell : Nat) (v : α) : ClientM (Except ClientError α) := do
  if ((← get).transaction cell).isActive then
    match ← run cell Transaction.commit with
    | .error e =>
      if e.isRemote then rollBackQuietly cell
      return .error e
    | .ok () => return .ok v
  else return .ok v

/-- Begin the transaction of a cell unless it was begun. -/
def ensureBegun (cell : Nat) : ClientM (Except ClientError Unit) := do
  if ((← get).transaction cell).begun then return .ok ()
  else run cell Transaction.begin

end Client

/-- Close a scope: unbind its key if the key still carries the scope's identity. -/
def Scope.close (s : Scope) : ClientM Unit := Client.modifyTable fun t => (t.unbind s.key s.id).1

namespace Client

/-- Run work in the long-running transaction of a key, holding its lock: begin it if needed,
commit when the work succeeds, roll back when the work fails or the server refuses the commit,
and close the scope whatever happens. -/
def inTransaction {m : Type → Type} [Monad m] [MonadLiftT ClientM m] {α : Type}
    (key : ContextKey) (work : Nat → m (Except ClientError α)) : m (Except ClientError α) := do
  let sc ← monadLift (scope key)
  let took ← monadLift (hold sc.cell)
  let result ← match ← monadLift (ensureBegun sc.cell) with
    | .error e => pure (.error e)
    | .ok () =>
      match ← work sc.cell with
      | .ok v => monadLift (settle sc.cell v)
      | .error e => do
        monadLift (rollBackQuietly sc.cell)
        pure (.error e)
  if took then
    let _ ← monadLift (unhold sc.cell)
  monadLift sc.close
  return result

end Client

end GraphWire
