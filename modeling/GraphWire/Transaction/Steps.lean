import GraphWire.Transaction.Basic
import GraphWire.Envelope.Decode
import GraphWire.Envelope.Results

/-!
# The operations of a transaction

Each operation first checks that it is allowed, then acts. The checks come in a fixed order:
a finished transaction refuses everything (`illegalState … finalized`); an atomic transaction
refuses `begin`, `flush` and `keep_alive` (`unsupported`); a long-running one refuses `add`,
`flush` and `commit` before `begin`, and a second `begin`; a statement already resolved, or
already queued, is refused (`alreadyExecuted`).

A round trip posts the encoded queue, reads the reply as an envelope, and checks the server's
errors before it writes any result. Faults split two ways:

* a local fault (a transport error, a body that is not an envelope, a reply without the
  continuation a flush or keep-alive needs, fewer fragments than queued statements, and a
  refusal of `begin`, `add`, `flush` or `commit` by phase) fails the transaction: its phase
  becomes failed, its queue is emptied and its binding released;
* a remote fault (the server's errors) leaves the transaction as it was, except that a commit
  of a long-running transaction drops its binding and a commit of an atomic one fails it.

Refusals for mode and for executed statements change nothing.
-/

namespace GraphWire

namespace Scene

/-- Drop the transaction's binding and undo its table entry. -/
def release (s : Scene) : Scene :=
  match s.tx.binding with
  | none => s
  | some b => ⟨{ s.tx with binding := none }, { s.shared with table := s.shared.table.release b }⟩

/-- The scene after a local fault: the transaction failed, with no queue and no binding. -/
def failed (s : Scene) : Scene := release { s with tx := { s.tx with phase := .failed, queue := [] } }

end Scene

namespace TxM

/-- The transaction. -/
def tx : TxM Transaction := do return (← get).tx

/-- Change the transaction. -/
def modifyTx (f : Transaction → Transaction) : TxM Unit :=
  modify fun s => { s with tx := f s.tx }

/-- Drop the transaction's binding. -/
def release : TxM Unit := modify Scene.release

/-- Fail the transaction with a local fault. -/
def fail {α : Type} (e : ClientError) : TxM α := do
  modify Scene.failed
  throw e

/-- Refuse an operation by phase, failing the transaction. -/
def illegal {α : Type} (op : Operation) (why : Refusal) : TxM α := do
  fail (.illegalState op (← tx).phase why)

/-- Refuse every operation of a finished transaction. -/
def ensureActive (op : Operation) : TxM Unit := do
  let t ← tx
  if t.phase.isTerminal then throw (.illegalState op t.phase .finalized)

/-- Refuse an operation of long-running transactions only. -/
def ensureLongRunning (op : Operation) : TxM Unit := do
  let t ← tx
  if t.mode ≠ .longRunning then throw (.unsupported op t.mode)

/-- Refuse an operation of a long-running transaction that was not begun. -/
def ensureBegun (op : Operation) : TxM Unit := do
  let t ← tx
  if t.mode = .longRunning ∧ t.begun = false then illegal op (.notBegun op)

/-- Refuse a round trip when a queued statement was resolved meanwhile by another transaction. -/
def ensureQueueUnexecuted : TxM Unit := do
  let s ← get
  if s.tx.queue.any s.shared.statements.isResolved then throw .alreadyExecuted

/-- The request body of the queue. -/
def payload : TxM Json := do
  let s ← get
  return requestPayload (s.shared.statements.collect s.tx.queue)

/-- Send a request; a transport error is a local fault. -/
def send (r : Request) : TxM String := do
  let s ← get
  let (reply, wire) := s.shared.wire.send r
  set { s with shared := { s.shared with wire := wire } }
  match reply with
  | .ok body => return body
  | .error e => fail (.transport e)

/-- Read a reply body as an envelope; one that is not is a local fault. -/
def readBody (body : String) : TxM Envelope :=
  match Envelope.ofBody body with
  | .ok env => return env
  | .error e => fail (.protocol e)

/-- The server's errors as a remote fault. -/
def checkServerErrors (errors : List ServerError) : TxM Unit :=
  match ClientError.ofServerErrors errors with
  | some e => throw e
  | none => return ()

/-- One POST: send, read the envelope, check the server's errors. -/
def exchange (url : String) (body : Json) : TxM Envelope := do
  let env ← readBody (← send (.post url body))
  checkServerErrors env.errors
  return env

/-- The continuation of a reply; a reply without one is a local fault. -/
def adoptContinuation (env : Envelope) : TxM Continuation :=
  match env.continuation with
  | .ok (some c) => return c
  | .ok none => fail (.protocol .missingContinuation)
  | .error e => fail (.protocol e)

/-- Resolve a queued statement from its fragment. -/
def resolveOne (r : Nat) (f : Fragment) : TxM Unit := do
  let s ← get
  match s.shared.statements.get? r with
  | none => return ()
  | some st =>
    match st.resolve f with
    | .ok st' => set { s with shared := { s.shared with statements := s.shared.statements.set r st' } }
    | .error e => fail (.protocol e)

/-- Resolve every queued statement from the fragment at its position; when the reply has fewer
fragments than queued statements, none is resolved. -/
def resolveQueue (env : Envelope) : TxM Unit := do
  let t ← tx
  if t.queue.length ≤ env.results.length then
    (t.queue.zip env.results).forM fun p => resolveOne p.1 p.2
  else fail (.protocol (.missingFragment env.results.length env.results.length))

end TxM

namespace Transaction

open TxM

/-- Mark a long-running transaction as begun. Nothing is sent: the server-side transaction
opens with the first flush. -/
def begin : TxM Unit := do
  ensureActive .begin
  ensureLongRunning .begin
  if (← tx).begun then illegal .begin .alreadyBegun
  modifyTx fun t => { t with begun := true }

/-- Queue a statement by reference for the next round trip. -/
def add (r : Nat) : TxM Unit := do
  ensureActive .add
  ensureBegun .add
  let s ← get
  if s.shared.statements.isResolved r || s.tx.queue.contains r then throw .alreadyExecuted
  modifyTx fun t => { t with queue := t.queue ++ [r] }

/-- Send the queue and keep the transaction open, moving to the continuation of the reply. -/
def flush : TxM Unit := do
  ensureActive .flush
  ensureLongRunning .flush
  ensureBegun .flush
  ensureQueueUnexecuted
  let url := (← tx).endpoint
  let env ← exchange url (← payload)
  let c ← adoptContinuation env
  resolveQueue env
  modifyTx fun t => { t with continuation := some c, queue := [], phase := .flushed }

/-- Send the queue and commit: at the continuation's commit URL, or where an atomic round trip
commits when there is no continuation yet. The binding is released on success and on a remote
fault. -/
def commit : TxM Unit := do
  ensureActive .commit
  ensureBegun .commit
  ensureQueueUnexecuted
  let t ← tx
  let url := match t.continuation with
    | some c => c.commitUrl
    | none => t.endpoints.autocommit
  let body ← payload
  tryCatch (do resolveQueue (← exchange url body)) fun e => do
    if e.isRemote then
      if (← tx).mode = .longRunning then
        release
        throw e
      else fail e
    else throw e
  modifyTx fun t => { t with queue := [], phase := .committed }
  release

/-- End as rolled back, discarding the queue. -/
def finishRollback : TxM Unit := do
  modifyTx fun t => { t with queue := [], phase := .rolledBack }
  release

/-- Abort the transaction. Without a continuation nothing exists server-side and nothing is
sent; otherwise the continuation is deleted, and server errors in that reply are returned after
the transaction has ended rolled back. -/
def rollback : TxM Unit := do
  ensureActive .rollback
  match (← tx).continuation with
  | none => finishRollback
  | some c =>
    let env ← readBody (← send (.delete c.endpoint))
    finishRollback
    checkServerErrors env.errors

/-- Extend the server-side transaction by posting an empty batch to the continuation; nothing
is sent before the first flush. Queued statements stay queued. -/
def keepAlive : TxM Unit := do
  ensureActive .keepAlive
  ensureLongRunning .keepAlive
  match (← tx).continuation with
  | none => return ()
  | some c =>
    let c ← adoptContinuation (← exchange c.endpoint (requestPayload []))
    modifyTx fun t => { t with continuation := some c }

end Transaction

/-- A call of one of the six operations of a transaction. -/
inductive Call where
  | begin
  | add (statement : Nat)
  | flush
  | commit
  | rollback
  | keepAlive
deriving DecidableEq, Repr

/-- Perform a call. -/
def Call.perform : Call → TxM Unit
  | .begin => Transaction.begin
  | .add r => Transaction.add r
  | .flush => Transaction.flush
  | .commit => Transaction.commit
  | .rollback => Transaction.rollback
  | .keepAlive => Transaction.keepAlive

end GraphWire
