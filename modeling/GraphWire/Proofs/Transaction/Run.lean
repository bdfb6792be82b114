import GraphWire.Transaction.Steps

/-!
# Running the operations of a transaction

An operation of a transaction is a computation in `TxM`: it reads and changes a `Scene`, and it
may stop with a client error, keeping what it changed before. This file gives the equations
that run such computations, so that later proofs rewrite with them and never unfold an
operation again:

* the run-equations of the monad's primitives (`pure`, `bind`, `throw`, `get`, `set`,
  `modify`, `tryCatch`);
* one equation per helper of `TxM`, and what resolving the queue does, first for any store
  (`resolveQueue_outcome`) and then for a queue of distinct, unresolved statements, where it
  fills each of them from the fragment at its position (`runOn_resolveQueue`);
* one equation per operation (`runOn_begin` … `runOn_keepAlive`), showing its checks in the
  order the code makes them and then its round trip, with the reply read as an `Answer`.

A reply is lost (a transport error), garbled (a body that is no envelope), rejected (an envelope
that carries server errors) or accepted.
-/

namespace GraphWire

/-! ## Scenes -/

namespace Scene

/-- The scene with the wire moved on. -/
def setWire (s : Scene) (w : Wire) : Scene := { s with shared := { s.shared with wire := w } }

/-- The scene with other statements. -/
def setStatements (s : Scene) (ss : Statements) : Scene :=
  { s with shared := { s.shared with statements := ss } }

/-- The scene after a rollback: no queue, rolled back, no binding. -/
def rolledBack (s : Scene) : Scene :=
  release { s with tx := { s.tx with queue := [], phase := .rolledBack } }

@[simp] theorem setWire_tx (s : Scene) (w : Wire) : (s.setWire w).tx = s.tx := rfl

@[simp] theorem setWire_statements (s : Scene) (w : Wire) :
    (s.setWire w).shared.statements = s.shared.statements := rfl

@[simp] theorem setWire_table (s : Scene) (w : Wire) :
    (s.setWire w).shared.table = s.shared.table := rfl

@[simp] theorem setWire_wire (s : Scene) (w : Wire) : (s.setWire w).shared.wire = w := rfl

@[simp] theorem setStatements_tx (s : Scene) (ss : Statements) : (s.setStatements ss).tx = s.tx :=
  rfl

@[simp] theorem setStatements_statements (s : Scene) (ss : Statements) :
    (s.setStatements ss).shared.statements = ss := rfl

@[simp] theorem setStatements_wire (s : Scene) (ss : Statements) :
    (s.setStatements ss).shared.wire = s.shared.wire := rfl

@[simp] theorem setStatements_self (s : Scene) : s.setStatements s.shared.statements = s := rfl

@[simp] theorem setStatements_setStatements (s : Scene) (ss ss' : Statements) :
    (s.setStatements ss).setStatements ss' = s.setStatements ss' := rfl

/-- Releasing drops the binding and touches nothing else of the transaction. -/
@[simp] theorem release_tx (s : Scene) : s.release.tx = { s.tx with binding := none } := by
  unfold release
  split
  · rename_i h
    rw [← h]
  · rfl

@[simp] theorem release_statements (s : Scene) :
    s.release.shared.statements = s.shared.statements := by
  unfold release
  split <;> rfl

@[simp] theorem release_wire (s : Scene) : s.release.shared.wire = s.shared.wire := by
  unfold release
  split <;> rfl

/-- A failed transaction has no queue and no binding. -/
@[simp] theorem failed_tx (s : Scene) :
    s.failed.tx = { s.tx with phase := .failed, queue := [], binding := none } := by
  simp [failed]

@[simp] theorem failed_statements (s : Scene) : s.failed.shared.statements = s.shared.statements := by
  simp [failed]

@[simp] theorem failed_wire (s : Scene) : s.failed.shared.wire = s.shared.wire := by
  simp [failed]

/-- Failing undoes the binding's table entry as releasing does. -/
theorem failed_table (s : Scene) : s.failed.shared.table = s.release.shared.table := by
  simp only [failed, release]
  split <;> simp_all

@[simp] theorem rolledBack_tx (s : Scene) :
    s.rolledBack.tx = { s.tx with queue := [], phase := .rolledBack, binding := none } := by
  simp [rolledBack]

@[simp] theorem rolledBack_statements (s : Scene) :
    s.rolledBack.shared.statements = s.shared.statements := by
  simp [rolledBack]

theorem rolledBack_table (s : Scene) : s.rolledBack.shared.table = s.release.shared.table := by
  simp only [rolledBack, release]
  split <;> simp_all

/-! Moving the wire on commutes with ending a transaction, which never touches the wire. -/

theorem release_setWire (s : Scene) (w : Wire) : (s.setWire w).release = s.release.setWire w := by
  cases h : s.tx.binding <;> simp [release, setWire, h]

theorem failed_setWire (s : Scene) (w : Wire) : (s.setWire w).failed = s.failed.setWire w := by
  cases h : s.tx.binding <;> simp [failed, release, setWire, h]

theorem rolledBack_setWire (s : Scene) (w : Wire) :
    (s.setWire w).rolledBack = s.rolledBack.setWire w := by
  cases h : s.tx.binding <;> simp [rolledBack, release, setWire, h]

end Scene

/-! ## Replies -/

/-- What the reply to a request amounts to. -/
inductive Answer where
  | lost (e : TransportError)
  | garbled (e : ProtocolError)
  | rejected (env : Envelope) (e : ClientError)
  | accepted (env : Envelope)

/-- Read a reply. -/
def Answer.of : Reply → Answer
  | .error e => .lost e
  | .ok body =>
    match Envelope.ofBody body with
    | .error e => .garbled e
    | .ok env =>
      match ClientError.ofServerErrors env.errors with
      | some e => .rejected env e
      | none => .accepted env

/-- The errors of a server are a remote fault. -/
theorem ClientError.isRemote_of_ofServerErrors {es : List ServerError} {e : ClientError}
    (h : ClientError.ofServerErrors es = some e) : e.isRemote := by
  unfold ClientError.ofServerErrors at h
  split at h <;> cases h <;> rfl

theorem Answer.isRemote_of_rejected {reply : Reply} {env : Envelope} {e : ClientError}
    (h : Answer.of reply = .rejected env e) : e.isRemote := by
  unfold Answer.of at h
  split at h
  · cases h
  · split at h
    · cases h
    · split at h
      · cases h
        exact ClientError.isRemote_of_ofServerErrors ‹_›
      · cases h

/-! ## Filling result slots -/

/-- The statement holding the result of a fragment: the row set of a row statement or the
graph of a graph statement, and the fragment's statistics if it asked for them. -/
def Statement.filled (st : Statement) (f : Fragment) : Statement :=
  { st with
    slot := match st.slot with
      | .rows _ => .rows (some (RowSet.ofFragment f))
      | .graph _ => .graph (some (Graph.ofFragment f))
    stats := if st.includeStats then f.stats else none }

theorem Statement.resolve_eq (st : Statement) (f : Fragment) :
    st.resolve f = if st.isResolved then .error .resultAlreadySet else .ok (st.filled f) := rfl

@[simp] theorem Statement.isResolved_filled (st : Statement) (f : Fragment) :
    (st.filled f).isResolved := by
  cases h : st.slot <;> simp [filled, isResolved, h, Slot.isFilled]

namespace Statements

/-- Fill the statement under a reference from a fragment, as the write-once slot does when it is
still empty. -/
def fill (ss : Statements) (r : Nat) (f : Fragment) : Statements :=
  match ss.get? r with
  | none => ss
  | some st => ss.set r (st.filled f)

/-- Fill the statements under some references from the fragments at their positions; fragments
beyond the references are ignored. -/
def fillAll (ss : Statements) (rs : List Nat) (fs : List Fragment) : Statements :=
  (rs.zip fs).foldl (fun ss p ↦ ss.fill p.1 p.2) ss

theorem get?_fill_ne (ss : Statements) {r r' : Nat} (f : Fragment) (h : r ≠ r') :
    (ss.fill r f).get? r' = ss.get? r' := by
  unfold fill
  split
  · rfl
  · simp [get?, set, List.getElem?_set_ne h]

theorem get?_fill_self (ss : Statements) (r : Nat) (f : Fragment) :
    (ss.fill r f).get? r = (ss.get? r).map (·.filled f) := by
  unfold fill
  split
  · simp_all
  · rename_i st h
    obtain ⟨hr, rfl⟩ := List.getElem?_eq_some_iff.1 h
    simp [get?, set, hr]

theorem fillAll_cons (ss : Statements) (r : Nat) (rs : List Nat) (f : Fragment)
    (fs : List Fragment) : ss.fillAll (r :: rs) (f :: fs) = (ss.fill r f).fillAll rs fs := rfl

/-- Filling a batch leaves alone every statement outside it. -/
theorem get?_fillAll_of_not_mem (ss : Statements) {rs : List Nat} (fs : List Fragment) {r : Nat}
    (h : r ∉ rs) : (ss.fillAll rs fs).get? r = ss.get? r := by
  induction rs generalizing ss fs with
  | nil => rfl
  | cons r' rs ih =>
    cases fs with
    | nil => rfl
    | cons f fs =>
      have hne : r' ≠ r := fun h' ↦ h (h' ▸ List.mem_cons_self)
      rw [fillAll_cons, ih _ _ (fun h' ↦ h (List.mem_cons_of_mem _ h')), get?_fill_ne _ _ hne]

/-- Filling a batch of distinct references fills the statement at position `i` from the
fragment at position `i`. -/
theorem get?_fillAll_of_getElem? (ss : Statements) {rs : List Nat} {fs : List Fragment}
    (hnd : rs.Nodup) {i r : Nat} {f : Fragment} (hr : rs[i]? = some r) (hf : fs[i]? = some f) :
    (ss.fillAll rs fs).get? r = (ss.get? r).map (·.filled f) := by
  induction rs generalizing ss fs i with
  | nil => simp at hr
  | cons r' rs ih =>
    obtain ⟨hr', hnd'⟩ := List.nodup_cons.1 hnd
    cases fs with
    | nil => simp at hf
    | cons f' fs =>
      rw [fillAll_cons]
      cases i with
      | zero =>
        -- the head of the batch is filled first and never again
        obtain rfl : r' = r := by simpa using hr
        obtain rfl : f' = f := by simpa using hf
        rw [get?_fillAll_of_not_mem _ _ hr', get?_fill_self]
      | succ i =>
        rw [List.getElem?_cons_succ] at hr hf
        have hne : r' ≠ r := fun h ↦ hr' (h ▸ List.mem_of_getElem? hr)
        rw [ih _ hnd' hr hf, get?_fill_ne _ _ hne]

end Statements

/-! ## Running `TxM` -/

namespace TxM

variable {α β : Type}

@[simp] theorem runOn_pure (a : α) (s : Scene) : (pure a : TxM α).runOn s = (.ok a, s) := rfl

@[simp] theorem runOn_bind (x : TxM α) (f : α → TxM β) (s : Scene) :
    (x >>= f).runOn s = match x.runOn s with
      | (.ok a, s') => (f a).runOn s'
      | (.error e, s') => (.error e, s') := by
  simp only [runOn, bind, ExceptT.bind, ExceptT.run, ExceptT.mk, StateT.run, StateT.bind]
  rcases x s with ⟨_ | _, _⟩ <;> rfl

@[simp] theorem runOn_throw (e : ClientError) (s : Scene) :
    (throw e : TxM α).runOn s = (.error e, s) := rfl

@[simp] theorem runOn_get (s : Scene) : (get : TxM Scene).runOn s = (.ok s, s) := rfl

@[simp] theorem runOn_set (s s' : Scene) : (set s' : TxM Unit).runOn s = (.ok (), s') := rfl

@[simp] theorem runOn_modify (f : Scene → Scene) (s : Scene) :
    (modify f : TxM Unit).runOn s = (.ok (), f s) := rfl

@[simp] theorem runOn_tryCatch (x : TxM α) (h : ClientError → TxM α) (s : Scene) :
    (tryCatch x h).runOn s = match x.runOn s with
      | (.ok a, s') => (.ok a, s')
      | (.error e, s') => (h e).runOn s' := by
  simp only [runOn, tryCatch, tryCatchThe, MonadExceptOf.tryCatch, ExceptT.tryCatch, ExceptT.run,
    ExceptT.mk, StateT.run, bind, StateT.bind]
  rcases x s with ⟨_ | _, _⟩ <;> rfl

@[simp] theorem runOn_tx (s : Scene) : tx.runOn s = (.ok s.tx, s) := rfl

@[simp] theorem runOn_modifyTx (f : Transaction → Transaction) (s : Scene) :
    (modifyTx f).runOn s = (.ok (), { s with tx := f s.tx }) := rfl

@[simp] theorem runOn_release (s : Scene) : release.runOn s = (.ok (), s.release) := rfl

@[simp] theorem runOn_fail (e : ClientError) (s : Scene) :
    (fail e : TxM α).runOn s = (.error e, s.failed) := rfl

@[simp] theorem runOn_illegal (op : Operation) (why : Refusal) (s : Scene) :
    (illegal op why : TxM α).runOn s = (.error (.illegalState op s.tx.phase why), s.failed) := rfl

@[simp] theorem runOn_ensureActive (op : Operation) (s : Scene) :
    (ensureActive op).runOn s =
      if s.tx.phase.isTerminal then (.error (.illegalState op s.tx.phase .finalized), s)
      else (.ok (), s) := by
  simp only [ensureActive, runOn_bind, runOn_tx]
  split <;> rfl

@[simp] theorem runOn_ensureLongRunning (op : Operation) (s : Scene) :
    (ensureLongRunning op).runOn s =
      if s.tx.mode ≠ .longRunning then (.error (.unsupported op s.tx.mode), s) else (.ok (), s) := by
  simp only [ensureLongRunning, runOn_bind, runOn_tx]
  split <;> rfl

@[simp] theorem runOn_ensureBegun (op : Operation) (s : Scene) :
    (ensureBegun op).runOn s =
      if s.tx.mode = .longRunning ∧ s.tx.begun = false then
        (.error (.illegalState op s.tx.phase (.notBegun op)), s.failed)
      else (.ok (), s) := by
  simp only [ensureBegun, runOn_bind, runOn_tx]
  split <;> rfl

@[simp] theorem runOn_ensureQueueUnexecuted (s : Scene) :
    ensureQueueUnexecuted.runOn s =
      if s.tx.queue.any s.shared.statements.isResolved then (.error .alreadyExecuted, s)
      else (.ok (), s) := by
  simp only [ensureQueueUnexecuted, runOn_bind, runOn_get]
  split <;> rfl

@[simp] theorem runOn_payload (s : Scene) :
    payload.runOn s = (.ok (requestPayload (s.shared.statements.collect s.tx.queue)), s) := rfl

theorem runOn_send (r : Request) (s : Scene) :
    (send r).runOn s =
      match s.shared.wire.send r with
      | (.ok body, w) => (.ok body, s.setWire w)
      | (.error e, w) => (.error (.transport e), (s.setWire w).failed) := by
  simp only [send, runOn_bind, runOn_get, runOn_set]
  rcases s.shared.wire.send r with ⟨_ | _, _⟩ <;> rfl

/-- One POST: its reply read, the wire moved on, and a lost or garbled reply failing the
transaction. -/
theorem runOn_exchange (url : String) (body : Json) (s : Scene) :
    (exchange url body).runOn s =
      match s.shared.wire.send (.post url body) with
      | (reply, w) =>
        match Answer.of reply with
        | .lost e => (.error (.transport e), (s.setWire w).failed)
        | .garbled e => (.error (.protocol e), (s.setWire w).failed)
        | .rejected _ e => (.error e, s.setWire w)
        | .accepted env => (.ok env, s.setWire w) := by
  simp only [exchange, runOn_bind, runOn_send]
  rcases s.shared.wire.send (.post url body) with ⟨_ | body, w⟩
  · rfl
  · simp only [readBody, Answer.of]
    rcases Envelope.ofBody body with _ | env
    · rfl
    · simp only [runOn_pure, checkServerErrors]
      rcases ClientError.ofServerErrors env.errors with _ | e <;> rfl

theorem runOn_adoptContinuation (env : Envelope) (s : Scene) :
    (adoptContinuation env).runOn s =
      match env.continuation with
      | .ok (some c) => (.ok c, s)
      | .ok none => (.error (.protocol .missingContinuation), s.failed)
      | .error e => (.error (.protocol e), s.failed) := by
  simp only [adoptContinuation]
  rcases env.continuation with _ | _ | c <;> rfl

theorem runOn_resolveOne (r : Nat) (f : Fragment) (s : Scene) :
    (resolveOne r f).runOn s =
      match s.shared.statements.get? r with
      | none => (.ok (), s)
      | some st =>
        if st.isResolved then (.error (.protocol .resultAlreadySet), s.failed)
        else (.ok (), s.setStatements (s.shared.statements.fill r f)) := by
  simp only [resolveOne, runOn_bind, runOn_get, Statements.fill]
  rcases h : s.shared.statements.get? r with _ | st
  · rfl
  · simp only [Statement.resolve_eq]
    cases st.isResolved <;> rfl

/-- Resolving references none of which is resolved, each once, fills them all. -/
theorem runOn_forM_resolveOne (ps : List (Nat × Fragment)) (s : Scene)
    (hnd : (ps.map Prod.fst).Nodup)
    (hu : ∀ p ∈ ps, s.shared.statements.isResolved p.1 = false) :
    (ps.forM fun p ↦ resolveOne p.1 p.2).runOn s =
      (.ok (), s.setStatements (ps.foldl (fun ss p ↦ ss.fill p.1 p.2) s.shared.statements)) := by
  induction ps generalizing s with
  | nil => rfl
  | cons p ps ih =>
    simp only [List.map_cons, List.nodup_cons, List.mem_map] at hnd
    have hp : s.shared.statements.isResolved p.1 = false := hu p (List.mem_cons_self ..)
    have hrest : ∀ q ∈ ps,
        (s.setStatements (s.shared.statements.fill p.1 p.2)).shared.statements.isResolved q.1 =
          false := by
      intro q hq
      have hne : p.1 ≠ q.1 := fun h ↦ hnd.1 ⟨q, hq, h.symm⟩
      simpa [Statements.isResolved, Statements.get?_fill_ne _ _ hne] using
        hu q (List.mem_cons_of_mem _ hq)
    simp only [List.forM_eq_forM, List.forM_cons, runOn_bind, runOn_resolveOne, List.foldl_cons]
    rcases h : s.shared.statements.get? p.1 with _ | st
    · have hfill : s.shared.statements.fill p.1 p.2 = s.shared.statements := by
        simp [Statements.fill, h]
      simpa [hfill] using ih s hnd.2 (by simpa [hfill] using hrest)
    · have hst : st.isResolved = false := by simpa [Statements.isResolved, h] using hp
      simp only [hst, Bool.false_eq_true, ↓reduceIte]
      exact ih _ hnd.2 hrest

/-- Resolving references, whatever the store holds, changes only the statements, unless a
statement already resolved fails the transaction. -/
theorem forM_resolveOne_outcome (ps : List (Nat × Fragment)) (s : Scene) :
    ∃ ss, (ps.forM fun p ↦ resolveOne p.1 p.2).runOn s = (.ok (), s.setStatements ss) ∨
      ∃ e, (ps.forM fun p ↦ resolveOne p.1 p.2).runOn s =
        (.error (.protocol e), (s.setStatements ss).failed) := by
  induction ps generalizing s with
  | nil => exact ⟨s.shared.statements, .inl rfl⟩
  | cons p ps ih =>
    simp only [List.forM_eq_forM, List.forM_cons, runOn_bind, runOn_resolveOne] at ih ⊢
    rcases s.shared.statements.get? p.1 with _ | st
    · exact ih s
    · cases hr : st.isResolved
      · obtain ⟨ss, h⟩ := ih (s.setStatements (s.shared.statements.fill p.1 p.2))
        exact ⟨ss, by simpa [hr] using h⟩
      · exact ⟨s.shared.statements, .inr ⟨.resultAlreadySet, by simp [hr]⟩⟩

/-- Resolving the queue, whatever the store holds, changes only the statements, unless it fails
the transaction with a decoding error. -/
theorem resolveQueue_outcome (env : Envelope) (s : Scene) :
    ∃ ss, (resolveQueue env).runOn s = (.ok (), s.setStatements ss) ∨
      ∃ e, (resolveQueue env).runOn s = (.error (.protocol e), (s.setStatements ss).failed) := by
  simp only [resolveQueue, runOn_bind, runOn_tx]
  split
  · exact forM_resolveOne_outcome _ s
  · exact ⟨s.shared.statements, .inr ⟨.missingFragment _ _, rfl⟩⟩

/-- When the queue holds distinct references none of which is resolved, resolving it fills
every queued statement from the fragment at its position, or, when the reply has fewer
fragments than the queue, fills none and fails the transaction. -/
theorem runOn_resolveQueue (env : Envelope) (s : Scene) (hnd : s.tx.queue.Nodup)
    (hu : ∀ r ∈ s.tx.queue, s.shared.statements.isResolved r = false) :
    (resolveQueue env).runOn s =
      if s.tx.queue.length ≤ env.results.length then
        (.ok (), s.setStatements (s.shared.statements.fillAll s.tx.queue env.results))
      else
        (.error (.protocol (.missingFragment env.results.length env.results.length)),
          s.failed) := by
  simp only [resolveQueue, runOn_bind, runOn_tx]
  split
  · rename_i hlen
    rw [runOn_forM_resolveOne]
    · rfl
    · rwa [List.map_fst_zip hlen]
    · exact fun p hp ↦ hu p.1 (List.of_mem_zip hp).1
  · rfl

end TxM

/-! ## The operations -/

namespace Transaction

open TxM

theorem runOn_begin (s : Scene) :
    begin.runOn s =
      if s.tx.phase.isTerminal then (.error (.illegalState .begin s.tx.phase .finalized), s)
      else if s.tx.mode ≠ .longRunning then (.error (.unsupported .begin s.tx.mode), s)
      else if s.tx.begun then (.error (.illegalState .begin s.tx.phase .alreadyBegun), s.failed)
      else (.ok (), { s with tx := { s.tx with begun := true } }) := by
  simp only [begin, runOn_bind, runOn_ensureActive, runOn_ensureLongRunning, runOn_tx]
  cases s.tx.phase.isTerminal with
  | true => rfl
  | false =>
    by_cases hM : s.tx.mode = .longRunning
    · cases hB : s.tx.begun <;> simp [hM, hB]
    · simp [hM]

theorem runOn_add (r : Nat) (s : Scene) :
    (add r).runOn s =
      if s.tx.phase.isTerminal then (.error (.illegalState .add s.tx.phase .finalized), s)
      else if s.tx.mode = .longRunning ∧ s.tx.begun = false then
        (.error (.illegalState .add s.tx.phase (.notBegun .add)), s.failed)
      else if s.shared.statements.isResolved r || s.tx.queue.contains r then
        (.error .alreadyExecuted, s)
      else (.ok (), { s with tx := { s.tx with queue := s.tx.queue ++ [r] } }) := by
  simp only [add, runOn_bind, runOn_ensureActive, runOn_ensureBegun, runOn_get]
  cases s.tx.phase.isTerminal with
  | true => rfl
  | false =>
    by_cases hB : s.tx.mode = .longRunning ∧ s.tx.begun = false
    · simp [hB]
    · cases hE : (s.shared.statements.isResolved r || s.tx.queue.contains r) <;>
        simp only [hB, hE, ↓reduceIte, Bool.false_eq_true, runOn_bind, runOn_throw,
          runOn_modifyTx]

theorem runOn_flush (s : Scene) :
    flush.runOn s =
      if s.tx.phase.isTerminal then (.error (.illegalState .flush s.tx.phase .finalized), s)
      else if s.tx.mode ≠ .longRunning then (.error (.unsupported .flush s.tx.mode), s)
      else if s.tx.begun = false then
        (.error (.illegalState .flush s.tx.phase (.notBegun .flush)), s.failed)
      else if s.tx.queue.any s.shared.statements.isResolved then (.error .alreadyExecuted, s)
      else
        match s.shared.wire.send
            (.post s.tx.endpoint (requestPayload (s.shared.statements.collect s.tx.queue))) with
        | (reply, w) =>
          match Answer.of reply with
          | .lost e => (.error (.transport e), (s.setWire w).failed)
          | .garbled e => (.error (.protocol e), (s.setWire w).failed)
          | .rejected _ e => (.error e, s.setWire w)
          | .accepted env =>
            match env.continuation with
            | .ok (some c) =>
              match (resolveQueue env).runOn (s.setWire w) with
              | (.ok (), s') =>
                (.ok (), { s' with
                  tx := { s'.tx with continuation := some c, queue := [], phase := .flushed } })
              | (.error e, s') => (.error e, s')
            | .ok none => (.error (.protocol .missingContinuation), (s.setWire w).failed)
            | .error e => (.error (.protocol e), (s.setWire w).failed) := by
  simp only [flush, runOn_bind, runOn_ensureActive, runOn_ensureLongRunning, runOn_ensureBegun,
    runOn_ensureQueueUnexecuted, runOn_tx, runOn_payload, runOn_exchange]
  cases hT : s.tx.phase.isTerminal with
  | true => simp only [↓reduceIte]
  | false =>
    by_cases hM : s.tx.mode = .longRunning
    · cases hB : s.tx.begun with
      | false => simp [hM, hB]
      | true =>
        cases hR : s.tx.queue.any s.shared.statements.isResolved with
        | true => simp [hM, hB, hR]
        | false =>
          simp only [hM, hB, hR, ↓reduceIte, ne_eq, not_true_eq_false, and_false,
            Bool.false_eq_true, Bool.true_eq_false]
          rcases s.shared.wire.send _ with ⟨reply, w⟩
          rcases Answer.of reply with e | e | ⟨env, e⟩ | env
          · rfl
          · rfl
          · rfl
          · simp only [runOn_adoptContinuation]
            rcases env.continuation with e | _ | c
            · rfl
            · rfl
            · simp only
              rcases (resolveQueue env).runOn (s.setWire w) with ⟨_ | ⟨⟩, s'⟩ <;> rfl
    · simp [hM]

/-- Where a commit is sent: the commit URL of the continuation, or where a single round trip
commits at once when there is none. -/
def commitTarget (t : Transaction) : String :=
  match t.continuation with
  | some c => c.commitUrl
  | none => t.endpoints.autocommit

theorem runOn_commit (s : Scene) :
    commit.runOn s =
      if s.tx.phase.isTerminal then (.error (.illegalState .commit s.tx.phase .finalized), s)
      else if s.tx.mode = .longRunning ∧ s.tx.begun = false then
        (.error (.illegalState .commit s.tx.phase (.notBegun .commit)), s.failed)
      else if s.tx.queue.any s.shared.statements.isResolved then (.error .alreadyExecuted, s)
      else
        match s.shared.wire.send
            (.post s.tx.commitTarget (requestPayload (s.shared.statements.collect s.tx.queue))) with
        | (reply, w) =>
          match Answer.of reply with
          | .lost e => (.error (.transport e), (s.setWire w).failed)
          | .garbled e => (.error (.protocol e), (s.setWire w).failed)
          | .rejected _ e =>
            if s.tx.mode = .longRunning then (.error e, (s.setWire w).release)
            else (.error e, (s.setWire w).failed)
          | .accepted env =>
            match (resolveQueue env).runOn (s.setWire w) with
            | (.ok (), s') =>
              (.ok (), Scene.release { s' with tx := { s'.tx with queue := [], phase := .committed } })
            | (.error e, s') => (.error e, s') := by
  simp only [commit, runOn_bind, runOn_ensureActive, runOn_ensureBegun,
    runOn_ensureQueueUnexecuted, runOn_tx, runOn_payload, runOn_tryCatch, runOn_exchange]
  cases hT : s.tx.phase.isTerminal with
  | true => rfl
  | false =>
    by_cases hB : s.tx.mode = .longRunning ∧ s.tx.begun = false
    · simp [hB]
    · cases hR : s.tx.queue.any s.shared.statements.isResolved with
      | true => simp [hB, hR]
      | false =>
        simp only [hB, hR, ↓reduceIte, Bool.false_eq_true]
        -- the URL is a `match` of its own on each side: settle it first
        cases hc : s.tx.continuation <;> simp only [commitTarget, hc]
        all_goals
          rcases s.shared.wire.send _ with ⟨reply, w⟩
          rcases hA : Answer.of reply with e | e | ⟨env, e⟩ | env
          · rfl
          · rfl
          · by_cases hM : s.tx.mode = .longRunning <;>
              simp [Answer.isRemote_of_rejected hA, hM, runOn_bind, runOn_tx]
          · obtain ⟨ss, h | ⟨e, h⟩⟩ := resolveQueue_outcome env (s.setWire w)
            · simp only [h]
              rfl
            · simp only [h, ClientError.isRemote]
              rfl

/-- End rolled back: the queue discarded and the binding released. -/
theorem runOn_finishRollback (s : Scene) : finishRollback.runOn s = (.ok (), s.rolledBack) := rfl

theorem runOn_rollback (s : Scene) :
    rollback.runOn s =
      if s.tx.phase.isTerminal then (.error (.illegalState .rollback s.tx.phase .finalized), s)
      else
        match s.tx.continuation with
        | none => (.ok (), s.rolledBack)
        | some c =>
          match s.shared.wire.send (.delete c.endpoint) with
          | (reply, w) =>
            match Answer.of reply with
            | .lost e => (.error (.transport e), (s.setWire w).failed)
            | .garbled e => (.error (.protocol e), (s.setWire w).failed)
            | .rejected _ e => (.error e, (s.setWire w).rolledBack)
            | .accepted _ => (.ok (), (s.setWire w).rolledBack) := by
  simp only [rollback, runOn_bind, runOn_ensureActive, runOn_tx]
  cases s.tx.phase.isTerminal with
  | true => rfl
  | false =>
    simp only [Bool.false_eq_true, ↓reduceIte]
    rcases s.tx.continuation with _ | c
    · rfl
    · simp only [runOn_bind, runOn_send, runOn_finishRollback]
      rcases s.shared.wire.send (.delete c.endpoint) with ⟨_ | body, w⟩
      · rfl
      · simp only [readBody, Answer.of]
        rcases Envelope.ofBody body with _ | env
        · rfl
        · simp only [runOn_pure, checkServerErrors]
          rcases ClientError.ofServerErrors env.errors with _ | e <;> rfl

theorem runOn_keepAlive (s : Scene) :
    keepAlive.runOn s =
      if s.tx.phase.isTerminal then (.error (.illegalState .keepAlive s.tx.phase .finalized), s)
      else if s.tx.mode ≠ .longRunning then (.error (.unsupported .keepAlive s.tx.mode), s)
      else
        match s.tx.continuation with
        | none => (.ok (), s)
        | some c =>
          match s.shared.wire.send (.post c.endpoint (requestPayload [])) with
          | (reply, w) =>
            match Answer.of reply with
            | .lost e => (.error (.transport e), (s.setWire w).failed)
            | .garbled e => (.error (.protocol e), (s.setWire w).failed)
            | .rejected _ e => (.error e, s.setWire w)
            | .accepted env =>
              match env.continuation with
              | .ok (some c') => (.ok (), { s.setWire w with tx := { s.tx with continuation := some c' } })
              | .ok none => (.error (.protocol .missingContinuation), (s.setWire w).failed)
              | .error e => (.error (.protocol e), (s.setWire w).failed) := by
  simp only [keepAlive, runOn_bind, runOn_ensureActive, runOn_ensureLongRunning, runOn_tx]
  cases s.tx.phase.isTerminal with
  | true => rfl
  | false =>
    by_cases hM : s.tx.mode = .longRunning
    · have hM' : ¬s.tx.mode ≠ .longRunning := fun h ↦ h hM
      simp only [hM', Bool.false_eq_true, ↓reduceIte]
      rcases s.tx.continuation with _ | c
      · rfl
      · simp only [runOn_bind, runOn_exchange]
        rcases s.shared.wire.send _ with ⟨reply, w⟩
        rcases Answer.of reply with e | e | ⟨env, e⟩ | env
        · rfl
        · rfl
        · rfl
        · simp only [runOn_adoptContinuation]
          rcases env.continuation with e | _ | c' <;> rfl
    · simp [hM]

end Transaction

/-! ## What a call sends -/

namespace Call

open Transaction TxM

/-- The operation a call performs. -/
def operation : Call → Operation
  | .begin => .begin
  | .add _ => .add
  | .flush => .flush
  | .commit => .commit
  | .rollback => .rollback
  | .keepAlive => .keepAlive

/-- A finished transaction refuses every call with the phase it ended in, and the scene, wire
included, stays as it was. -/
theorem perform_of_terminal (c : Call) (s : Scene) (h : s.tx.phase.isTerminal) :
    c.perform.runOn s = (.error (.illegalState c.operation s.tx.phase .finalized), s) := by
  cases c <;>
    simp [perform, operation, h, runOn_begin, runOn_add, runOn_flush, runOn_commit,
      runOn_rollback, runOn_keepAlive]

/-- The request a call sends from a scene, if its checks let it send one: a flush posts the
queue to the endpoint, a commit posts it to where the transaction commits, a rollback deletes
the continuation, and a keep-alive posts an empty batch to it. -/
def request (c : Call) (s : Scene) : Option Request :=
  let t := s.tx
  let batch := requestPayload (s.shared.statements.collect t.queue)
  let unexecuted := !t.queue.any s.shared.statements.isResolved
  if t.phase.isTerminal then none
  else
    match c with
    | .begin | .add _ => none
    | .flush =>
      if t.mode = .longRunning ∧ t.begun ∧ unexecuted then some (.post t.endpoint batch) else none
    | .commit =>
      if ¬(t.mode = .longRunning ∧ t.begun = false) ∧ unexecuted then
        some (.post t.commitTarget batch)
      else none
    | .rollback => t.continuation.map fun c ↦ .delete c.endpoint
    | .keepAlive =>
      if t.mode = .longRunning then t.continuation.map fun c ↦ .post c.endpoint (requestPayload [])
      else none

end Call

end GraphWire
