import GraphWire.Proofs.Transaction.Invariant

/-!
# Faults

An operation of an active transaction can fail in three ways, and each leaves the transaction
in its own way.

* A refusal (an operation the transaction's mode does not support, or a statement already
  executed) is raised before anything is done: the scene, wire included, is left as it was.
* Any other local fault (the wire failing, a body that is no envelope, a reply without the
  continuation or expiry a flush or keep-alive needs, fewer fragments than queued statements,
  or an operation the transaction's phase does not allow) fails the transaction: its queue is
  emptied and its binding released, and, in a well-formed transaction, no statement is
  resolved (`localFault_outcome`).
* A remote fault (errors reported by the server) is checked before any continuation is
  adopted and any statement resolved, so no statement changes; what happens to the
  transaction depends on the operation (`rejected_outcome`).

Resolving cannot fail midway here: a round trip starts only when no queued statement is
resolved, and a well-formed queue holds each statement once.
-/

namespace GraphWire

namespace ClientError

/-- Whether an error refuses an operation before it acts. -/
def isRefusal : ClientError → Bool
  | .unsupported _ _ | .alreadyExecuted => true
  | _ => false

end ClientError

/-! ## Local faults -/

namespace Scene

/-- `s'` is `s` after a local fault: the transaction failed, with no queue and no binding, its
table entry undone, and no statement touched. -/
def FailedFrom (s s' : Scene) : Prop :=
  s'.tx = { s.tx with phase := .failed, queue := [], binding := none } ∧
    s'.shared.table = s.release.shared.table ∧ s'.shared.statements = s.shared.statements

theorem failedFrom_failed (s : Scene) : s.FailedFrom s.failed :=
  ⟨failed_tx s, failed_table s, failed_statements s⟩

theorem failedFrom_failed_setWire (s : Scene) (w : Wire) : s.FailedFrom (s.setWire w).failed := by
  rw [failed_setWire]
  exact failedFrom_failed s

/-- The law of local faults for an outcome `o` of an operation run from `s`: a refusal leaves
the scene as it was, and any other local fault fails the transaction. -/
def LocalFaultLaw (s : Scene) (o : Except ClientError Unit × Scene) : Prop :=
  ∀ e, o.1 = .error e → e.isRemote = false →
    (e.isRefusal → o.2 = s) ∧ (e.isRefusal = false → s.FailedFrom o.2)

namespace LocalFaultLaw

variable {s s' : Scene} {e : ClientError}

theorem refusal (h : e.isRefusal) : s.LocalFaultLaw (.error e, s) := by
  intro e' he' _
  cases he'
  exact ⟨fun _ ↦ rfl, fun h' ↦ by simp [h] at h'⟩

theorem failed (h : e.isRefusal = false) (hf : s.FailedFrom s') :
    s.LocalFaultLaw (.error e, s') := by
  intro e' he' _
  cases he'
  exact ⟨fun h' ↦ by simp [h] at h', fun _ ↦ hf⟩

theorem remote (h : e.isRemote) : s.LocalFaultLaw (.error e, s') := by
  intro e' he' hl
  cases he'
  simp [h] at hl

theorem ok : s.LocalFaultLaw (.ok (), s') := by
  intro e' he'
  cases he'

end LocalFaultLaw

end Scene

open Scene Transaction TxM

variable {s : Scene}

/-- The queue of a transaction whose round trip may start holds no resolved statement. -/
theorem unresolved_of_any {ss : Statements} {q : List Nat} (h : ¬q.any ss.isResolved = true) :
    ∀ r ∈ q, ss.isResolved r = false := by
  intro r hr
  simp only [List.any_eq_true, not_exists, not_and] at h
  simpa using h r hr

theorem localFault_begin (ha : s.tx.phase.isTerminal = false) :
    s.LocalFaultLaw (begin.runOn s) := by
  rw [runOn_begin]
  simp only [ha, Bool.false_eq_true, ↓reduceIte]
  split
  · exact .refusal rfl
  split
  · exact .failed rfl (failedFrom_failed s)
  · exact .ok

theorem localFault_add (r : Nat) (ha : s.tx.phase.isTerminal = false) :
    s.LocalFaultLaw ((add r).runOn s) := by
  rw [runOn_add]
  simp only [ha, Bool.false_eq_true, ↓reduceIte]
  split
  · exact .failed rfl (failedFrom_failed s)
  split
  · exact .refusal rfl
  · exact .ok

theorem localFault_flush (hw : s.tx.WellFormed) (ha : s.tx.phase.isTerminal = false) :
    s.LocalFaultLaw (flush.runOn s) := by
  rw [runOn_flush]
  simp only [ha, Bool.false_eq_true, ↓reduceIte]
  split
  · exact .refusal rfl
  split
  · exact .failed rfl (failedFrom_failed s)
  split
  · exact .refusal rfl
  rename_i hR
  rcases s.shared.wire.send _ with ⟨reply, w⟩
  dsimp only
  rcases hA : Answer.of reply with e | e | ⟨env, e⟩ | env <;> dsimp only
  · exact .failed rfl (failedFrom_failed_setWire s w)
  · exact .failed rfl (failedFrom_failed_setWire s w)
  · exact .remote (Answer.isRemote_of_rejected hA)
  · rcases env.continuation with e | _ | c <;> dsimp only
    · exact .failed rfl (failedFrom_failed_setWire s w)
    · exact .failed rfl (failedFrom_failed_setWire s w)
    · -- every queued statement is unresolved and queued once, so resolving fails only on a
      -- short reply, before any slot is written
      rw [runOn_resolveQueue env (s.setWire w) hw.queue_nodup (unresolved_of_any hR)]
      by_cases hlen : s.tx.queue.length ≤ env.results.length
      · rw [setWire_tx, if_pos hlen]
        exact .ok
      · rw [setWire_tx, if_neg hlen]
        exact .failed rfl (failedFrom_failed_setWire s w)

theorem localFault_commit (hw : s.tx.WellFormed) (ha : s.tx.phase.isTerminal = false) :
    s.LocalFaultLaw (commit.runOn s) := by
  rw [runOn_commit]
  simp only [ha, Bool.false_eq_true, ↓reduceIte]
  split
  · exact .failed rfl (failedFrom_failed s)
  split
  · exact .refusal rfl
  rename_i hR
  rcases s.shared.wire.send _ with ⟨reply, w⟩
  dsimp only
  rcases hA : Answer.of reply with e | e | ⟨env, e⟩ | env <;> dsimp only
  · exact .failed rfl (failedFrom_failed_setWire s w)
  · exact .failed rfl (failedFrom_failed_setWire s w)
  · split
    · exact .remote (Answer.isRemote_of_rejected hA)
    · exact .remote (Answer.isRemote_of_rejected hA)
  · rw [runOn_resolveQueue env (s.setWire w) hw.queue_nodup (unresolved_of_any hR)]
    by_cases hlen : s.tx.queue.length ≤ env.results.length
    · rw [setWire_tx, if_pos hlen]
      exact .ok
    · rw [setWire_tx, if_neg hlen]
      exact .failed rfl (failedFrom_failed_setWire s w)

theorem localFault_rollback (ha : s.tx.phase.isTerminal = false) :
    s.LocalFaultLaw (rollback.runOn s) := by
  rw [runOn_rollback]
  simp only [ha, Bool.false_eq_true, ↓reduceIte]
  rcases s.tx.continuation with _ | c <;> dsimp only
  · exact .ok
  rcases s.shared.wire.send _ with ⟨reply, w⟩
  dsimp only
  rcases hA : Answer.of reply with e | e | ⟨env, e⟩ | env <;> dsimp only
  · exact .failed rfl (failedFrom_failed_setWire s w)
  · exact .failed rfl (failedFrom_failed_setWire s w)
  · exact .remote (Answer.isRemote_of_rejected hA)
  · exact .ok

theorem localFault_keepAlive (ha : s.tx.phase.isTerminal = false) :
    s.LocalFaultLaw (keepAlive.runOn s) := by
  rw [runOn_keepAlive]
  simp only [ha, Bool.false_eq_true, ↓reduceIte]
  split
  · exact .refusal rfl
  rcases s.tx.continuation with _ | c <;> dsimp only
  · exact .ok
  rcases s.shared.wire.send _ with ⟨reply, w⟩
  dsimp only
  rcases hA : Answer.of reply with e | e | ⟨env, e⟩ | env <;> dsimp only
  · exact .failed rfl (failedFrom_failed_setWire s w)
  · exact .failed rfl (failedFrom_failed_setWire s w)
  · exact .remote (Answer.isRemote_of_rejected hA)
  · rcases env.continuation with e | _ | c' <;> dsimp only
    · exact .failed rfl (failedFrom_failed_setWire s w)
    · exact .failed rfl (failedFrom_failed_setWire s w)
    · exact .ok

theorem localFault_perform (c : Call) (hw : s.tx.WellFormed) (ha : s.tx.phase.isTerminal = false) :
    s.LocalFaultLaw (c.perform.runOn s) := by
  cases c with
  | begin => exact localFault_begin ha
  | add r => exact localFault_add r ha
  | flush => exact localFault_flush hw ha
  | commit => exact localFault_commit hw ha
  | rollback => exact localFault_rollback ha
  | keepAlive => exact localFault_keepAlive ha

/-- In a well-formed active transaction, a local fault of any operation either refuses it and
leaves the scene exactly as it was, wire included, or fails the transaction: failed, with no
queue and no binding, its table entry undone, and every statement as it was. -/
theorem localFault_outcome (c : Call) (hw : s.tx.WellFormed) (ha : s.tx.phase.isTerminal = false)
    {e : ClientError} (he : (c.perform.runOn s).1 = .error e) (hl : e.isRemote = false) :
    (e.isRefusal → (c.perform.runOn s).2 = s) ∧
      (e.isRefusal = false →
        (c.perform.runOn s).2.tx = { s.tx with phase := .failed, queue := [], binding := none } ∧
          (c.perform.runOn s).2.shared.table = s.release.shared.table ∧
          (c.perform.runOn s).2.shared.statements = s.shared.statements) :=
  localFault_perform c hw ha e he hl

/-- Beginning a begun long-running transaction is a local fault that fails it. -/
theorem localFault_outcome_begin_twice :
    let s : Scene :=
      ⟨{ longRunning 0 (Endpoints.ofBase "http://localhost:7474") none with begun := true },
        ⟨.unreachable, .empty, .empty⟩⟩
    s.tx.WellFormed ∧ s.tx.phase.isTerminal = false ∧
      (Call.begin.perform.runOn s).1 = .error (.illegalState .begin .open .alreadyBegun) ∧
      (Call.begin.perform.runOn s).2.tx = { s.tx with phase := .failed, queue := [], binding := none } :=
  have hw := (wellFormed_fresh 0 .longRunning (Endpoints.ofBase "http://localhost:7474") none
    (by simp)).setBegun rfl
  ⟨hw, rfl, rfl, ((localFault_outcome .begin hw rfl rfl rfl).2 rfl).1⟩

/-! ## Remote faults -/

/-- The errors a server reports become one remote fault that carries them in the server's
order: a single statement error for one, an aggregate for several. -/
theorem ClientError.ofServerErrors_spec {es : List ServerError} {e : ClientError}
    (h : ClientError.ofServerErrors es = some e) :
    e.isRemote ∧ e.serverErrors = es ∧ (e.kind = "RemoteStatement" ↔ es.length = 1) := by
  match es, h with
  | [x], h =>
    cases h
    exact ⟨rfl, rfl, iff_of_true rfl rfl⟩
  | x :: y :: rest, h =>
    cases h
    -- two errors or more make a multiple remote fault, whose kind is not a single one's
    exact ⟨rfl, rfl, iff_of_false (by decide : "RemoteMulti" ≠ "RemoteStatement") (by simp)⟩

theorem ClientError.ofServerErrors_of_ne_nil {es : List ServerError} (h : es ≠ []) :
    ∃ e, ClientError.ofServerErrors es = some e := by
  match es with
  | [x] => exact ⟨_, rfl⟩
  | x :: y :: rest => exact ⟨_, rfl⟩

theorem Wire.send_eq_of_reply {w : Wire} {r : Request} {reply : Reply} (h : (w.send r).1 = reply) :
    w.send r = (reply, (w.send r).2) := by
  rw [← h]

theorem Answer.of_rejected {body : String} {env : Envelope} {e : ClientError}
    (henv : Envelope.ofBody body = .ok env) (he : ClientError.ofServerErrors env.errors = some e) :
    Answer.of (.ok body) = .rejected env e := by
  simp [Answer.of, henv, he]

section Rejected

variable {req : Request} {body : String} {env : Envelope} {e : ClientError}
  (hrep : (s.shared.wire.send req).1 = .ok body) (henv : Envelope.ofBody body = .ok env)
  (he : ClientError.ofServerErrors env.errors = some e)

include hrep henv he

/-- A flush whose request is rejected by the server only moves the wire on. -/
theorem runOn_flush_rejected (hreq : Call.flush.request s = some req) :
    flush.runOn s = (.error e, s.setWire (s.shared.wire.send req).2) := by
  obtain ⟨hT, ⟨hM, hB, hR⟩, rfl⟩ := by simpa [Call.request] using hreq
  have hR' : s.tx.queue.any s.shared.statements.isResolved = false := List.any_eq_false.2 (by simpa)
  rw [runOn_flush, Wire.send_eq_of_reply hrep]
  simp only [hT, hM, hB, hR', ne_eq, not_true_eq_false, Bool.false_eq_true, Bool.true_eq_false,
    ↓reduceIte, Answer.of_rejected henv he]

/-- A commit whose request is rejected by the server drops the binding of a long-running
transaction, and fails an atomic one. -/
theorem runOn_commit_rejected (hreq : Call.commit.request s = some req) :
    commit.runOn s =
      (.error e, if s.tx.mode = .longRunning then (s.setWire (s.shared.wire.send req).2).release
        else (s.setWire (s.shared.wire.send req).2).failed) := by
  obtain ⟨hT, ⟨hB, hR⟩, rfl⟩ := by simpa [Call.request] using hreq
  have hg : ¬(s.tx.mode = .longRunning ∧ s.tx.begun = false) := fun ⟨hm, hb⟩ ↦ by
    simp [hB hm] at hb
  have hR' : s.tx.queue.any s.shared.statements.isResolved = false := List.any_eq_false.2 (by simpa)
  rw [runOn_commit, Wire.send_eq_of_reply hrep]
  simp only [hT, hg, hR', Bool.false_eq_true, ↓reduceIte, Answer.of_rejected henv he]
  split <;> rfl

/-- A rollback whose request is rejected by the server still rolls back. -/
theorem runOn_rollback_rejected (hreq : Call.rollback.request s = some req) :
    rollback.runOn s = (.error e, (s.setWire (s.shared.wire.send req).2).rolledBack) := by
  obtain ⟨hT, c, hc, rfl⟩ := by simpa [Call.request] using hreq
  rw [runOn_rollback]
  simp only [hT, hc, Bool.false_eq_true, ↓reduceIte]
  rw [Wire.send_eq_of_reply hrep]
  simp only [Answer.of_rejected henv he]

/-- A keep-alive whose request is rejected by the server only moves the wire on. -/
theorem runOn_keepAlive_rejected (hreq : Call.keepAlive.request s = some req) :
    keepAlive.runOn s = (.error e, s.setWire (s.shared.wire.send req).2) := by
  obtain ⟨hT, hM, c, hc, rfl⟩ := by simpa [Call.request] using hreq
  rw [runOn_keepAlive]
  simp only [hT, hM, hc, ne_eq, not_true_eq_false, Bool.false_eq_true, ↓reduceIte]
  rw [Wire.send_eq_of_reply hrep]
  simp only [Answer.of_rejected henv he]

end Rejected

/-- When a flush, keep-alive, commit or rollback sends its request and the reply is an envelope
with server errors, the operation fails with the remote fault carrying those errors in order
(a statement error for one, an aggregate for several), no statement changes, even when the
envelope also carries results and a continuation; a flush or keep-alive leaves the
transaction and the table as they were, a long-running commit only drops its binding, an
atomic commit fails, and a rollback still rolls back. -/
theorem rejected_outcome (c : Call) {req : Request} {body : String} {env : Envelope}
    (hreq : c.request s = some req) (hrep : (s.shared.wire.send req).1 = .ok body)
    (henv : Envelope.ofBody body = .ok env) (herr : env.errors ≠ []) :
    ∃ e, (c.perform.runOn s).1 = .error e ∧ e.isRemote ∧ e.serverErrors = env.errors ∧
      (e.kind = "RemoteStatement" ↔ env.errors.length = 1) ∧
      (c.perform.runOn s).2.shared.statements = s.shared.statements ∧
      (c = .flush ∨ c = .keepAlive →
        (c.perform.runOn s).2.tx = s.tx ∧ (c.perform.runOn s).2.shared.table = s.shared.table) ∧
      (c = .commit → s.tx.mode = .longRunning →
        (c.perform.runOn s).2.tx = { s.tx with binding := none } ∧
          (c.perform.runOn s).2.shared.table = s.release.shared.table) ∧
      (c = .commit → s.tx.mode = .atomic →
        (c.perform.runOn s).2.tx = { s.tx with phase := .failed, queue := [], binding := none } ∧
          (c.perform.runOn s).2.shared.table = s.release.shared.table) ∧
      (c = .rollback →
        (c.perform.runOn s).2.tx = { s.tx with queue := [], phase := .rolledBack, binding := none } ∧
          (c.perform.runOn s).2.shared.table = s.release.shared.table) := by
  obtain ⟨e, he⟩ := ClientError.ofServerErrors_of_ne_nil herr
  obtain ⟨hremote, herrors, hkind⟩ := ClientError.ofServerErrors_spec he
  cases c with
  | begin => simp [Call.request] at hreq
  | add r => simp [Call.request] at hreq
  | flush =>
    rw [Call.perform, runOn_flush_rejected hrep henv he hreq]
    exact ⟨e, rfl, hremote, herrors, hkind, rfl, fun _ ↦ ⟨rfl, rfl⟩, by simp, by simp, by simp⟩
  | keepAlive =>
    rw [Call.perform, runOn_keepAlive_rejected hrep henv he hreq]
    exact ⟨e, rfl, hremote, herrors, hkind, rfl, fun _ ↦ ⟨rfl, rfl⟩, by simp, by simp, by simp⟩
  | commit =>
    rw [Call.perform, runOn_commit_rejected hrep henv he hreq]
    refine ⟨e, rfl, hremote, herrors, hkind, ?_, by simp, fun _ hm ↦ ?_, fun _ hm ↦ ?_, by simp⟩
    · split <;> simp
    · simp [hm, release_setWire]
    · simp [hm, failed_setWire, failed_table]
  | rollback =>
    rw [Call.perform, runOn_rollback_rejected hrep henv he hreq]
    refine ⟨e, rfl, hremote, herrors, hkind, by simp, by simp, by simp, by simp, fun _ ↦ ?_⟩
    simp [rolledBack_setWire, rolledBack_table]

/-- A flush of one statement rejected by the server, in an envelope that also names a commit
URL, fails with the server's error and leaves the transaction and the statement as they were. -/
theorem rejected_outcome_flush :
    let st := Statement.row "RETURN"
    let body := "\x7b\"commit\":\"http://h/transaction/7/commit\"," ++
      "\"errors\":[\x7b\"code\":\"Neo.ClientError.Statement.SyntaxError\",\"message\":\"bad\"\x7d]\x7d"
    let s : Scene :=
      ⟨{ longRunning 0 (Endpoints.ofBase "http://h") none with begun := true, queue := [0] },
        ⟨.scripted [.ok body] [], ⟨[st]⟩, .empty⟩⟩
    let req := Request.post "http://h/transaction" (requestPayload [st])
    let env : Envelope := ⟨some "http://h/transaction/7/commit", none, [],
      [⟨"Neo.ClientError.Statement.SyntaxError", "bad"⟩]⟩
    Call.flush.request s = some req ∧ (s.shared.wire.send req).1 = .ok body ∧
      Envelope.ofBody body = .ok env ∧ env.errors ≠ [] ∧
      ∃ e, (Call.flush.perform.runOn s).1 = .error e ∧ e.serverErrors = env.errors ∧
        (Call.flush.perform.runOn s).2.tx = s.tx ∧
        (Call.flush.perform.runOn s).2.shared.statements = s.shared.statements := by
  intro st body s req env
  have hreq : Call.flush.request s = some req := rfl
  have hrep : (s.shared.wire.send req).1 = .ok body := rfl
  have henv : Envelope.ofBody body = .ok env := by
    simp only [body, env]
    set_option maxRecDepth 4000 in rfl
  have herr : env.errors ≠ [] := by simp [env]
  obtain ⟨e, he, _, herrors, _, hst, hflush, _⟩ := rejected_outcome .flush hreq hrep henv herr
  exact ⟨hreq, hrep, henv, herr, e, he, herrors, (hflush (.inl rfl)).1, hst⟩

end GraphWire
