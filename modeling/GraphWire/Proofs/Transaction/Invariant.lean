import GraphWire.Proofs.Transaction.Run

/-!
# Well-formed transactions

The parts of a transaction are tied together: a finished transaction holds no queue and no
binding; only a begun long-running transaction has a continuation, and while it is active it
has one exactly when it is flushed; a long-running transaction queues statements only once
begun, and never the same statement twice; a binding carries the transaction's own identity.
`Transaction.WellFormed` states these ties.

Every transaction a client makes is well formed, and each of the six operations keeps it so,
whatever the wire answers and whatever other transactions did to the shared statements and
binding table in between (`wellFormed_perform`). A finished transaction refuses every operation
with the phase it ended in, and changes nothing, on the wire included (`perform_of_terminal`).
Together they hold of every transaction reachable from one a client makes
(`Transaction.invariant_of_reachable`).
-/

namespace GraphWire

namespace Transaction

/-- The ties between the parts of a transaction. -/
structure WellFormed (t : Transaction) : Prop where
  /-- A finished transaction holds no queue and no binding. -/
  finished : t.phase.isTerminal → t.queue = [] ∧ t.binding = none
  /-- Only a long-running transaction is begun. -/
  begun_longRunning : t.begun → t.mode = .longRunning
  /-- A continuation belongs to a begun long-running transaction. -/
  continuation_begun : t.continuation.isSome → t.mode = .longRunning ∧ t.begun
  /-- While active, a transaction is flushed exactly when it has a continuation. -/
  flushed_iff : t.phase.isTerminal = false → (t.phase = .flushed ↔ t.continuation.isSome)
  /-- A long-running transaction queues statements only once begun. -/
  queue_begun : t.mode = .longRunning → t.queue ≠ [] → t.begun
  /-- No statement is queued twice. -/
  queue_nodup : t.queue.Nodup
  /-- A binding carries the transaction's identity. -/
  binding_id : ∀ b, t.binding = some b → b.id = t.id

/-- A fresh transaction is well formed when its binding, if any, carries its identity. -/
theorem wellFormed_fresh (id : Nat) (m : Mode) (e : Endpoints) (b : Option Binding)
    (hb : ∀ b', b = some b' → b'.id = id) : (fresh id m e b).WellFormed where
  finished h := by simp [fresh, Phase.isTerminal] at h
  begun_longRunning h := by simp [fresh] at h
  continuation_begun h := by simp [fresh] at h
  flushed_iff _ := by simp [fresh]
  queue_begun _ h := by simp [fresh] at h
  queue_nodup := List.nodup_nil
  binding_id := hb

namespace WellFormed

variable {t : Transaction}

/-- Ending a transaction (committed, rolled back or failed) with no queue and no binding keeps
it well formed. -/
theorem finish (h : t.WellFormed) (p : Phase) (hp : p.isTerminal) :
    { t with queue := [], phase := p, binding := none }.WellFormed where
  finished _ := ⟨rfl, rfl⟩
  begun_longRunning := h.begun_longRunning
  continuation_begun := h.continuation_begun
  flushed_iff h' := by simp [hp] at h'
  queue_begun _ hq := absurd rfl hq
  queue_nodup := List.nodup_nil
  binding_id _ hb := by simp at hb

/-- Dropping the binding keeps a transaction well formed. -/
theorem dropBinding (h : t.WellFormed) : { t with binding := none }.WellFormed where
  finished hT := ⟨(h.finished hT).1, rfl⟩
  begun_longRunning := h.begun_longRunning
  continuation_begun := h.continuation_begun
  flushed_iff := h.flushed_iff
  queue_begun := h.queue_begun
  queue_nodup := h.queue_nodup
  binding_id _ hb := by simp at hb

/-- Beginning an unbegun long-running transaction keeps it well formed. -/
theorem setBegun (h : t.WellFormed) (hm : t.mode = .longRunning) :
    { t with begun := true }.WellFormed where
  finished := h.finished
  begun_longRunning _ := hm
  continuation_begun hc := ⟨(h.continuation_begun hc).1, rfl⟩
  flushed_iff := h.flushed_iff
  queue_begun _ _ := rfl
  queue_nodup := h.queue_nodup
  binding_id := h.binding_id

/-- Queueing a statement not yet queued, in an active transaction that is begun if it is
long-running, keeps it well formed. -/
theorem enqueue (h : t.WellFormed) (hT : t.phase.isTerminal = false)
    (hb : t.mode = .longRunning → t.begun) {r : Nat} (hr : r ∉ t.queue) :
    { t with queue := t.queue ++ [r] }.WellFormed where
  finished h' := by simp [hT] at h'
  begun_longRunning := h.begun_longRunning
  continuation_begun := h.continuation_begun
  flushed_iff := h.flushed_iff
  queue_begun hm _ := hb hm
  queue_nodup := List.nodup_append.2 ⟨h.queue_nodup, by simp, fun a ha b hb hab ↦ hr (by simp_all)⟩
  binding_id := h.binding_id

/-- Moving a begun long-running transaction to a continuation with an empty queue, flushed,
keeps it well formed. -/
theorem flush (h : t.WellFormed) (hm : t.mode = .longRunning) (hb : t.begun) (c : Continuation) :
    { t with continuation := some c, queue := [], phase := .flushed }.WellFormed where
  finished h' := by simp [Phase.isTerminal] at h'
  begun_longRunning := h.begun_longRunning
  continuation_begun _ := ⟨hm, hb⟩
  flushed_iff _ := by simp
  queue_begun _ hq := absurd rfl hq
  queue_nodup := List.nodup_nil
  binding_id := h.binding_id

/-- Replacing a continuation by another keeps a transaction well formed. -/
theorem renew (h : t.WellFormed) (hc : t.continuation.isSome) (c : Continuation) :
    { t with continuation := some c }.WellFormed where
  finished := h.finished
  begun_longRunning := h.begun_longRunning
  continuation_begun _ := h.continuation_begun hc
  flushed_iff hT := by simpa [hc] using h.flushed_iff hT
  queue_begun := h.queue_begun
  queue_nodup := h.queue_nodup
  binding_id := h.binding_id

/-- A failed scene holds a well-formed transaction. -/
theorem failed (h : t.WellFormed) {s : Scene} (hs : s.tx = t) : s.failed.tx.WellFormed := by
  simpa [hs] using h.finish .failed rfl

end WellFormed

/-! ## Each operation keeps a transaction well formed -/

open TxM

variable {s : Scene}

theorem wellFormed_begin (h : s.tx.WellFormed) : (begin.runOn s).2.tx.WellFormed := by
  rw [runOn_begin]
  split
  · exact h
  split
  · exact h
  split
  · exact h.failed rfl
  · rename_i hM _
    exact h.setBegun (by simpa using hM)

theorem wellFormed_add (r : Nat) (h : s.tx.WellFormed) : ((add r).runOn s).2.tx.WellFormed := by
  rw [runOn_add]
  split
  · exact h
  split
  · exact h.failed rfl
  split
  · exact h
  · rename_i hT hB hE
    refine h.enqueue (by simpa using hT) (fun hm ↦ by simpa [hm] using hB) ?_
    simp only [Bool.or_eq_true, List.contains_iff_mem, not_or] at hE
    exact hE.2

theorem wellFormed_flush (h : s.tx.WellFormed) : (flush.runOn s).2.tx.WellFormed := by
  rw [runOn_flush]
  split
  · exact h
  split
  · exact h
  split
  · exact h.failed rfl
  split
  · exact h
  rename_i hM hB _
  have hm : s.tx.mode = .longRunning := by simpa using hM
  have hb : s.tx.begun := by simpa using hB
  rcases s.shared.wire.send _ with ⟨reply, w⟩
  dsimp only
  rcases Answer.of reply with e | e | ⟨env, e⟩ | env <;> dsimp only
  · exact h.failed rfl
  · exact h.failed rfl
  · exact h
  · rcases env.continuation with e | _ | c <;> dsimp only
    · exact h.failed rfl
    · exact h.failed rfl
    · -- the continuation is adopted only once every queued statement is resolved
      obtain ⟨ss, hq | ⟨e, hq⟩⟩ := resolveQueue_outcome env (s.setWire w) <;> simp only [hq]
      · simpa using h.flush hm hb c
      · exact h.failed rfl

theorem wellFormed_commit (h : s.tx.WellFormed) : (commit.runOn s).2.tx.WellFormed := by
  rw [runOn_commit]
  split
  · exact h
  split
  · exact h.failed rfl
  split
  · exact h
  rcases s.shared.wire.send _ with ⟨reply, w⟩
  dsimp only
  rcases Answer.of reply with e | e | ⟨env, e⟩ | env <;> dsimp only
  · exact h.failed rfl
  · exact h.failed rfl
  · split
    · simpa using h.dropBinding
    · exact h.failed rfl
  · obtain ⟨ss, hq | ⟨e, hq⟩⟩ := resolveQueue_outcome env (s.setWire w) <;> simp only [hq]
    · simpa using h.finish .committed rfl
    · exact h.failed rfl

theorem wellFormed_rollback (h : s.tx.WellFormed) : (rollback.runOn s).2.tx.WellFormed := by
  rw [runOn_rollback]
  split
  · exact h
  rcases s.tx.continuation with _ | c <;> dsimp only
  · simpa using h.finish .rolledBack rfl
  rcases s.shared.wire.send _ with ⟨reply, w⟩
  dsimp only
  rcases Answer.of reply with e | e | ⟨env, e⟩ | env <;> dsimp only
  · exact h.failed rfl
  · exact h.failed rfl
  · simpa using h.finish .rolledBack rfl
  · simpa using h.finish .rolledBack rfl

theorem wellFormed_keepAlive (h : s.tx.WellFormed) : (keepAlive.runOn s).2.tx.WellFormed := by
  rw [runOn_keepAlive]
  split
  · exact h
  split
  · exact h
  rcases hc : s.tx.continuation with _ | c <;> dsimp only
  · exact h
  rcases s.shared.wire.send _ with ⟨reply, w⟩
  dsimp only
  rcases Answer.of reply with e | e | ⟨env, e⟩ | env <;> dsimp only
  · exact h.failed rfl
  · exact h.failed rfl
  · exact h
  · rcases env.continuation with e | _ | c' <;> dsimp only
    · exact h.failed rfl
    · exact h.failed rfl
    · simpa using h.renew (by simp [hc]) c'

end Transaction

/-! ## Every call, and every run -/

namespace Call

open Transaction

/-- Every call keeps a transaction well formed, whatever the scene it runs in. -/
theorem wellFormed_perform (c : Call) {s : Scene} (h : s.tx.WellFormed) :
    (c.perform.runOn s).2.tx.WellFormed := by
  cases c with
  | begin => exact wellFormed_begin h
  | add r => exact wellFormed_add r h
  | flush => exact wellFormed_flush h
  | commit => exact wellFormed_commit h
  | rollback => exact wellFormed_rollback h
  | keepAlive => exact wellFormed_keepAlive h

end Call

namespace Transaction

/-- The transactions a client can come to hold: one it makes (atomic, detached, or bound by
the registry to a binding carrying its identity), and whatever a call leaves of a reachable
one, run with any shared state, since the wire's answers and the other transactions' doings
are arbitrary between two calls. -/
inductive Reachable : Transaction → Prop where
  | atomic (id : Nat) (e : Endpoints) : Reachable (atomic id e)
  | detached (id : Nat) (e : Endpoints) : Reachable (longRunning id e none)
  | bound (b : Binding) (e : Endpoints) : Reachable (longRunning b.id e (some b))
  | step {t : Transaction} (c : Call) (shared : Shared) :
      Reachable t → Reachable (c.perform.runOn ⟨t, shared⟩).2.tx

/-- Every reachable transaction is well formed, and once finished it refuses every call,
reporting the phase it ended in, and changes nothing. -/
theorem invariant_of_reachable {t : Transaction} (h : Reachable t) :
    t.WellFormed ∧
      (t.phase.isTerminal → ∀ (c : Call) (shared : Shared),
        c.perform.runOn ⟨t, shared⟩ =
          (.error (.illegalState c.operation t.phase .finalized), ⟨t, shared⟩)) := by
  refine ⟨?_, fun hT c shared ↦ Call.perform_of_terminal c ⟨t, shared⟩ hT⟩
  induction h with
  | atomic id e => exact wellFormed_fresh id .atomic e none (by simp)
  | detached id e => exact wellFormed_fresh id .longRunning e none (by simp)
  | bound b e => exact wellFormed_fresh b.id .longRunning e (some b) (by simp)
  | step c shared _ ih => exact Call.wellFormed_perform c ih

/-- A detached transaction begun, with a statement queued and then a failed flush over a wire
that cannot reach the server, is reachable: it ends failed, and then refuses a commit. -/
theorem invariant_of_reachable_failed_flush :
    let t₀ := longRunning 0 (Endpoints.ofBase "http://localhost:7474") none
    let sh : Shared := ⟨.unreachable, ⟨[Statement.row "RETURN 1"]⟩, .empty⟩
    let t₁ := (Call.begin.perform.runOn ⟨t₀, sh⟩).2.tx
    let t₂ := ((Call.add 0).perform.runOn ⟨t₁, sh⟩).2.tx
    let t₃ := (Call.flush.perform.runOn ⟨t₂, sh⟩).2.tx
    Reachable t₃ ∧ t₃.WellFormed ∧
      (t₃.phase.isTerminal → ∀ (c : Call) (shared : Shared),
        c.perform.runOn ⟨t₃, shared⟩ =
          (.error (.illegalState c.operation t₃.phase .finalized), ⟨t₃, shared⟩)) :=
  have h : Reachable _ := .step .flush _ (.step (.add 0) _ (.step .begin _ (.detached 0 _)))
  ⟨h, invariant_of_reachable h⟩

end Transaction

end GraphWire
