import GraphWire.Proofs.Transaction.Faults

/-!
# Batches

A transaction sends its statements in batches. A round trip (a flush, or the commit) posts the
statements queued since the last round trip that was accepted, in the order they were added,
and an accepted reply fills them in that order: the `i`-th statement of the batch from the
`i`-th fragment of the reply, extra fragments ignored.

What one call does to the batch is said once (`Scene.BatchLaw`, one lemma per operation): an
accepted round trip posts the queue and fills it from the reply (`Scene.Accepted`), every other
outcome leaves the statements alone, and while the transaction stays open its queue is what
`Call.nextQueue` says. Everything about runs follows by induction over the calls:

* the queue of an open transaction is the batch its calls have queued since the last accepted
  round trip (`queue_runAll`), so every accepted round trip sends and fills exactly that batch;
* an entry of the store changes only at an accepted round trip whose batch holds it, and only
  from an unresolved statement to that statement filled, so a statement added to a batch is
  filled once, by the first accepted round trip after its add, from the fragment at its
  position in that batch.

The references a run adds name stored statements, as the handles a caller adds always do.
-/

namespace GraphWire

open Scene Transaction TxM

namespace Call

/-- Whether a call posts the queue: a flush or the commit. -/
def sendsBatch : Call → Bool
  | .flush | .commit => true
  | _ => false

/-- The queue a call leaves in an open transaction, given whether it was accepted: an accepted
add appends its statement, an accepted round trip empties the queue, and everything else keeps
it. -/
def nextQueue : Call → Bool → List Nat → List Nat
  | .add r, true, q => q ++ [r]
  | .flush, true, _ => []
  | .commit, true, _ => []
  | _, _, q => q

@[simp] theorem nextQueue_false (c : Call) (q : List Nat) : c.nextQueue false q = q := by
  cases c <;> rfl

theorem nextQueue_true_of_sendsBatch {c : Call} (h : c.sendsBatch) (q : List Nat) :
    c.nextQueue true q = [] := by
  cases c <;> simp_all [sendsBatch, nextQueue]

/-- A queue only gains the statement a call adds. -/
theorem mem_of_mem_nextQueue {c : Call} {b : Bool} {q : List Nat} {r : Nat}
    (h : r ∈ c.nextQueue b q) : r ∈ q ∨ c = .add r := by
  cases c <;> cases b <;> grind [nextQueue]

/-- A call that is no accepted round trip only appends to the queue. -/
theorem nextQueue_eq_append {c : Call} {b : Bool} (h : (c.sendsBatch && b) = false)
    (q : List Nat) : ∃ ys, c.nextQueue b q = q ++ ys := by
  cases c <;> cases b <;> simp_all [sendsBatch, nextQueue]

end Call

theorem Answer.of_eq_accepted {reply : Reply} {env : Envelope} (h : Answer.of reply = .accepted env) :
    ∃ body, reply = .ok body ∧ Envelope.ofBody body = .ok env ∧ env.errors = [] := by
  rcases reply with e | body
  · cases h
  · rcases henv : Envelope.ofBody body with e | env'
    · simp [Answer.of, henv] at h
    · rcases herr : ClientError.ofServerErrors env'.errors with _ | e
      · simp only [Answer.of, henv, herr, Answer.accepted.injEq] at h
        subst h
        refine ⟨body, rfl, henv, ?_⟩
        -- a reply is accepted only when it reports no error at all
        cases hes : env'.errors with
        | nil => rfl
        | cons e es =>
          rw [hes] at herr
          cases es <;> cases herr
      · simp [Answer.of, henv, herr] at h

/-! ## One accepted round trip -/

namespace Scene

/-- An accepted round trip from `s` to `s'` that posted `batch` to `url`: no statement of the
batch was resolved; the request carried the batch's statements in order, and the reply was an
envelope `env` with no errors and a fragment for each of them; the statement at position `i`
was filled from fragment `i`, and nothing else in the store changed. -/
structure Accepted (s s' : Scene) (url : String) (batch : List Nat) (env : Envelope) : Prop where
  unresolved : ∀ r ∈ batch, s.shared.statements.isResolved r = false
  sent : ∃ body,
    s.shared.wire.send (.post url (requestPayload (s.shared.statements.collect batch))) =
      (.ok body, s'.shared.wire) ∧ Envelope.ofBody body = .ok env
  clean : env.errors = []
  covered : batch.length ≤ env.results.length
  filled : ∀ (i r : Nat) (f : Fragment), batch[i]? = some r → env.results[i]? = some f →
    s'.shared.statements.get? r = (s.shared.statements.get? r).map (·.filled f)
  kept : ∀ r ∉ batch, s'.shared.statements.get? r = s.shared.statements.get? r

/-- A round trip that posted the queue, got an envelope with no errors and enough fragments,
and filled the queue from them, is an accepted round trip of the queue. -/
theorem accepted_of_fillAll {s s' : Scene} {url body : String} {env : Envelope} {w : Wire}
    (hnd : s.tx.queue.Nodup) (hu : ∀ r ∈ s.tx.queue, s.shared.statements.isResolved r = false)
    (hsend : s.shared.wire.send
      (.post url (requestPayload (s.shared.statements.collect s.tx.queue))) = (.ok body, w))
    (henv : Envelope.ofBody body = .ok env) (herr : env.errors = [])
    (hlen : s.tx.queue.length ≤ env.results.length) (hw : s'.shared.wire = w)
    (hs : s'.shared.statements = s.shared.statements.fillAll s.tx.queue env.results) :
    s.Accepted s' url s.tx.queue env where
  unresolved := hu
  sent := ⟨body, hw ▸ hsend, henv⟩
  clean := herr
  covered := hlen
  filled _ _ _ hr hf := by
    rw [hs]
    exact Statements.get?_fillAll_of_getElem? _ hnd hr hf
  kept _ h := by
    rw [hs]
    exact Statements.get?_fillAll_of_not_mem _ _ h

/-- An accepted round trip changes an entry of the store only from an unresolved statement to
that statement filled from a fragment. -/
theorem Accepted.entry {s s' : Scene} {url : String} {batch : List Nat} {env : Envelope}
    (h : s.Accepted s' url batch env) (r : Nat) :
    s'.shared.statements.get? r = s.shared.statements.get? r ∨
      ∃ st f, s.shared.statements.get? r = some st ∧ st.isResolved = false ∧
        s'.shared.statements.get? r = some (st.filled f) := by
  by_cases hr : r ∈ batch
  · obtain ⟨i, hi⟩ := List.mem_iff_getElem?.1 hr
    obtain ⟨hib, -⟩ := List.getElem?_eq_some_iff.1 hi
    have hlt : i < env.results.length := Nat.lt_of_lt_of_le hib h.covered
    have hf := h.filled i r _ hi (List.getElem?_eq_getElem hlt)
    rcases hst : s.shared.statements.get? r with _ | st
    · left
      rw [hf, hst]
      rfl
    · right
      have hu := h.unresolved r hr
      simp only [Statements.isResolved, hst, Option.map_some, Option.getD_some] at hu
      exact ⟨st, _, rfl, hu, by rw [hf, hst]; rfl⟩
  · exact .inl (h.kept r hr)

/-! ## What one call does to the batch -/

/-- The batch law for an outcome `o` of a call `c` run from `s`: an accepted round trip posted
the queue and filled it from the reply; any other outcome left the statements alone; and while
the transaction is open its queue is what `Call.nextQueue` says. -/
structure BatchLaw (s : Scene) (c : Call) (o : Except ClientError Unit × Scene) : Prop where
  accepted : (c.sendsBatch && o.1.isOk) → ∃ url env, s.Accepted o.2 url s.tx.queue env
  kept : (c.sendsBatch && o.1.isOk) = false → o.2.shared.statements = s.shared.statements
  queue : o.2.tx.phase.isTerminal = false → o.2.tx.queue = c.nextQueue o.1.isOk s.tx.queue

namespace BatchLaw

variable {s s' : Scene} {c : Call} {e : ClientError}

theorem error (hs : s'.shared.statements = s.shared.statements)
    (hq : s'.tx.phase.isTerminal = false → s'.tx.queue = s.tx.queue) :
    s.BatchLaw c (.error e, s') where
  accepted h := by simp [Except.isOk, Except.toBool] at h
  kept _ := hs
  queue h := by
    rw [hq h]
    exact (Call.nextQueue_false c _).symm

theorem refusal : s.BatchLaw c (.error e, s) := error rfl (fun _ ↦ rfl)

theorem failed (hf : s.FailedFrom s') : s.BatchLaw c (.error e, s') :=
  error hf.2.2 (fun h ↦ by simp [hf.1, Phase.isTerminal] at h)

theorem noBatch (hc : c.sendsBatch = false) (hs : s'.shared.statements = s.shared.statements)
    (hq : s'.tx.phase.isTerminal = false → s'.tx.queue = c.nextQueue true s.tx.queue) :
    s.BatchLaw c (.ok (), s') where
  accepted h := by simp [hc] at h
  kept _ := hs
  queue := hq

theorem roundTrip {url : String} {env : Envelope} (hc : c.sendsBatch)
    (ha : s.Accepted s' url s.tx.queue env) (hq : s'.tx.queue = []) :
    s.BatchLaw c (.ok (), s') where
  accepted _ := ⟨url, env, ha⟩
  kept h := by simp [hc, Except.isOk, Except.toBool] at h
  queue _ := by
    rw [hq]
    exact (Call.nextQueue_true_of_sendsBatch hc _).symm

end BatchLaw

end Scene

variable {s : Scene}

theorem batchLaw_begin : s.BatchLaw .begin (begin.runOn s) := by
  rw [runOn_begin]
  split
  · exact .refusal
  split
  · exact .refusal
  split
  · exact .failed (failedFrom_failed s)
  · exact .noBatch rfl rfl (fun _ ↦ rfl)

theorem batchLaw_add (r : Nat) : s.BatchLaw (.add r) ((add r).runOn s) := by
  rw [runOn_add]
  split
  · exact .refusal
  split
  · exact .failed (failedFrom_failed s)
  split
  · exact .refusal
  · exact .noBatch rfl rfl (fun _ ↦ rfl)

theorem batchLaw_flush (hw : s.tx.WellFormed) : s.BatchLaw .flush (flush.runOn s) := by
  rw [runOn_flush]
  split
  · exact .refusal
  split
  · exact .refusal
  split
  · exact .failed (failedFrom_failed s)
  split
  · exact .refusal
  rename_i hR
  rcases hsend : s.shared.wire.send
    (.post s.tx.endpoint (requestPayload (s.shared.statements.collect s.tx.queue))) with ⟨reply, w⟩
  dsimp only
  rcases hA : Answer.of reply with e | e | ⟨env, e⟩ | env <;> dsimp only
  · exact .failed (failedFrom_failed_setWire s w)
  · exact .failed (failedFrom_failed_setWire s w)
  · exact .error rfl (fun _ ↦ rfl)
  · rcases env.continuation with e | _ | c <;> dsimp only
    · exact .failed (failedFrom_failed_setWire s w)
    · exact .failed (failedFrom_failed_setWire s w)
    · rw [runOn_resolveQueue env (s.setWire w) hw.queue_nodup (unresolved_of_any hR)]
      by_cases hlen : s.tx.queue.length ≤ env.results.length
      · rw [setWire_tx, if_pos hlen]
        obtain ⟨body, rfl, henv, herr⟩ := Answer.of_eq_accepted hA
        exact .roundTrip rfl (accepted_of_fillAll hw.queue_nodup (unresolved_of_any hR) hsend
          henv herr hlen rfl rfl) rfl
      · rw [setWire_tx, if_neg hlen]
        exact .failed (failedFrom_failed_setWire s w)

theorem batchLaw_commit (hw : s.tx.WellFormed) : s.BatchLaw .commit (commit.runOn s) := by
  rw [runOn_commit]
  split
  · exact .refusal
  split
  · exact .failed (failedFrom_failed s)
  split
  · exact .refusal
  rename_i hR
  rcases hsend : s.shared.wire.send
    (.post s.tx.commitTarget (requestPayload (s.shared.statements.collect s.tx.queue))) with
    ⟨reply, w⟩
  dsimp only
  rcases hA : Answer.of reply with e | e | ⟨env, e⟩ | env <;> dsimp only
  · exact .failed (failedFrom_failed_setWire s w)
  · exact .failed (failedFrom_failed_setWire s w)
  · split
    · exact .error (by simp) (fun _ ↦ by simp)
    · exact .failed (failedFrom_failed_setWire s w)
  · rw [runOn_resolveQueue env (s.setWire w) hw.queue_nodup (unresolved_of_any hR)]
    by_cases hlen : s.tx.queue.length ≤ env.results.length
    · rw [setWire_tx, if_pos hlen]
      obtain ⟨body, rfl, henv, herr⟩ := Answer.of_eq_accepted hA
      exact .roundTrip rfl (accepted_of_fillAll hw.queue_nodup (unresolved_of_any hR) hsend
        henv herr hlen (by simp) (by simp)) (by simp)
    · rw [setWire_tx, if_neg hlen]
      exact .failed (failedFrom_failed_setWire s w)

theorem batchLaw_rollback : s.BatchLaw .rollback (rollback.runOn s) := by
  rw [runOn_rollback]
  split
  · exact .refusal
  rcases s.tx.continuation with _ | c <;> dsimp only
  · exact .noBatch rfl (by simp) (fun h ↦ by simp [Phase.isTerminal] at h)
  rcases s.shared.wire.send _ with ⟨reply, w⟩
  dsimp only
  rcases Answer.of reply with e | e | ⟨env, e⟩ | env <;> dsimp only
  · exact .failed (failedFrom_failed_setWire s w)
  · exact .failed (failedFrom_failed_setWire s w)
  · exact .error (by simp) (fun h ↦ by simp [Phase.isTerminal] at h)
  · exact .noBatch rfl (by simp) (fun h ↦ by simp [Phase.isTerminal] at h)

theorem batchLaw_keepAlive : s.BatchLaw .keepAlive (keepAlive.runOn s) := by
  rw [runOn_keepAlive]
  split
  · exact .refusal
  split
  · exact .refusal
  rcases s.tx.continuation with _ | c <;> dsimp only
  · exact .noBatch rfl rfl (fun _ ↦ rfl)
  rcases s.shared.wire.send _ with ⟨reply, w⟩
  dsimp only
  rcases Answer.of reply with e | e | ⟨env, e⟩ | env <;> dsimp only
  · exact .failed (failedFrom_failed_setWire s w)
  · exact .failed (failedFrom_failed_setWire s w)
  · exact .error rfl (fun _ ↦ rfl)
  · rcases env.continuation with e | _ | c' <;> dsimp only
    · exact .failed (failedFrom_failed_setWire s w)
    · exact .failed (failedFrom_failed_setWire s w)
    · exact .noBatch rfl rfl (fun _ ↦ rfl)

/-- Every call from a well-formed transaction obeys the batch law. -/
theorem Call.batchLaw_perform (c : Call) (hw : s.tx.WellFormed) :
    s.BatchLaw c (c.perform.runOn s) := by
  cases c with
  | begin => exact batchLaw_begin
  | add r => exact batchLaw_add r
  | flush => exact batchLaw_flush hw
  | commit => exact batchLaw_commit hw
  | rollback => exact batchLaw_rollback
  | keepAlive => exact batchLaw_keepAlive

/-! ## Steps and runs -/

/-- One step of a run: the call, the scene it ran from, its result and the scene it left. -/
structure Step where
  call : Call
  before : Scene
  result : Except ClientError Unit
  after : Scene

namespace Step

/-- The step of running a call from a scene. -/
def make (c : Call) (s : Scene) : Step :=
  ⟨c, s, (c.perform.runOn s).1, (c.perform.runOn s).2⟩

/-- Whether the step's call was accepted. -/
def ok (st : Step) : Bool := st.result.isOk

/-- Whether the step is an accepted round trip. -/
def roundTrip (st : Step) : Bool := st.call.sendsBatch && st.ok

@[simp] theorem make_call (c : Call) (s : Scene) : (make c s).call = c := rfl

@[simp] theorem make_before (c : Call) (s : Scene) : (make c s).before = s := rfl

@[simp] theorem make_after (c : Call) (s : Scene) : (make c s).after = (c.perform.runOn s).2 :=
  rfl

end Step

namespace Scene

/-- The scene after running calls one after another. -/
def runAll (s : Scene) : List Call → Scene
  | [] => s
  | c :: cs => (c.perform.runOn s).2.runAll cs

/-- The steps of running calls one after another. -/
def trace (s : Scene) : List Call → List Step
  | [] => []
  | c :: cs => Step.make c s :: (c.perform.runOn s).2.trace cs

@[simp] theorem runAll_nil (s : Scene) : s.runAll [] = s := rfl

@[simp] theorem runAll_cons (s : Scene) (c : Call) (cs : List Call) :
    s.runAll (c :: cs) = (c.perform.runOn s).2.runAll cs := rfl

@[simp] theorem trace_nil (s : Scene) : s.trace [] = [] := rfl

@[simp] theorem trace_cons (s : Scene) (c : Call) (cs : List Call) :
    s.trace (c :: cs) = Step.make c s :: (c.perform.runOn s).2.trace cs := rfl

theorem runAll_append (s : Scene) (cs cs' : List Call) :
    s.runAll (cs ++ cs') = (s.runAll cs).runAll cs' := by
  induction cs generalizing s with
  | nil => rfl
  | cons c cs ih => exact ih _

theorem trace_append (s : Scene) (cs cs' : List Call) :
    s.trace (cs ++ cs') = s.trace cs ++ (s.runAll cs).trace cs' := by
  induction cs generalizing s with
  | nil => rfl
  | cons c cs ih => simp [ih]

theorem runAll_concat (s : Scene) (cs : List Call) (c : Call) :
    s.runAll (cs ++ [c]) = (c.perform.runOn (s.runAll cs)).2 := by
  rw [runAll_append, runAll_cons, runAll_nil]

/-- A step of a run is the step of one of its calls from the scene the calls before it left. -/
theorem mem_trace {s : Scene} {cs : List Call} {st : Step} (h : st ∈ s.trace cs) :
    ∃ pre c post, cs = pre ++ c :: post ∧ st = Step.make c (s.runAll pre) := by
  induction cs generalizing s with
  | nil => cases h
  | cons c cs ih =>
    rcases List.mem_cons.1 h with rfl | h
    · exact ⟨[], c, cs, rfl, rfl⟩
    · obtain ⟨pre, c', post, rfl, rfl⟩ := ih h
      exact ⟨c :: pre, c', post, rfl, rfl⟩

/-- A finished transaction accepts no call. -/
theorem ok_make_of_terminal {s : Scene} (c : Call) (h : s.tx.phase.isTerminal) :
    (Step.make c s).ok = false := by
  simp [Step.ok, Step.make, Call.perform_of_terminal c s h, Except.isOk, Except.toBool]

/-- A finished transaction stays as it is through any calls. -/
theorem runAll_of_terminal {s : Scene} (h : s.tx.phase.isTerminal) (cs : List Call) :
    s.runAll cs = s := by
  induction cs with
  | nil => rfl
  | cons c cs ih => rw [runAll_cons, Call.perform_of_terminal c s h, ih]

theorem wellFormed_runAll {s : Scene} (hw : s.tx.WellFormed) (cs : List Call) :
    (s.runAll cs).tx.WellFormed := by
  induction cs generalizing s with
  | nil => exact hw
  | cons c cs ih => exact ih (Call.wellFormed_perform c hw)

end Scene

/-- The batch the steps of a run have queued after a queue `q`: accepted adds append their
statements and accepted round trips empty it. -/
def queued (q : List Nat) (steps : List Step) : List Nat :=
  steps.foldl (fun q st ↦ st.call.nextQueue st.ok q) q

@[simp] theorem queued_nil (q : List Nat) : queued q [] = q := rfl

@[simp] theorem queued_cons (q : List Nat) (st : Step) (steps : List Step) :
    queued q (st :: steps) = queued (st.call.nextQueue st.ok q) steps := rfl

theorem queued_append (q : List Nat) (steps steps' : List Step) :
    queued q (steps ++ steps') = queued (queued q steps) steps' := List.foldl_append

/-- Steps with no accepted round trip only append to the queue. -/
theorem queued_eq_append (q : List Nat) {steps : List Step}
    (h : ∀ st ∈ steps, st.roundTrip = false) : ∃ ys, queued q steps = q ++ ys := by
  induction steps generalizing q with
  | nil => exact ⟨[], (List.append_nil q).symm⟩
  | cons st steps ih =>
    obtain ⟨xs, hxs⟩ := Call.nextQueue_eq_append (h st List.mem_cons_self) q
    obtain ⟨ys, hys⟩ := ih (st.call.nextQueue st.ok q) (fun st' h' ↦ h st' (List.mem_cons_of_mem _ h'))
    exact ⟨xs ++ ys, by rw [queued_cons, hys, hxs, List.append_assoc]⟩

/-- A statement in a batch was in the start queue or added by one of the steps. -/
theorem mem_queued {q : List Nat} {steps : List Step} {r : Nat} (h : r ∈ queued q steps) :
    r ∈ q ∨ ∃ st ∈ steps, st.call = .add r := by
  induction steps generalizing q with
  | nil => exact .inl h
  | cons st steps ih =>
    rcases ih h with h | ⟨st', hst', hc⟩
    · rcases Call.mem_of_mem_nextQueue h with h | hc
      · exact .inl h
      · exact .inr ⟨st, List.mem_cons_self, hc⟩
    · exact .inr ⟨st', List.mem_cons_of_mem _ hst', hc⟩

/-! ## What a step does to the store -/

theorem Statements.isResolved_of_get? {ss : Statements} {r : Nat} {st : Statement}
    (h : ss.get? r = some st) : ss.isResolved r = st.isResolved := by
  simp [Statements.isResolved, h]

theorem Statements.isResolved_congr {ss ss' : Statements} {r : Nat} (h : ss'.get? r = ss.get? r) :
    ss'.isResolved r = ss.isResolved r := by
  simp [Statements.isResolved, h]

namespace Step

variable {s : Scene} {c : Call} {r : Nat}

/-- A step that is no accepted round trip leaves the store as it was. -/
theorem statements_of_not_roundTrip (hw : s.tx.WellFormed) (h : (make c s).roundTrip = false) :
    (make c s).after.shared.statements = s.shared.statements :=
  (Call.batchLaw_perform c hw).kept h

/-- In one step an entry of the store stays as it was, or the step is an accepted round trip
and the entry goes from an unresolved statement to that statement filled from a fragment. -/
theorem entry (hw : s.tx.WellFormed) (r : Nat) :
    (make c s).after.shared.statements.get? r = s.shared.statements.get? r ∨
      ∃ st f, s.shared.statements.get? r = some st ∧ st.isResolved = false ∧
        (make c s).after.shared.statements.get? r = some (st.filled f) := by
  cases hrt : (make c s).roundTrip with
  | false => exact .inl (by rw [statements_of_not_roundTrip hw hrt])
  | true =>
    obtain ⟨url, env, ha⟩ := (Call.batchLaw_perform c hw).accepted hrt
    exact ha.entry r

/-- A step leaves a resolved statement as it is. -/
theorem get?_of_isResolved (hw : s.tx.WellFormed) (hr : s.shared.statements.isResolved r) :
    (make c s).after.shared.statements.get? r = s.shared.statements.get? r := by
  rcases entry (c := c) hw r with h | ⟨st, f, hst, hu, -⟩
  · exact h
  · rw [Statements.isResolved_of_get? hst, hu] at hr
    cases hr

/-- A step keeps which references the store names. -/
theorem isSome_get? (hw : s.tx.WellFormed) (r : Nat) :
    ((make c s).after.shared.statements.get? r).isSome = (s.shared.statements.get? r).isSome := by
  rcases entry (c := c) hw r with h | ⟨st, f, hst, -, hst'⟩
  · rw [h]
  · rw [hst, hst']
    rfl

/-- An add is accepted only for a statement that is not resolved. -/
theorem unresolved_of_add_ok (h : (make (.add r) s).ok) : s.shared.statements.isResolved r = false := by
  simp only [ok, make, Call.perform] at h
  rw [runOn_add] at h
  split at h
  · simp [Except.isOk, Except.toBool] at h
  split at h
  · simp [Except.isOk, Except.toBool] at h
  split at h
  · simp [Except.isOk, Except.toBool] at h
  · rename_i hE
    simp only [Bool.or_eq_true, not_or, Bool.not_eq_true] at hE
    exact hE.1

end Step

/-! ## Runs -/

namespace Scene

variable {s : Scene} {r : Nat}

/-- A run keeps which references the store names. -/
theorem isSome_get?_runAll (hw : s.tx.WellFormed) (cs : List Call) (r : Nat) :
    ((s.runAll cs).shared.statements.get? r).isSome = (s.shared.statements.get? r).isSome := by
  induction cs generalizing s with
  | nil => rfl
  | cons c cs ih =>
    rw [runAll_cons, ih (Call.wellFormed_perform c hw)]
    exact Step.isSome_get? hw r

/-- A resolved statement stays resolved through a run. -/
theorem isResolved_runAll (hw : s.tx.WellFormed) (hr : s.shared.statements.isResolved r)
    (cs : List Call) : (s.runAll cs).shared.statements.isResolved r := by
  induction cs generalizing s with
  | nil => exact hr
  | cons c cs ih =>
    apply ih (Call.wellFormed_perform c hw)
    exact (Statements.isResolved_congr (Step.get?_of_isResolved (c := c) hw hr)).trans hr

/-- In a run no step changes a statement that is resolved at its start. -/
theorem keeps_of_isResolved (hw : s.tx.WellFormed) (hr : s.shared.statements.isResolved r)
    (cs : List Call) :
    ∀ st ∈ s.trace cs, st.after.shared.statements.get? r = st.before.shared.statements.get? r := by
  intro st hst
  obtain ⟨pre, c, post, rfl, rfl⟩ := mem_trace hst
  exact Step.get?_of_isResolved (wellFormed_runAll hw pre) (isResolved_runAll hw hr pre)

/-- In a run no step changes a statement that is unresolved at its end: a change would have
resolved it for good. -/
theorem keeps_of_unresolved (hw : s.tx.WellFormed) (cs : List Call)
    (hr : (s.runAll cs).shared.statements.isResolved r = false) :
    ∀ st ∈ s.trace cs, st.after.shared.statements.get? r = st.before.shared.statements.get? r := by
  intro st hst
  obtain ⟨pre, c, post, rfl, rfl⟩ := mem_trace hst
  rcases Step.entry (c := c) (wellFormed_runAll hw pre) r with h | ⟨st', f, -, -, hst'⟩
  · exact h
  · have hres : (c.perform.runOn (s.runAll pre)).2.shared.statements.isResolved r := by
      rw [← Step.make_after, Statements.isResolved_of_get? hst', Statement.isResolved_filled]
    have := isResolved_runAll (Call.wellFormed_perform c (wellFormed_runAll hw pre)) hres post
    rw [runAll_append, runAll_cons] at hr
    rw [hr] at this
    cases this

/-- In a run with no accepted round trip no step changes the store. -/
theorem statements_of_no_roundTrip (hw : s.tx.WellFormed) (cs : List Call)
    (h : ∀ st ∈ s.trace cs, st.roundTrip = false) :
    ∀ st ∈ s.trace cs, st.after.shared.statements = st.before.shared.statements := by
  intro st hst
  obtain ⟨pre, c, post, rfl, rfl⟩ := mem_trace hst
  exact Step.statements_of_not_roundTrip (wellFormed_runAll hw pre) (h _ hst)

/-- While a transaction is open, its queue is the batch its calls have queued. -/
theorem queue_runAll (hw : s.tx.WellFormed) (cs : List Call)
    (ha : (s.runAll cs).tx.phase.isTerminal = false) :
    (s.runAll cs).tx.queue = queued s.tx.queue (s.trace cs) := by
  induction cs generalizing s with
  | nil => rfl
  | cons c cs ih =>
    -- the transaction is still open after the first call, since it is open at the end
    have ha₁ : (c.perform.runOn s).2.tx.phase.isTerminal = false := by
      cases h : (c.perform.runOn s).2.tx.phase.isTerminal with
      | false => rfl
      | true =>
        rw [runAll_cons, runAll_of_terminal h] at ha
        rw [ha] at h
        cases h
    rw [runAll_cons, ih (Call.wellFormed_perform c hw) ha, trace_cons, queued_cons,
      (Call.batchLaw_perform c hw).queue ha₁]
    rfl

/-- If some step of a run is an accepted round trip, the run splits at the first one. -/
theorem exists_first_roundTrip {cs : List Call} (h : ∃ st ∈ s.trace cs, st.roundTrip) :
    ∃ mid c rest, cs = mid ++ c :: rest ∧ (∀ st ∈ s.trace mid, st.roundTrip = false) ∧
      (Step.make c (s.runAll mid)).roundTrip := by
  induction cs generalizing s with
  | nil =>
    obtain ⟨st, hst, -⟩ := h
    cases hst
  | cons c cs ih =>
    cases hc : (Step.make c s).roundTrip with
    | true => exact ⟨[], c, cs, rfl, (fun _ h ↦ by cases h), hc⟩
    | false =>
      obtain ⟨st, hst, hrt⟩ := h
      have hst' : st ∈ (c.perform.runOn s).2.trace cs := by
        rcases List.mem_cons.1 hst with rfl | hst
        · rw [hc] at hrt
          cases hrt
        · exact hst
      obtain ⟨mid, c', rest, rfl, hmid, hc'⟩ := ih ⟨st, hst', hrt⟩
      refine ⟨c :: mid, c', rest, rfl, ?_, hc'⟩
      intro st' hst'
      rcases List.mem_cons.1 hst' with rfl | hst'
      · exact hc
      · exact hmid st' hst'

/-! ## Batches of a run -/

/-- Every accepted round trip of a run posts and fills the batch the calls before it queued. -/
theorem accepted_runAll (hw : s.tx.WellFormed) (pre : List Call) (c : Call)
    (hrt : (Step.make c (s.runAll pre)).roundTrip) :
    ∃ url env, (s.runAll pre).Accepted (s.runAll (pre ++ [c])) url
      (queued s.tx.queue (s.trace pre)) env := by
  -- an accepted call finds the transaction open
  have ha : (s.runAll pre).tx.phase.isTerminal = false := by
    cases h : (s.runAll pre).tx.phase.isTerminal with
    | false => rfl
    | true =>
      simp only [Step.roundTrip, ok_make_of_terminal c h, Bool.and_false] at hrt
      cases hrt
  rw [runAll_concat, ← queue_runAll hw pre ha]
  exact (Call.batchLaw_perform c (wellFormed_runAll hw pre)).accepted hrt

/-- A statement added by an accepted add sits, in the batch of the first accepted round trip
after it, at the length the batch had before the add. -/
theorem queued_getElem?_add (pre mid : List Call) (r : Nat)
    (hadd : (Step.make (.add r) (s.runAll pre)).ok)
    (hmid : ∀ st ∈ (s.runAll (pre ++ [.add r])).trace mid, st.roundTrip = false) :
    (queued s.tx.queue (s.trace (pre ++ .add r :: mid)))[(queued s.tx.queue (s.trace pre)).length]? =
      some r := by
  have htrace : s.trace (pre ++ .add r :: mid) =
      s.trace pre ++ Step.make (.add r) (s.runAll pre) :: (s.runAll (pre ++ [.add r])).trace mid := by
    rw [trace_append, trace_cons, runAll_concat]
  obtain ⟨ys, hys⟩ := queued_eq_append (queued s.tx.queue (s.trace pre) ++ [r]) hmid
  rw [htrace, queued_append, queued_cons, Step.make_call, hadd]
  change (queued (queued s.tx.queue (s.trace pre) ++ [r]) _)[_]? = _
  rw [hys]
  simp

/-- A statement added by an accepted add, and stored, is filled by the first accepted round
trip after the add, from the fragment at its position in that batch, and by no other step. -/
theorem filled_once (hw : s.tx.WellFormed) (pre mid rest : List Call) (r : Nat) (c : Call)
    (hadd : (Step.make (.add r) (s.runAll pre)).ok)
    (hmid : ∀ st ∈ (s.runAll (pre ++ [.add r])).trace mid, st.roundTrip = false)
    (hc : (Step.make c (s.runAll (pre ++ .add r :: mid))).roundTrip)
    (hstored : (s.shared.statements.get? r).isSome) :
    ∃ url env st f,
      (s.runAll (pre ++ .add r :: mid)).Accepted (s.runAll (pre ++ .add r :: mid ++ [c])) url
        (queued s.tx.queue (s.trace (pre ++ .add r :: mid))) env ∧
      (queued s.tx.queue (s.trace (pre ++ .add r :: mid)))[(queued s.tx.queue (s.trace pre)).length]? =
        some r ∧
      env.results[(queued s.tx.queue (s.trace pre)).length]? = some f ∧
      (s.runAll (pre ++ .add r :: mid)).shared.statements.get? r = some st ∧
      st.isResolved = false ∧
      (s.runAll (pre ++ .add r :: mid ++ [c])).shared.statements.get? r = some (st.filled f) ∧
      ∀ st' ∈ s.trace (pre ++ .add r :: mid) ++ (s.runAll (pre ++ .add r :: mid ++ [c])).trace rest,
        st'.after.shared.statements.get? r = st'.before.shared.statements.get? r := by
  obtain ⟨url, env, ha⟩ := accepted_runAll hw (pre ++ .add r :: mid) c hc
  have hpos := queued_getElem?_add pre mid r hadd hmid
  -- the reply has a fragment for every statement of the batch
  obtain ⟨f, hf⟩ : ∃ f, env.results[(queued s.tx.queue (s.trace pre)).length]? = some f := by
    obtain ⟨hlt, -⟩ := List.getElem?_eq_some_iff.1 hpos
    exact ⟨_, List.getElem?_eq_getElem (Nat.lt_of_lt_of_le hlt ha.covered)⟩
  obtain ⟨st, hst⟩ : ∃ st, (s.runAll (pre ++ .add r :: mid)).shared.statements.get? r = some st := by
    apply Option.isSome_iff_exists.1
    rw [isSome_get?_runAll hw]
    exact hstored
  have hu : st.isResolved = false := by
    rw [← Statements.isResolved_of_get? hst]
    exact ha.unresolved r (List.mem_of_getElem? hpos)
  have hfill : (s.runAll (pre ++ .add r :: mid ++ [c])).shared.statements.get? r =
      some (st.filled f) := by
    rw [ha.filled _ r f hpos hf, hst]
    rfl
  refine ⟨url, env, st, f, ha, hpos, hf, hst, hu, hfill, ?_⟩
  intro st' hst'
  rcases List.mem_append.1 hst' with hst' | hst'
  · rw [trace_append, trace_cons, ← runAll_concat] at hst'
    rcases List.mem_append.1 hst' with hst' | hst'
    · -- before the add: the add found the statement unresolved, so nothing had touched it
      exact keeps_of_unresolved hw pre (Step.unresolved_of_add_ok hadd) st' hst'
    · rcases List.mem_cons.1 hst' with rfl | hst'
      · rw [Step.statements_of_not_roundTrip (wellFormed_runAll hw pre) rfl, Step.make_before]
      · rw [statements_of_no_roundTrip (wellFormed_runAll hw _) mid hmid st' hst']
  · -- after the round trip the statement is resolved, and stays as it is
    have hres : (s.runAll (pre ++ .add r :: mid ++ [c])).shared.statements.isResolved r := by
      rw [Statements.isResolved_of_get? hfill, Statement.isResolved_filled]
    exact keeps_of_isResolved (wellFormed_runAll hw _) hres rest st' hst'

end Scene

/-- Every run of a transaction, over any wire, from a well-formed transaction whose queue and
adds name stored statements. Each accepted round trip posts exactly the statements queued since
the last accepted round trip, in the order they were added, and fills the `i`-th of them from
the `i`-th fragment of its reply. A statement whose add was accepted is filled once, if some
accepted round trip follows: the first of them fills it, from the fragment at its position in
that batch, and no other step of the run changes it. -/
theorem batches_sent_in_add_order (s : Scene) (cs : List Call) (hw : s.tx.WellFormed)
    (hq : ∀ r ∈ s.tx.queue, (s.shared.statements.get? r).isSome)
    (hcs : ∀ r, Call.add r ∈ cs → (s.shared.statements.get? r).isSome) :
    (∀ pre c post, cs = pre ++ c :: post → (Step.make c (s.runAll pre)).roundTrip →
      (∀ r ∈ queued s.tx.queue (s.trace pre), ((s.runAll pre).shared.statements.get? r).isSome) ∧
      ∃ url env, (s.runAll pre).Accepted (s.runAll (pre ++ [c])) url
        (queued s.tx.queue (s.trace pre)) env) ∧
    (∀ pre r post, cs = pre ++ .add r :: post → (Step.make (.add r) (s.runAll pre)).ok →
      (∃ st ∈ (s.runAll (pre ++ [.add r])).trace post, st.roundTrip) →
      ∃ mid c rest, post = mid ++ c :: rest ∧
        (∀ st ∈ (s.runAll (pre ++ [.add r])).trace mid, st.roundTrip = false) ∧
        (Step.make c (s.runAll (pre ++ .add r :: mid))).roundTrip ∧
        ∃ url env st f,
          (s.runAll (pre ++ .add r :: mid)).Accepted (s.runAll (pre ++ .add r :: mid ++ [c])) url
            (queued s.tx.queue (s.trace (pre ++ .add r :: mid))) env ∧
          (queued s.tx.queue (s.trace (pre ++ .add r :: mid)))[(queued s.tx.queue (s.trace pre)).length]? =
            some r ∧
          env.results[(queued s.tx.queue (s.trace pre)).length]? = some f ∧
          (s.runAll (pre ++ .add r :: mid)).shared.statements.get? r = some st ∧
          st.isResolved = false ∧
          (s.runAll (pre ++ .add r :: mid ++ [c])).shared.statements.get? r = some (st.filled f) ∧
          ∀ st' ∈ s.trace (pre ++ .add r :: mid) ++
              (s.runAll (pre ++ .add r :: mid ++ [c])).trace rest,
            st'.after.shared.statements.get? r = st'.before.shared.statements.get? r) := by
  refine ⟨?_, ?_⟩
  · rintro pre c post rfl hrt
    refine ⟨?_, accepted_runAll hw pre c hrt⟩
    intro r hr
    rw [isSome_get?_runAll hw]
    rcases mem_queued hr with hr | ⟨st, hst, hadd⟩
    · exact hq r hr
    · -- a statement the calls before the round trip added
      obtain ⟨pre', c', post', rfl, rfl⟩ := mem_trace hst
      rw [Step.make_call] at hadd
      subst hadd
      exact hcs r (by simp)
  · rintro pre r post rfl hadd hnext
    obtain ⟨mid, c, rest, rfl, hmid, hc⟩ := exists_first_roundTrip hnext
    have hc' : (Step.make c (s.runAll (pre ++ .add r :: mid))).roundTrip := by
      rw [List.append_cons, runAll_append]
      exact hc
    exact ⟨mid, c, rest, rfl, hmid, hc',
      filled_once hw pre mid rest r c hadd hmid hc' (hcs r (by simp))⟩

/-- An atomic transaction that adds two statements and commits them, the commit answered with
two fragments: the commit posts both statements, in the order they were added. -/
theorem batches_sent_in_add_order_commit :
    let body := "\x7b\"results\":[\x7b\x7d,\x7b\x7d]\x7d"
    let s : Scene := ⟨atomic 0 (Endpoints.ofBase "http://h"),
      ⟨.scripted [.ok body] [], ⟨[Statement.row "RETURN 1", Statement.row "RETURN 2"]⟩, .empty⟩⟩
    let cs := [Call.add 0, .add 1, .commit]
    (s.tx.WellFormed ∧ (∀ r ∈ s.tx.queue, (s.shared.statements.get? r).isSome) ∧
      ∀ r, Call.add r ∈ cs → (s.shared.statements.get? r).isSome) ∧
    ∃ url env, (s.runAll [.add 0, .add 1]).Accepted (s.runAll cs) url [0, 1] env := by
  intro body s cs
  have hw : s.tx.WellFormed := wellFormed_fresh 0 .atomic _ none (fun _ h ↦ by cases h)
  have hq : ∀ r ∈ s.tx.queue, (s.shared.statements.get? r).isSome := fun _ h ↦ by cases h
  have hcs : ∀ r, Call.add r ∈ cs → (s.shared.statements.get? r).isSome := by
    intro r hr
    simp only [cs, List.mem_cons, Call.add.injEq, reduceCtorEq, List.not_mem_nil, or_false] at hr
    rcases hr with rfl | rfl <;> rfl
  have hrt : (Step.make .commit (s.runAll [.add 0, .add 1])).roundTrip := by
    simp only [s, body]
    set_option maxRecDepth 4000 in rfl
  exact ⟨⟨hw, hq, hcs⟩,
    ((batches_sent_in_add_order s cs hw hq hcs).1 [.add 0, .add 1] .commit [] rfl hrt).2⟩

end GraphWire
