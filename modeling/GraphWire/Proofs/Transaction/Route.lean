import GraphWire.Proofs.Transaction.Batch

/-!
# Where round trips go

A transaction talks to the server at one endpoint at a time. Until a flush is accepted it has
no continuation, and its endpoint is where a transaction of its mode begins: `B/transaction`
for a long-running one and `B/transaction/commit` for an atomic one, `B` the normalized base.
An accepted flush, and an accepted keep-alive of a transaction open server-side, replace the
continuation as a whole by the one their reply names, endpoint and expiry together; nothing
else changes it. So after a run the endpoint is the commit URL of the last flush or keep-alive
that returned `ok`, less its `/commit`, and the expiry is the date of that same reply.

What one call does here is said once (`Scene.RouteLaw`): it sends exactly the request
`Call.request` names, keeps the mode and the base, and keeps the continuation unless it renews
it from an accepted reply. The requests follow the endpoint: a flush posts to it, a keep-alive
posts an empty batch to it once a flush was accepted, a commit posts to it with `/commit` put
back, and a rollback deletes it once a flush was accepted. Before that, a keep-alive and a
rollback send nothing.
-/

namespace GraphWire

open Scene Transaction TxM

/-! ## Continuations named by a reply -/

/-- A continuation read from an envelope is its commit URL without `/commit`, and the RFC 2822
date of its expiry, blanks around it ignored. -/
theorem Envelope.continuation_eq_some {env : Envelope} {k : Continuation}
    (h : env.continuation = .ok (some k)) :
    ∃ commit expires, env.commit = some commit ∧ env.expires? = some expires ∧
      k.endpoint = stripCommitSuffix commit ∧
      Time.parseRfc2822 (Text.trim expires) = .ok k.expires := by
  unfold Envelope.continuation at h
  rcases hc : env.commit with _ | commit
  · simp [hc] at h
  rcases hx : env.expires? with _ | expires
  · simp [hc, hx] at h
  simp only [hc, hx, Continuation.ofCommitUrl, parseExpiry] at h
  -- the date is read once; keep its reading opaque so that nothing evaluates it
  generalize hp : Time.parseRfc2822 (Text.trim expires) = p at h
  rcases p with e | t
  · cases h
  · cases h
    exact ⟨commit, expires, rfl, rfl, rfl, hp⟩

/-! ## What a call sends -/

namespace Call

/-- Whether a call adopts the continuation its reply names: a flush or a keep-alive. -/
def renews : Call → Bool
  | .flush | .keepAlive => true
  | _ => false

variable {s : Scene}

@[simp] theorem request_begin (s : Scene) : Call.begin.request s = none := by
  simp [request]

@[simp] theorem request_add (r : Nat) (s : Scene) : (Call.add r).request s = none := by
  simp [request]

@[simp] theorem request_of_terminal (c : Call) (h : s.tx.phase.isTerminal) : c.request s = none := by
  simp [request, h]

theorem request_flush (s : Scene) :
    Call.flush.request s =
      if s.tx.phase.isTerminal = false ∧ s.tx.mode = .longRunning ∧ s.tx.begun ∧
          s.tx.queue.any s.shared.statements.isResolved = false then
        some (.post s.tx.endpoint (requestPayload (s.shared.statements.collect s.tx.queue)))
      else none := by
  by_cases hT : s.tx.phase.isTerminal <;> simp [request, hT]

theorem request_commit (s : Scene) :
    Call.commit.request s =
      if s.tx.phase.isTerminal = false ∧ ¬(s.tx.mode = .longRunning ∧ s.tx.begun = false) ∧
          s.tx.queue.any s.shared.statements.isResolved = false then
        some (.post s.tx.commitTarget (requestPayload (s.shared.statements.collect s.tx.queue)))
      else none := by
  by_cases hT : s.tx.phase.isTerminal <;> simp [request, hT]

/-- A keep-alive posts an empty batch to the endpoint of an active long-running transaction
that is open server-side, and sends nothing otherwise. -/
theorem request_keepAlive (s : Scene) :
    Call.keepAlive.request s =
      if s.tx.isActive ∧ s.tx.mode = .longRunning ∧ s.tx.continuation.isSome then
        some (.post s.tx.endpoint (requestPayload []))
      else none := by
  rcases hc : s.tx.continuation with _ | k <;>
    by_cases hT : s.tx.phase.isTerminal <;> simp [request, isActive, endpoint, hT, hc]

/-- A rollback deletes the endpoint of an active transaction open server-side, and sends
nothing otherwise. -/
theorem request_rollback (s : Scene) :
    Call.rollback.request s =
      if s.tx.isActive ∧ s.tx.continuation.isSome then some (.delete s.tx.endpoint) else none := by
  rcases hc : s.tx.continuation with _ | k <;>
    by_cases hT : s.tx.phase.isTerminal <;> simp [request, isActive, endpoint, hT, hc]

/-- Only a long-running transaction flushes. -/
theorem longRunning_of_request_flush {r : Request} (h : Call.flush.request s = some r) :
    s.tx.mode = .longRunning := by
  rw [request_flush] at h
  split at h
  · rename_i hc
    exact hc.2.1
  · cases h

end Call

namespace Transaction

/-- A long-running transaction commits at its endpoint with `/commit` put back. -/
theorem commitTarget_of_longRunning {t : Transaction} (h : t.mode = .longRunning) :
    t.commitTarget = t.endpoint ++ commitSuffix := by
  rcases hc : t.continuation with _ | k
  · simp [commitTarget, endpoint, hc, h, Endpoints.autocommit, commitSuffix]
  · simp [commitTarget, endpoint, hc, Continuation.commitUrl]

/-- Without a continuation a transaction commits where a single round trip commits at once. -/
theorem commitTarget_of_none {t : Transaction} (h : t.continuation = none) :
    t.commitTarget = t.endpoints.autocommit := by
  simp [commitTarget, h]

end Transaction

/-! ## What one call does to the route -/

namespace Scene

/-- The wire of `s` answered `r` with an envelope without server errors that names the
continuation `k`, and `k` is the transaction's continuation in `s'`. -/
def Renewed (s s' : Scene) (r : Request) : Prop :=
  ∃ body env k, (s.shared.wire.send r).1 = .ok body ∧ Envelope.ofBody body = .ok env ∧
    env.errors = [] ∧ env.continuation = .ok (some k) ∧ s'.tx.continuation = some k

/-- Whether a call from `s` with result `res` adopts the continuation of its reply: an accepted
flush, or an accepted keep-alive of a transaction open server-side. -/
def Renews (s : Scene) (c : Call) (res : Except ClientError Unit) : Prop :=
  c.renews ∧ res.isOk ∧ (c = .flush ∨ s.tx.continuation.isSome)

/-- The route law for an outcome `o` of a call `c` run from `s`: the wire moved on by exactly the
request `c.request s`, the mode and the base stay, and the continuation stays unless the call
renews it from the reply to that request. -/
structure RouteLaw (s : Scene) (c : Call) (o : Except ClientError Unit × Scene) : Prop where
  wire : o.2.shared.wire = (c.request s).elim s.shared.wire fun r ↦ (s.shared.wire.send r).2
  mode : o.2.tx.mode = s.tx.mode
  endpoints : o.2.tx.endpoints = s.tx.endpoints
  renewed : s.Renews c o.1 → ∃ r, c.request s = some r ∧ s.Renewed o.2 r
  kept : ¬s.Renews c o.1 → o.2.tx.continuation = s.tx.continuation

namespace RouteLaw

variable {s s' : Scene} {c : Call} {e : ClientError} {res : Except ClientError Unit} {r : Request}

theorem not_renews_error : ¬s.Renews c (.error e) := by
  simp [Renews, Except.isOk, Except.toBool]

/-- An outcome that sent nothing and kept the route. -/
theorem unsent (hr : c.request s = none) (hw : s'.shared.wire = s.shared.wire)
    (hm : s'.tx.mode = s.tx.mode) (he : s'.tx.endpoints = s.tx.endpoints)
    (hc : s'.tx.continuation = s.tx.continuation) (hn : ¬s.Renews c res) :
    s.RouteLaw c (res, s') where
  wire := by rw [hr, hw]; rfl
  mode := hm
  endpoints := he
  renewed h := absurd h hn
  kept _ := hc

/-- An outcome that sent `r` and kept the route. -/
theorem sent (hr : c.request s = some r) (hw : s'.shared.wire = (s.shared.wire.send r).2)
    (hm : s'.tx.mode = s.tx.mode) (he : s'.tx.endpoints = s.tx.endpoints)
    (hc : s'.tx.continuation = s.tx.continuation) (hn : ¬s.Renews c res) :
    s.RouteLaw c (res, s') where
  wire := by rw [hr, hw]; rfl
  mode := hm
  endpoints := he
  renewed h := absurd h hn
  kept _ := hc

theorem refusal (hr : c.request s = none) : s.RouteLaw c (.error e, s) :=
  unsent hr rfl rfl rfl rfl not_renews_error

theorem failed (hr : c.request s = none) : s.RouteLaw c (.error e, s.failed) :=
  unsent hr (by simp) (by simp) (by simp) (by simp) not_renews_error

theorem failedSent {w : Wire} (hr : c.request s = some r) (hs : (s.shared.wire.send r).2 = w) :
    s.RouteLaw c (.error e, (s.setWire w).failed) :=
  sent hr (by simp [hs]) (by simp) (by simp) (by simp) not_renews_error

/-- An outcome that sent `r` and adopted the continuation of an accepted reply. -/
theorem renew {reply : Reply} {w : Wire} {env : Envelope} {k : Continuation}
    (hr : c.request s = some r) (hs : s.shared.wire.send r = (reply, w))
    (hA : Answer.of reply = .accepted env) (hk : env.continuation = .ok (some k))
    (hw : s'.shared.wire = w) (hm : s'.tx.mode = s.tx.mode) (he : s'.tx.endpoints = s.tx.endpoints)
    (hc : s'.tx.continuation = some k) (hren : s.Renews c res) : s.RouteLaw c (res, s') where
  wire := by
    rw [hr, hw]
    simp [hs]
  mode := hm
  endpoints := he
  renewed _ := by
    obtain ⟨body, rfl, henv, herr⟩ := Answer.of_eq_accepted hA
    exact ⟨r, hr, body, env, k, by rw [hs], henv, herr, hk, hc⟩
  kept hn := absurd hren hn

end RouteLaw

end Scene

variable {s : Scene}

open RouteLaw in
theorem routeLaw_begin : s.RouteLaw .begin (begin.runOn s) := by
  have hn : ∀ res, ¬s.Renews .begin res := fun _ h ↦ by simp [Renews, Call.renews] at h
  rw [runOn_begin]
  split
  · exact .refusal (Call.request_begin s)
  split
  · exact .refusal (Call.request_begin s)
  split
  · exact .failed (Call.request_begin s)
  · exact .unsent (Call.request_begin s) rfl rfl rfl rfl (hn _)

open RouteLaw in
theorem routeLaw_add (r : Nat) : s.RouteLaw (.add r) ((add r).runOn s) := by
  have hn : ∀ res, ¬s.Renews (.add r) res := fun _ h ↦ by simp [Renews, Call.renews] at h
  rw [runOn_add]
  split
  · exact .refusal (Call.request_add r s)
  split
  · exact .failed (Call.request_add r s)
  split
  · exact .refusal (Call.request_add r s)
  · exact .unsent (Call.request_add r s) rfl rfl rfl rfl (hn _)

open RouteLaw in
theorem routeLaw_flush : s.RouteLaw .flush (flush.runOn s) := by
  rw [runOn_flush]
  split
  · exact .refusal (Call.request_of_terminal _ ‹_›)
  split
  · exact .refusal (by rw [Call.request_flush]; simp_all)
  split
  · exact .failed (by rw [Call.request_flush]; simp_all)
  split
  · exact .refusal (by rw [Call.request_flush]; simp_all)
  have hr : Call.flush.request s =
      some (.post s.tx.endpoint (requestPayload (s.shared.statements.collect s.tx.queue))) := by
    rw [Call.request_flush]
    simp_all
  rcases hsend : s.shared.wire.send
    (.post s.tx.endpoint (requestPayload (s.shared.statements.collect s.tx.queue))) with ⟨reply, w⟩
  dsimp only
  rcases hA : Answer.of reply with e | e | ⟨env, e⟩ | env <;> dsimp only
  · exact .failedSent hr (by rw [hsend])
  · exact .failedSent hr (by rw [hsend])
  · exact .sent hr (by simp [hsend]) rfl rfl rfl not_renews_error
  · rcases hk : env.continuation with e | _ | k <;> dsimp only
    · exact .failedSent hr (by rw [hsend])
    · exact .failedSent hr (by rw [hsend])
    · -- the continuation is adopted only when every queued statement was resolved
      obtain ⟨ss, hq | ⟨e, hq⟩⟩ := resolveQueue_outcome env (s.setWire w) <;> simp only [hq]
      · exact .renew hr hsend hA hk (by simp) (by simp) (by simp) (by simp) ⟨rfl, rfl, .inl rfl⟩
      · exact .sent hr (by simp [hsend]) (by simp) (by simp) (by simp) not_renews_error

open RouteLaw in
theorem routeLaw_commit : s.RouteLaw .commit (commit.runOn s) := by
  have hn : ∀ res, ¬s.Renews .commit res := fun _ h ↦ by simp [Renews, Call.renews] at h
  rw [runOn_commit]
  split
  · exact .refusal (Call.request_of_terminal _ ‹_›)
  split
  · exact .failed (by rw [Call.request_commit]; simp_all)
  split
  · exact .refusal (by rw [Call.request_commit]; simp_all)
  have hr : Call.commit.request s =
      some (.post s.tx.commitTarget (requestPayload (s.shared.statements.collect s.tx.queue))) := by
    rw [Call.request_commit]
    simp_all
  rcases hsend : s.shared.wire.send
    (.post s.tx.commitTarget (requestPayload (s.shared.statements.collect s.tx.queue))) with
    ⟨reply, w⟩
  dsimp only
  rcases hA : Answer.of reply with e | e | ⟨env, e⟩ | env <;> dsimp only
  · exact .failedSent hr (by rw [hsend])
  · exact .failedSent hr (by rw [hsend])
  · split
    · exact .sent hr (by simp [hsend]) (by simp) (by simp) (by simp) (hn _)
    · exact .failedSent hr (by rw [hsend])
  · obtain ⟨ss, hq | ⟨e, hq⟩⟩ := resolveQueue_outcome env (s.setWire w) <;> simp only [hq]
    · exact .sent hr (by simp [hsend]) (by simp) (by simp) (by simp) (hn _)
    · exact .sent hr (by simp [hsend]) (by simp) (by simp) (by simp) (hn _)

open RouteLaw in
theorem routeLaw_rollback : s.RouteLaw .rollback (rollback.runOn s) := by
  have hn : ∀ res, ¬s.Renews .rollback res := fun _ h ↦ by simp [Renews, Call.renews] at h
  rw [runOn_rollback]
  split
  · exact .refusal (Call.request_of_terminal _ ‹_›)
  rename_i hT
  rcases hc : s.tx.continuation with _ | k <;> dsimp only
  · exact .unsent (by rw [Call.request_rollback]; simp [hc]) (by simp [rolledBack])
      (by simp) (by simp) (by simp) (hn _)
  have hr : Call.rollback.request s = some (.delete k.endpoint) := by
    rw [Call.request_rollback]
    simp [hc, hT, isActive, endpoint]
  rcases hsend : s.shared.wire.send (.delete k.endpoint) with ⟨reply, w⟩
  dsimp only
  rcases Answer.of reply with e | e | ⟨env, e⟩ | env <;> dsimp only
  · exact .failedSent hr (by rw [hsend])
  · exact .failedSent hr (by rw [hsend])
  · exact .sent hr (by simp [rolledBack_setWire, hsend]) (by simp) (by simp) (by simp) (hn _)
  · exact .sent hr (by simp [rolledBack_setWire, hsend]) (by simp) (by simp) (by simp) (hn _)

open RouteLaw in
theorem routeLaw_keepAlive : s.RouteLaw .keepAlive (keepAlive.runOn s) := by
  rw [runOn_keepAlive]
  split
  · exact .refusal (Call.request_of_terminal _ ‹_›)
  split
  · exact .refusal (by rw [Call.request_keepAlive]; simp_all)
  rename_i hT hM
  rcases hc : s.tx.continuation with _ | k <;> dsimp only
  · -- nothing is open server-side yet: the call succeeds without sending
    exact .unsent (by rw [Call.request_keepAlive]; simp [hc]) rfl rfl rfl rfl
      (fun h ↦ by simp [Renews, hc] at h)
  have hr : Call.keepAlive.request s = some (.post k.endpoint (requestPayload [])) := by
    rw [Call.request_keepAlive]
    simp_all [isActive, endpoint]
  rcases hsend : s.shared.wire.send (.post k.endpoint (requestPayload [])) with ⟨reply, w⟩
  dsimp only
  rcases hA : Answer.of reply with e | e | ⟨env, e⟩ | env <;> dsimp only
  · exact .failedSent hr (by rw [hsend])
  · exact .failedSent hr (by rw [hsend])
  · exact .sent hr (by simp [hsend]) rfl rfl rfl not_renews_error
  · rcases hk : env.continuation with e | _ | k' <;> dsimp only
    · exact .failedSent hr (by rw [hsend])
    · exact .failedSent hr (by rw [hsend])
    · exact .renew hr hsend hA hk rfl rfl rfl rfl ⟨rfl, rfl, .inr (by simp [hc])⟩

/-- Every call obeys the route law. -/
theorem Call.routeLaw_perform (c : Call) (s : Scene) : s.RouteLaw c (c.perform.runOn s) := by
  cases c with
  | begin => exact routeLaw_begin
  | add r => exact routeLaw_add r
  | flush => exact routeLaw_flush
  | commit => exact routeLaw_commit
  | rollback => exact routeLaw_rollback
  | keepAlive => exact routeLaw_keepAlive

/-! ## Runs -/

namespace Step

/-- The request a step sent: the one its call names from the scene it ran in. -/
def sent (st : Step) : Option Request := st.call.request st.before

/-- The reply the step got to the request it sent. -/
def reply (st : Step) : Option Reply := st.sent.map fun r ↦ (st.before.shared.wire.send r).1

/-- Whether the step is a flush or a keep-alive that returned `ok`. -/
def refreshes (st : Step) : Bool := st.call.renews && st.ok

end Step

/-- Whether some step of a run is a flush that returned `ok`. -/
def flushedOk (steps : List Step) : Bool := steps.any fun st ↦ st.call == .flush && st.ok

@[simp] theorem flushedOk_nil : flushedOk [] = false := rfl

@[simp] theorem flushedOk_cons (st : Step) (steps : List Step) :
    flushedOk (st :: steps) = ((st.call == .flush && st.ok) || flushedOk steps) := rfl

theorem flushedOk_append (steps steps' : List Step) :
    flushedOk (steps ++ steps') = (flushedOk steps || flushedOk steps') := List.any_append

namespace Scene

variable {s : Scene}

theorem mode_runAll (s : Scene) (cs : List Call) : (s.runAll cs).tx.mode = s.tx.mode := by
  induction cs generalizing s with
  | nil => rfl
  | cons c cs ih => rw [runAll_cons, ih, (Call.routeLaw_perform c s).mode]

theorem endpoints_runAll (s : Scene) (cs : List Call) :
    (s.runAll cs).tx.endpoints = s.tx.endpoints := by
  induction cs generalizing s with
  | nil => rfl
  | cons c cs ih => rw [runAll_cons, ih, (Call.routeLaw_perform c s).endpoints]

/-- A call that is no flush or keep-alive returning `ok` keeps the continuation. -/
theorem continuation_make_of_not_refreshes (c : Call) (s : Scene)
    (h : (Step.make c s).refreshes = false) :
    (c.perform.runOn s).2.tx.continuation = s.tx.continuation := by
  refine (Call.routeLaw_perform c s).kept fun ⟨hc, hok, _⟩ ↦ ?_
  simp [Step.refreshes, Step.ok, Step.make, hc, hok] at h

/-- Steps none of which is a flush or keep-alive returning `ok` keep the continuation. -/
theorem continuation_runAll_of_not_refreshes (cs : List Call)
    (h : ∀ st ∈ s.trace cs, st.refreshes = false) :
    (s.runAll cs).tx.continuation = s.tx.continuation := by
  induction cs generalizing s with
  | nil => rfl
  | cons c cs ih =>
    rw [runAll_cons, ih (fun st hst ↦ h st (by simp [hst])),
      continuation_make_of_not_refreshes c s (h _ (by simp))]

/-- Once open server-side, a transaction stays so: a continuation is only ever replaced. -/
theorem isSome_continuation_runAll (cs : List Call) (h : s.tx.continuation.isSome) :
    (s.runAll cs).tx.continuation.isSome := by
  induction cs generalizing s with
  | nil => exact h
  | cons c cs ih =>
    refine ih ?_
    by_cases hr : s.Renews c (c.perform.runOn s).1
    · obtain ⟨_, _, _, _, _, _, _, _, _, hk⟩ := (Call.routeLaw_perform c s).renewed hr
      simp [hk]
    · rwa [(Call.routeLaw_perform c s).kept hr]

/-- Without a continuation, only a flush returning `ok` opens one. -/
theorem continuation_runAll_of_not_flushedOk (cs : List Call) (h : s.tx.continuation = none)
    (hf : flushedOk (s.trace cs) = false) : (s.runAll cs).tx.continuation = none := by
  induction cs generalizing s with
  | nil => exact h
  | cons c cs ih =>
    simp only [trace_cons, flushedOk_cons, Bool.or_eq_false_iff] at hf
    refine ih ?_ hf.2
    -- a keep-alive renews only what is open already
    have hn : ¬s.Renews c (c.perform.runOn s).1 := fun ⟨_, hok, hc⟩ ↦ by
      rcases hc with rfl | hc
      · simp [Step.make, Step.ok, hok] at hf
      · simp [h] at hc
    rw [(Call.routeLaw_perform c s).kept hn, h]

/-- A flush returning `ok` is a long-running transaction's. -/
theorem longRunning_of_flushedOk {cs : List Call} (h : flushedOk (s.trace cs)) :
    s.tx.mode = .longRunning := by
  obtain ⟨st, hst, hf⟩ := List.any_eq_true.1 h
  obtain ⟨pre, c, post, rfl, rfl⟩ := mem_trace hst
  simp only [Bool.and_eq_true, beq_iff_eq, Step.make_call] at hf
  obtain ⟨rfl, hok⟩ := hf
  obtain ⟨r, hr, -⟩ := (Call.routeLaw_perform .flush (s.runAll pre)).renewed ⟨rfl, hok, .inl rfl⟩
  rw [← mode_runAll s pre]
  exact Call.longRunning_of_request_flush hr

/-- From no continuation, a transaction is open server-side exactly when a flush returned `ok`. -/
theorem isSome_continuation_runAll_iff (cs : List Call) (h : s.tx.continuation = none) :
    (s.runAll cs).tx.continuation.isSome = flushedOk (s.trace cs) := by
  cases hf : flushedOk (s.trace cs)
  · simp [continuation_runAll_of_not_flushedOk cs h hf]
  · obtain ⟨st, hst, hfl⟩ := List.any_eq_true.1 hf
    obtain ⟨pre, c, post, rfl, rfl⟩ := mem_trace hst
    simp only [Bool.and_eq_true, beq_iff_eq, Step.make_call] at hfl
    obtain ⟨rfl, hok⟩ := hfl
    obtain ⟨_, _, _, _, _, _, _, _, _, hk⟩ :=
      (Call.routeLaw_perform .flush (s.runAll pre)).renewed ⟨rfl, hok, .inl rfl⟩
    rw [List.append_cons, runAll_append, runAll_concat]
    exact isSome_continuation_runAll post (by simp [hk])

end Scene

/-! ## The route of a run -/

namespace Scene

variable {s : Scene}

/-- Before any flush returns `ok`, a transaction has no continuation and goes where a
transaction of its mode begins. -/
theorem endpoint_runAll_of_not_flushedOk {cs : List Call} (h : s.tx.continuation = none)
    (hf : flushedOk (s.trace cs) = false) :
    (s.runAll cs).tx.endpoint =
        (match s.tx.mode with
          | .atomic => s.tx.endpoints.autocommit
          | .longRunning => s.tx.endpoints.transaction) ∧
      (s.runAll cs).tx.expiry = none := by
  have hc := continuation_runAll_of_not_flushedOk cs h hf
  rw [← mode_runAll s cs, ← endpoints_runAll s cs]
  refine ⟨?_, by simp [expiry, hc]⟩
  cases hm : (s.runAll cs).tx.mode <;> simp [endpoint, hc, hm]

/-- After the last flush or keep-alive that returned `ok`, when a flush returned `ok` by then,
the transaction continues where the reply to that call said, until the date it gave. -/
theorem route_runAll_of_last_refresh {pre post : List Call} {c : Call}
    (h : s.tx.continuation = none) (hc : (Step.make c (s.runAll pre)).refreshes)
    (hf : flushedOk (s.trace (pre ++ [c])))
    (hpost : ∀ st ∈ (s.runAll (pre ++ [c])).trace post, st.refreshes = false) :
    ∃ body env commit expires t,
      (Step.make c (s.runAll pre)).reply = some (.ok body) ∧ Envelope.ofBody body = .ok env ∧
      env.commit = some commit ∧ env.expires? = some expires ∧
      Time.parseRfc2822 (Text.trim expires) = .ok t ∧
      (s.runAll (pre ++ c :: post)).tx.endpoint = stripCommitSuffix commit ∧
      (s.runAll (pre ++ c :: post)).tx.expiry = some t := by
  simp only [Step.refreshes, Bool.and_eq_true, Step.make_call] at hc
  obtain ⟨hren, hok⟩ := hc
  -- the call renews: a flush always, a keep-alive since a flush before it opened the transaction
  have hR : (s.runAll pre).Renews c (c.perform.runOn (s.runAll pre)).1 := by
    refine ⟨hren, hok, ?_⟩
    by_cases hcf : c = .flush
    · exact .inl hcf
    · right
      rw [isSome_continuation_runAll_iff pre h]
      simpa [trace_append, flushedOk_append, hcf] using hf
  obtain ⟨r, hr, body, env, k, hbody, henv, -, hk, hk'⟩ := (Call.routeLaw_perform c _).renewed hR
  obtain ⟨commit, expires, hcommit, hexp, hend, hdate⟩ := Envelope.continuation_eq_some hk
  have hlast : (s.runAll (pre ++ c :: post)).tx.continuation = some k := by
    rw [List.append_cons, runAll_append, continuation_runAll_of_not_refreshes post hpost,
      runAll_concat, hk']
  refine ⟨body, env, commit, expires, k.expires, ?_, henv, hcommit, hexp, hdate, ?_, ?_⟩
  · simp [Step.reply, Step.sent, hr, hbody]
  · simp [endpoint, hlast, hend]
  · simp [expiry, hlast]

/-! ### What each call sends -/

/-- A flush posts to the endpoint, if it sends anything. -/
theorem sent_flush (pre : List Call) :
    ∀ r ∈ (Step.make .flush (s.runAll pre)).sent, ∃ p, r = .post (s.runAll pre).tx.endpoint p := by
  intro r hr
  simp only [Step.sent, Step.make_call, Step.make_before, Option.mem_def,
    Call.request_flush] at hr
  split at hr
  · cases hr
    exact ⟨_, rfl⟩
  · cases hr

/-- From no continuation, a keep-alive posts an empty batch to the endpoint of an active
transaction once a flush returned `ok`, and sends nothing otherwise. -/
theorem sent_keepAlive (h : s.tx.continuation = none) (pre : List Call) :
    (Step.make .keepAlive (s.runAll pre)).sent =
      if (s.runAll pre).tx.isActive ∧ flushedOk (s.trace pre) then
        some (.post (s.runAll pre).tx.endpoint (requestPayload []))
      else none := by
  have hlr : flushedOk (s.trace pre) → s.tx.mode = .longRunning := longRunning_of_flushedOk
  simp only [Step.sent, Step.make_call, Step.make_before, Call.request_keepAlive,
    isSome_continuation_runAll_iff pre h]
  by_cases hf : flushedOk (s.trace pre) <;> simp [hf, mode_runAll, hlr]

/-- From no continuation, a commit posts to the endpoint with `/commit` put back, or, for an
atomic transaction, where an atomic round trip commits. -/
theorem sent_commit (h : s.tx.continuation = none) (pre : List Call) :
    ∀ r ∈ (Step.make .commit (s.runAll pre)).sent, ∃ p, r = .post
      (match s.tx.mode with
        | .atomic => s.tx.endpoints.autocommit
        | .longRunning => (s.runAll pre).tx.endpoint ++ "/commit") p := by
  intro r hr
  simp only [Step.sent, Step.make_call, Step.make_before, Option.mem_def,
    Call.request_commit] at hr
  split at hr
  · cases hr
    refine ⟨_, congr (congrArg Request.post ?_) rfl⟩
    cases hm : s.tx.mode
    · -- an atomic transaction never opens server-side
      have hnone : (s.runAll pre).tx.continuation = none := by
        cases hf : flushedOk (s.trace pre)
        · exact continuation_runAll_of_not_flushedOk pre h hf
        · cases hm.symm.trans (longRunning_of_flushedOk hf)
      rw [commitTarget_of_none hnone, endpoints_runAll]
    · exact commitTarget_of_longRunning ((mode_runAll s pre).trans hm)
  · cases hr

/-- From no continuation, a rollback deletes the endpoint of an active transaction once a flush
returned `ok`, and sends nothing otherwise. -/
theorem sent_rollback (h : s.tx.continuation = none) (pre : List Call) :
    (Step.make .rollback (s.runAll pre)).sent =
      if (s.runAll pre).tx.isActive ∧ flushedOk (s.trace pre) then
        some (.delete (s.runAll pre).tx.endpoint)
      else none := by
  simp only [Step.sent, Step.make_call, Step.make_before, Call.request_rollback,
    isSome_continuation_runAll_iff pre h]

end Scene

/-- Every run of a fresh transaction over any wire, with `B` the normalized base. Until a flush
returns `ok`, the endpoint is `B/transaction` for a long-running transaction and
`B/transaction/commit` for an atomic one, and there is no expiry. After that, the endpoint is the
commit URL named by the reply to the last flush or keep-alive that returned `ok`, less its
`/commit`, and the expiry is the RFC 2822 date of that same reply. Every call sends the request
of its step, and that request follows the endpoint: a flush posts to it; a keep-alive posts an
empty batch to it if the transaction is active and a flush returned `ok` before, and sends nothing
otherwise; a commit posts to it with `/commit` put back, an atomic one to `B/transaction/commit`;
a rollback deletes it if the transaction is active and a flush returned `ok` before, and sends
nothing otherwise. -/
theorem endpoint_follows_last_renewal (raw : String) (id : Nat) (m : Mode) (b : Option Binding)
    (shared : Shared) (cs : List Call) :
    let s : Scene := ⟨.fresh id m (Endpoints.ofBase raw) b, shared⟩
    let B := (Endpoints.ofBase raw).base
    (flushedOk (s.trace cs) = false →
      (s.runAll cs).tx.endpoint =
        (match m with
          | .atomic => B ++ "/transaction/commit"
          | .longRunning => B ++ "/transaction") ∧
      (s.runAll cs).tx.expiry = none) ∧
    (∀ pre c post, cs = pre ++ c :: post → (Step.make c (s.runAll pre)).refreshes →
      flushedOk (s.trace (pre ++ [c])) →
      (∀ st ∈ (s.runAll (pre ++ [c])).trace post, st.refreshes = false) →
      ∃ body env commit expires t,
        (Step.make c (s.runAll pre)).reply = some (.ok body) ∧ Envelope.ofBody body = .ok env ∧
        env.commit = some commit ∧ env.expires? = some expires ∧
        Time.parseRfc2822 (Text.trim expires) = .ok t ∧
        (s.runAll cs).tx.endpoint = stripCommitSuffix commit ∧ (s.runAll cs).tx.expiry = some t) ∧
    (∀ pre c post, cs = pre ++ c :: post →
      let st := Step.make c (s.runAll pre)
      st.after.shared.wire =
          st.sent.elim st.before.shared.wire (fun r ↦ (st.before.shared.wire.send r).2) ∧
        (c = .flush → ∀ r ∈ st.sent, ∃ p, r = .post st.before.tx.endpoint p) ∧
        (c = .keepAlive → st.sent =
          if st.before.tx.isActive ∧ flushedOk (s.trace pre) then
            some (.post st.before.tx.endpoint (requestPayload []))
          else none) ∧
        (c = .commit → ∀ r ∈ st.sent, ∃ p, r = .post
          (match m with
            | .atomic => B ++ "/transaction/commit"
            | .longRunning => st.before.tx.endpoint ++ "/commit") p) ∧
        (c = .rollback → st.sent =
          if st.before.tx.isActive ∧ flushedOk (s.trace pre) then
            some (.delete st.before.tx.endpoint)
          else none)) := by
  intro s B
  have h0 : s.tx.continuation = none := rfl
  have hauto : (Endpoints.ofBase raw).autocommit = B ++ "/transaction/commit" := by
    simp only [Endpoints.autocommit, Endpoints.transaction, String.append_assoc]
    rfl
  refine ⟨fun hf ↦ ?_, fun pre c post hcs hc hf hpost ↦ ?_, fun pre c post _ ↦ ?_⟩
  · obtain ⟨hend, hexp⟩ := endpoint_runAll_of_not_flushedOk h0 hf
    refine ⟨?_, hexp⟩
    rw [hend]
    cases m
    · exact hauto
    · rfl
  · subst hcs
    exact route_runAll_of_last_refresh h0 hc hf hpost
  · refine ⟨(Call.routeLaw_perform c _).wire, ?_, ?_, ?_, ?_⟩
    · rintro rfl
      exact sent_flush pre
    · rintro rfl
      exact sent_keepAlive h0 pre
    · rintro rfl r hr
      obtain ⟨p, hp⟩ := sent_commit h0 pre r hr
      refine ⟨p, hp.trans ?_⟩
      cases m
      · rw [← hauto]
        rfl
      · rfl
    · rintro rfl
      exact sent_rollback h0 pre

/-- A detached transaction under the base `http://h/` begins, flushes and keeps itself alive,
each reply naming a new commit URL: it ends at the endpoint the keep-alive's reply named, less
its `/commit`. -/
theorem endpoint_follows_last_renewal_keepAlive :
    let open₇ := "\x7b\"commit\":\"http://h/transaction/7/commit\"," ++
      "\"transaction\":\x7b\"expires\":\"Fri, 14 Oct 2016 15:20:38 +0000\"\x7d\x7d"
    let open₈ := "\x7b\"commit\":\"http://h/transaction/8/commit\"," ++
      "\"transaction\":\x7b\"expires\":\"Fri, 14 Oct 2016 15:21:38 +0000\"\x7d\x7d"
    let s : Scene := ⟨.fresh 0 .longRunning (Endpoints.ofBase "http://h/") none,
      ⟨.scripted [.ok open₇, .ok open₈] [], .empty, .empty⟩⟩
    (Step.make .keepAlive (s.runAll [.begin, .flush])).refreshes ∧
      flushedOk (s.trace [.begin, .flush, .keepAlive]) ∧
      ∃ body env commit expires t,
        (Step.make .keepAlive (s.runAll [.begin, .flush])).reply = some (.ok body) ∧
        Envelope.ofBody body = .ok env ∧ env.commit = some commit ∧ env.expires? = some expires ∧
        Time.parseRfc2822 (Text.trim expires) = .ok t ∧
        (s.runAll [.begin, .flush, .keepAlive]).tx.endpoint = stripCommitSuffix commit ∧
        (s.runAll [.begin, .flush, .keepAlive]).tx.expiry = some t := by
  intro open₇ open₈ s
  have hc : (Step.make .keepAlive (s.runAll [.begin, .flush])).refreshes := by decide +kernel
  have hf : flushedOk (s.trace [.begin, .flush, .keepAlive]) := by decide +kernel
  exact ⟨hc, hf, (endpoint_follows_last_renewal "http://h/" 0 .longRunning none s.shared
    [.begin, .flush, .keepAlive]).2.1 [.begin, .flush] .keepAlive [] rfl hc hf (by simp)⟩

end GraphWire
