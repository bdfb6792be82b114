import GraphWire.Proofs.Client.Settle
import GraphWire.Cli.Run
import Mathlib.Data.List.Basic

/-!
# The batch command

`graphtx batch FILE --flush-every N` runs the queries of a file (its lines trimmed, blank ones
and those starting with `//` left out) as row statements of one long-running transaction, under
a fresh registry key: it adds them in order, flushes after every `N`-th (never when `N` is zero)
and commits at the end, then prints one line per query with the rows its statement returned.

Against a server that accepts every round trip, the command makes `k / N` flushes of `N`
statements each, in file order, then one commit of the `k - N * (k / N)` statements left; the
first flush posts to `B/transaction`, each later one to the continuation the reply to the flush
before it named, and the commit to that continuation's commit URL, or to `B/transaction/commit`
when no flush was made. Statement `i` is resolved from the fragment at its position in the reply
to the round trip that carried it (`BatchScript.fragment`). If the server rejects one of these
round trips, nothing more is posted: the transaction is rolled back, which deletes the current
endpoint when a flush was accepted before, and the command fails.

The proof follows the run statement by statement. After `t` statements and `f` accepted flushes
the client is `BatchScript.clientAfter f t`: the wire has given out `f` replies, the first
`f * N` statements are resolved, and the rest since the last flush are queued. One lemma per
kind of step (`add`, an accepted flush, a rejected flush) moves this state on, `addBatch_items`
runs them over the whole file by induction, and settling the transaction ends the run.
-/

namespace GraphWire

/-! ## Replies the server rejects -/

theorem Answer.of_eq_rejected {reply : Reply} {env : Envelope} {e : ClientError}
    (h : Answer.of reply = .rejected env e) :
    ∃ body, reply = .ok body ∧ Envelope.ofBody body = .ok env ∧
      ClientError.ofServerErrors env.errors = some e := by
  rcases reply with _ | body
  · cases h
  · rcases henv : Envelope.ofBody body with _ | env'
    · simp [Answer.of, henv] at h
    · rcases herr : ClientError.ofServerErrors env'.errors with _ | e'
      · simp [Answer.of, henv, herr] at h
      · simp only [Answer.of, henv, herr, Answer.rejected.injEq] at h
        obtain ⟨rfl, rfl⟩ := h
        exact ⟨body, rfl, henv, herr⟩

/-! ## Round trips the server accepts -/

section Accepted

open Scene Transaction TxM

variable {s : Scene} {req : Request} {reply : Reply} {w : Wire} {env : Envelope}

/-- After the round trip, a queue of unresolved statements that the reply has fragments for is
filled from them. -/
theorem runOn_resolveQueue_fits (hnd : s.tx.queue.Nodup)
    (hu : ∀ r ∈ s.tx.queue, s.shared.statements.isResolved r = false)
    (hlen : s.tx.queue.length ≤ env.results.length) :
    (resolveQueue env).runOn (s.setWire w) =
      (.ok (), (s.setWire w).setStatements
        (s.shared.statements.fillAll s.tx.queue env.results)) := by
  rw [runOn_resolveQueue env (s.setWire w) hnd hu]
  exact if_pos hlen

/-- A flush whose reply is accepted, names a continuation and has a fragment for every queued
statement moves to that continuation, fills the queue from the reply and empties it. -/
theorem runOn_flush_accepted {k : Continuation} (hreq : Call.flush.request s = some req)
    (hsend : s.shared.wire.send req = (reply, w)) (hA : Answer.of reply = .accepted env)
    (hK : env.continuation = .ok (some k)) (hnd : s.tx.queue.Nodup)
    (hlen : s.tx.queue.length ≤ env.results.length) :
    flush.runOn s =
      (.ok (), ⟨{ s.tx with continuation := some k, queue := [], phase := .flushed },
        { s.shared with
          wire := w
          statements := s.shared.statements.fillAll s.tx.queue env.results }⟩) := by
  obtain ⟨hT, ⟨hM, hB, hR⟩, rfl⟩ := by simpa [Call.request] using hreq
  have hR' : s.tx.queue.any s.shared.statements.isResolved = false := List.any_eq_false.2 (by simpa)
  rw [runOn_flush, if_neg (by simp [hT]), if_neg (by simp [hM]), if_neg (by simp [hB]),
    if_neg (by simp [hR']), hsend]
  simp only [hA, hK, runOn_resolveQueue_fits hnd (by simpa using hR) hlen]
  rfl

/-- A commit whose reply is accepted and has a fragment for every queued statement fills the
queue from the reply, empties it, ends committed and drops the binding. -/
theorem runOn_commit_accepted (hreq : Call.commit.request s = some req)
    (hsend : s.shared.wire.send req = (reply, w)) (hA : Answer.of reply = .accepted env)
    (hnd : s.tx.queue.Nodup) (hlen : s.tx.queue.length ≤ env.results.length) :
    commit.runOn s =
      (.ok (), Scene.release ⟨{ s.tx with queue := [], phase := .committed },
        { s.shared with
          wire := w
          statements := s.shared.statements.fillAll s.tx.queue env.results }⟩) := by
  obtain ⟨hT, ⟨hB, hR⟩, rfl⟩ := by simpa [Call.request] using hreq
  have hg : ¬(s.tx.mode = .longRunning ∧ s.tx.begun = false) := by
    rintro ⟨hm, hb⟩
    simp [hB hm] at hb
  have hR' : s.tx.queue.any s.shared.statements.isResolved = false := List.any_eq_false.2 (by simpa)
  rw [runOn_commit, if_neg (by simp [hT]), if_neg hg, if_neg (by simp [hR']), hsend]
  simp only [hA, runOn_resolveQueue_fits hnd (by simpa using hR) hlen]
  rfl

end Accepted

/-! ## Client steps -/

theorem ClientM.run_pure {α : Type} (a : α) (c : Client) : (pure a : ClientM α).run c = (a, c) :=
  rfl

/-- An operation on the transaction of a client with a single cell. -/
theorem Client.run_single {α : Type} {c : Client} {tx : Transaction} (h : c.cells = [tx])
    (op : TxM α) :
    (Client.run 0 op).run c =
      ((op.runOn ⟨tx, c.shared⟩).1,
        { c with
          cells := [(op.runOn ⟨tx, c.shared⟩).2.tx]
          shared := (op.runOn ⟨tx, c.shared⟩).2.shared }) := by
  obtain ⟨e, sh, cells, held, n⟩ := c
  obtain rfl : cells = [tx] := h
  rfl

/-- A client is built only as a client of the configured base URL over the wire. -/
theorem Client.ofConfig_eq_ok {c : ClientConfig} {wire : Wire} {client : Client}
    (h : Client.ofConfig c wire = .ok client) : client = Client.ofWire c.baseUrl wire := by
  unfold Client.ofConfig at h
  rcases hv : c.validate with e | ⟨⟩ <;> simp only [hv] at h
  · cases h
  · by_cases hu : isHeaderValue c.userAgent
    · simp [hu, Except.mapError, Functor.map, Except.map] at h
      exact h.symm
    · simp [hu, Except.mapError, bind, Except.bind, throw, throwThe, MonadExceptOf.throw] at h

/-- A configuration that validates, with a user agent that can stand in a header, builds the
client of its base URL. -/
theorem Client.ofConfig_of_valid {c : ClientConfig} {wire : Wire} (hv : c.validate = .ok ())
    (hu : isHeaderValue c.userAgent = true) :
    Client.ofConfig c wire = .ok (Client.ofWire c.baseUrl wire) := by
  simp [Client.ofConfig, hv, hu, Except.mapError]

/-- Giving a lock back and closing a scope touch neither the wire nor the statements. -/
theorem Client.shared_close (took : Bool) (cell : Nat) (sc : Scope) (c : Client) :
    ((if took then c.act (.unhold cell) else c).act (.close sc)).shared.wire = c.shared.wire ∧
      ((if took then c.act (.unhold cell) else c).act (.close sc)).shared.statements =
        c.shared.statements := by
  rw [Client.act_close]
  cases took
  · exact ⟨rfl, rfl⟩
  · rw [if_pos rfl, Client.act_unhold]
    split <;> exact ⟨rfl, rfl⟩

/-- A request sent or not on a scripted wire is recorded or not. -/
theorem Wire.sent_elim_send (o : Option Request) (rs : List Reply) (l : List Request) :
    (o.elim (Wire.scripted rs l) fun r ↦ ((Wire.scripted rs l).send r).2).sent =
      l ++ o.toList := by
  cases o with
  | none => simp [Wire.sent]
  | some r => exact Wire.sent_send_scripted rs l r

namespace Cli

/-! ## Adding a batch, statement by statement -/

/-- What adding one statement of a batch does: store it, queue it, and flush when it closes a run
of `flushEvery`; its reference. -/
def batchStep (cell flushEvery index : Nat) (q : String) : ClientM (Except ClientError Nat) := do
  let r ← Client.addStatement (Statement.row q)
  match ← Client.run cell (Transaction.add r) with
  | .error e => return .error e
  | .ok () =>
    let flushed ← if flushesAfter flushEvery index then Client.run cell Transaction.flush
      else pure (.ok ())
    match flushed with
    | .error e => return .error e
    | .ok () => return .ok r

/-- Adding a batch is a step for its first statement, then the rest unless the step failed. -/
theorem run_addBatch_cons (cell N i : Nat) (q : String) (rest : List (Nat × String)) (c : Client) :
    (addBatch cell N ((i, q) :: rest)).run c =
      match (batchStep cell N i q).run c with
      | (.error e, c') => (.error e, c')
      | (.ok r, c') =>
        match (addBatch cell N rest).run c' with
        | (.ok rs, c'') => (.ok (r :: rs), c'')
        | (.error e, c'') => (.error e, c'') := by
  simp only [addBatch, batchStep, ClientM.run_bind]
  rcases (Client.addStatement (Statement.row q)).run c with ⟨r, c₁⟩
  dsimp only
  rcases (Client.run cell (Transaction.add r)).run c₁ with ⟨e | ⟨⟩, c₂⟩
  · rfl
  dsimp only
  split
  · simp only [ClientM.run_bind]
    rcases (Client.run cell Transaction.flush).run c₂ with ⟨e | ⟨⟩, c₃⟩
    · rfl
    simp only [ClientM.run_bind, ClientM.run_pure]
    rcases (addBatch cell N rest).run c₃ with ⟨e | rs, c₄⟩ <;> rfl
  · simp only [ClientM.run_bind, ClientM.run_pure]
    rcases (addBatch cell N rest).run c₂ with ⟨e | rs, c₄⟩ <;> rfl

/-- Adding two batches one after the other adds the second only when the first went through. -/
theorem run_addBatch_append (cell N : Nat) (xs ys : List (Nat × String)) (c : Client) :
    (addBatch cell N (xs ++ ys)).run c =
      match (addBatch cell N xs).run c with
      | (.ok rs, c') =>
        match (addBatch cell N ys).run c' with
        | (.ok rs', c'') => (.ok (rs ++ rs'), c'')
        | (.error e, c'') => (.error e, c'')
      | (.error e, c') => (.error e, c') := by
  induction xs generalizing c with
  | nil =>
    rw [List.nil_append, show (addBatch cell N []).run c = (.ok [], c) from rfl]
    dsimp only
    rcases (addBatch cell N ys).run c with ⟨_ | _, _⟩ <;> rfl
  | cons x xs ih =>
    obtain ⟨i, q⟩ := x
    rw [List.cons_append, run_addBatch_cons, run_addBatch_cons]
    rcases (batchStep cell N i q).run c with ⟨e | r, c₁⟩
    · rfl
    dsimp only
    rw [ih]
    rcases (addBatch cell N xs).run c₁ with ⟨e | rs, c₂⟩
    · rfl
    dsimp only
    rcases (addBatch cell N ys).run c₂ with ⟨e | rs', c₃⟩ <;> rfl

/-- A flush follows statement `t` exactly when `t + 1` is a positive multiple of `N`; it is then
the `(t + 1) / N`-th flush. -/
theorem flushesAfter_iff (N t : Nat) : flushesAfter N t = true ↔ 0 < N ∧ N ∣ t + 1 := by
  simp [flushesAfter, Nat.dvd_iff_mod_eq_zero]

theorem succ_div_of_flushesAfter {N t : Nat} (h : flushesAfter N t) :
    (t + 1) / N = t / N + 1 ∧ t + 1 = (t / N + 1) * N := by
  obtain ⟨-, hd⟩ := (flushesAfter_iff N t).1 h
  have hs : (t + 1) / N = t / N + 1 := Nat.succ_div_of_dvd hd
  exact ⟨hs, by rw [← hs, Nat.div_mul_cancel hd]⟩

theorem succ_div_of_not_flushesAfter {N t : Nat} (h : ¬flushesAfter N t) :
    (t + 1) / N = t / N := by
  rcases Nat.eq_zero_or_pos N with hN | hN
  · simp [hN]
  · exact Nat.succ_div_of_not_dvd fun hd ↦ h ((flushesAfter_iff N t).2 ⟨hN, hd⟩)

/-! ## A run of the batch command -/

/-- What a run of the batch command works with: the client's endpoints, the registry key of its
transaction, the queries, how often it flushes, the wire's replies in order and the requests it
recorded before, and what the server answers: the envelope the reply to round trip `j` reads as,
and the continuation the reply to flush `j` names. -/
structure BatchScript where
  endpoints : Endpoints
  key : ContextKey
  queries : List String
  every : Nat
  replies : List Reply
  sent : List Request
  envelope : Nat → Envelope
  continuation : Nat → Continuation

namespace BatchScript

variable (b : BatchScript)

/-- The number of flushes: one after every `every` statements, none when `every` is zero. -/
def flushes : Nat := b.queries.length / b.every

/-- The query at a position. -/
def query (i : Nat) : String := b.queries.getD i ""

/-- The number of statements round trip `j` carries: `every` for a flush, what is left for the
commit. -/
def size (j : Nat) : Nat :=
  if j < b.flushes then b.every else b.queries.length - b.flushes * b.every

/-- The round trip that carries statement `i`: the flush it is part of, or the commit for the
statements after the last flush. -/
def carrier (i : Nat) : Nat := min (i / b.every) b.flushes

/-- The fragment statement `i` is resolved from: the one at its position in the reply to the
round trip that carries it. -/
def fragment (i : Nat) : Fragment :=
  (b.envelope (b.carrier i)).results.getD (i - b.carrier i * b.every) default

/-- Statement `i`, resolved. -/
def resolved (i : Nat) : Statement := (Statement.row (b.query i)).filled (b.fragment i)

/-- Statement `i` once the first `n` statements are resolved. -/
def statementAt (n i : Nat) : Statement :=
  if i < n then b.resolved i else Statement.row (b.query i)

/-- The store of the first `t` statements, the first `n` of them resolved. -/
def statementsAt (n t : Nat) : Statements := ⟨(List.range t).map (b.statementAt n)⟩

/-- Where flush `j` posts: where a transaction begins, then where the reply to the flush before
it continues. -/
def flushUrl : Nat → String
  | 0 => b.endpoints.transaction
  | j + 1 => (b.continuation j).endpoint

/-- Where the commit posts: the commit URL of the last flush's continuation, or where a
transaction commits at once when no flush was made. -/
def commitUrl : String :=
  match b.flushes with
  | 0 => b.endpoints.autocommit
  | j + 1 => (b.continuation j).commitUrl

/-- Flush `j` posts the `j`-th run of `every` queries. -/
def flushRequest (j : Nat) : Request :=
  .post (b.flushUrl j)
    (requestPayload (((b.queries.drop (j * b.every)).take b.every).map Statement.row))

/-- The commit posts the queries after the last flush. -/
def commitRequest : Request :=
  .post b.commitUrl (requestPayload ((b.queries.drop (b.flushes * b.every)).map Statement.row))

/-- The server accepts round trip `j`: its reply reads as envelope `j`, with a fragment for each
statement the round trip carries, and the reply to a flush names continuation `j`. -/
def Accepts (j : Nat) : Prop :=
  (∃ reply, b.replies[j]? = some reply ∧ Answer.of reply = .accepted (b.envelope j)) ∧
    b.size j ≤ (b.envelope j).results.length ∧
    (j < b.flushes → (b.envelope j).continuation = .ok (some (b.continuation j)))

/-- The first `u` statements, each with its position. -/
def items (u : Nat) : List (Nat × String) := (List.range u).map fun i => (i, b.query i)

/-- The transaction after `t` statements and `f` flushes: begun, bound under the key, at the
continuation of the last flush, with the statements since it queued. -/
def txAfter (f t : Nat) : Transaction where
  id := 0
  mode := .longRunning
  endpoints := b.endpoints
  continuation := match f with
    | 0 => none
    | j + 1 => some (b.continuation j)
  queue := List.range' (f * b.every) (t - f * b.every)
  phase := match f with
    | 0 => .open
    | _ + 1 => .flushed
  begun := true
  binding := some ⟨b.key, 0⟩

/-- The wire after `f` flushes, each given its reply. -/
def wireAfter (f : Nat) : Wire :=
  .scripted (b.replies.drop f) (b.sent ++ (List.range f).map b.flushRequest)

/-- What the transaction shares after `f` flushes, with `t` statements stored. -/
def sharedAfter (f t : Nat) : Shared :=
  ⟨b.wireAfter f, b.statementsAt (f * b.every) t, ⟨[(b.key, ⟨0, 0⟩)]⟩⟩

/-- The client after `t` statements and `f` accepted flushes. -/
def clientAfter (f t : Nat) : Client :=
  ⟨b.endpoints, b.sharedAfter f t, [b.txAfter f t], [0], 1⟩

@[simp] theorem shared_clientAfter (f t : Nat) : (b.clientAfter f t).shared = b.sharedAfter f t :=
  rfl

@[simp] theorem wire_sharedAfter (f t : Nat) : (b.sharedAfter f t).wire = b.wireAfter f := rfl

@[simp] theorem transaction_clientAfter (f t : Nat) :
    (b.clientAfter f t).transaction 0 = b.txAfter f t :=
  rfl

/-- The batch run on a fresh client of a base URL over the scripted wire: the statements added
in the transaction of the key, then settled. -/
def batchRun (base : String) : Except ClientError (List Nat) × Client :=
  (Client.inTransaction b.key fun cell ↦ addBatch cell b.every (b.items b.queries.length)).run
    (Client.ofWire base (.scripted b.replies b.sent))

/-! ### The statement store -/

section Store

variable {b}

theorem get?_statementsAt (n t i : Nat) :
    (b.statementsAt n t).get? i = if i < t then some (b.statementAt n i) else none := by
  by_cases h : i < t <;> simp [statementsAt, Statements.get?, h]

theorem statementAt_of_le {n i : Nat} (h : n ≤ i) : b.statementAt n i = .row (b.query i) :=
  if_neg (Nat.not_lt.2 h)

theorem statementAt_of_lt {n i : Nat} (h : i < n) : b.statementAt n i = b.resolved i := if_pos h

/-- Storing the next statement, unresolved, gives it the next reference. -/
theorem push_statementsAt {n t : Nat} (h : n ≤ t) :
    (b.statementsAt n t).push (.row (b.query t)) = (t, b.statementsAt n (t + 1)) := by
  simp [Statements.push, statementsAt, List.range_succ, statementAt_of_le h]

theorem isResolved_statementsAt {n t i : Nat} (h : n ≤ i) :
    (b.statementsAt n t).isResolved i = false := by
  by_cases ht : i < t
  · simp [Statements.isResolved, get?_statementsAt, ht, statementAt_of_le h]
    rfl
  · simp [Statements.isResolved, get?_statementsAt, ht]

/-- The statements queued since the last flush are the unresolved rows of their queries. -/
theorem collect_statementsAt {n t : Nat} (h : n ≤ t) :
    (b.statementsAt n t).collect (List.range' n (t - n)) =
      (List.range' n (t - n)).map fun i => Statement.row (b.query i) := by
  rw [Statements.collect, ← List.filterMap_eq_map]
  apply List.filterMap_congr
  intro i hi
  obtain ⟨h1, h2⟩ := List.mem_range'_1.1 hi
  simp [get?_statementsAt, show i < t by omega, statementAt_of_le h1]

/-- The queries at a run of positions inside the file, in order. -/
theorem map_query_range' {a l : Nat} (h : a + l ≤ b.queries.length) :
    (List.range' a l).map b.query = (b.queries.drop a).take l := by
  apply List.ext_getElem?
  intro i
  by_cases hi : i < l
  · have hlt : a + i < b.queries.length := by omega
    simp [hi, query, List.getElem?_eq_getElem hlt]
  · -- past the run both lists have ended
    rw [List.getElem?_eq_none (by simp only [List.length_map, List.length_range']; omega),
      List.getElem?_eq_none (by simp only [List.length_take, List.length_drop]; omega)]

theorem Statements.ext_get? {s s' : Statements} (h : ∀ r, s.get? r = s'.get? r) : s = s' := by
  cases s
  cases s'
  congr
  exact List.ext_getElem? h

/-- Filling the statements queued since position `n` from fragments that are theirs resolves
them, and leaves the rest as they were. -/
theorem fillAll_statementsAt {n t : Nat} {R : List Fragment} (hn : n ≤ t)
    (hR : t - n ≤ R.length)
    (hf : ∀ i, n ≤ i → i < t → b.fragment i = R.getD (i - n) default) :
    (b.statementsAt n t).fillAll (List.range' n (t - n)) R = b.statementsAt t t := by
  apply Statements.ext_get?
  intro i
  by_cases hin : n ≤ i ∧ i < t
  · -- statement `i` is queued at position `i - n` and filled from the fragment there
    obtain ⟨h1, h2⟩ := hin
    have hq : (List.range' n (t - n))[i - n]? = some i := by
      rw [List.getElem?_range' (by omega)]
      congr 1
      omega
    have hr : R[i - n]? = some (b.fragment i) := by
      rw [hf i h1 h2, ← List.getElem_eq_getD (h := by omega), List.getElem?_eq_getElem (by omega)]
    rw [Statements.get?_fillAll_of_getElem? _ List.nodup_range' hq hr, get?_statementsAt,
      get?_statementsAt, if_pos h2, if_pos h2, statementAt_of_le h1, statementAt_of_lt h2]
    rfl
  · have hnot : i ∉ List.range' n (t - n) := fun hm ↦
      hin (by have := List.mem_range'_1.1 hm; omega)
    rw [Statements.get?_fillAll_of_not_mem _ _ hnot, get?_statementsAt, get?_statementsAt]
    by_cases h2 : i < t
    · rw [if_pos h2, if_pos h2, statementAt_of_lt (by omega), statementAt_of_lt h2]
    · rw [if_neg h2, if_neg h2]

end Store

/-! ### Round trips -/

section RoundTrips

variable {b}

/-- The statements from flush `f` on, up to the commit, are carried by round trip `f`. -/
theorem carrier_eq {f i : Nat} (hf : f ≤ b.flushes) (h1 : f * b.every ≤ i)
    (h2 : f < b.flushes → i < (f + 1) * b.every) : b.carrier i = f := by
  unfold carrier
  rcases Nat.eq_zero_or_pos b.every with he | he
  · have hm : b.flushes = 0 := by simp [flushes, he]
    rw [hm, Nat.min_zero]
    omega
  · have hle : f ≤ i / b.every := (Nat.le_div_iff_mul_le he).2 h1
    by_cases hlt : f < b.flushes
    · have : i / b.every < f + 1 := (Nat.div_lt_iff_lt_mul he).2 (h2 hlt)
      omega
    · omega

/-- There is a flush only when flushes are made at all. -/
theorem every_pos {f : Nat} (hf : f < b.flushes) : 0 < b.every :=
  Nat.pos_of_ne_zero fun h ↦ by simp [flushes, h] at hf

/-- The statements of a flush are all in the file. -/
theorem succ_mul_every_le {f : Nat} (hf : f < b.flushes) :
    (f + 1) * b.every ≤ b.queries.length :=
  Nat.le_trans (Nat.mul_le_mul_right _ hf) (Nat.div_mul_le_self _ _)

theorem fragment_eq {f i : Nat} (hf : f ≤ b.flushes) (h1 : f * b.every ≤ i)
    (h2 : f < b.flushes → i < (f + 1) * b.every) :
    b.fragment i = (b.envelope f).results.getD (i - f * b.every) default := by
  rw [fragment, carrier_eq hf h1 h2]

/-- Round trip `f` takes the next scripted reply and records its request. -/
theorem send_wireAfter {f : Nat} {reply : Reply} (h : b.replies[f]? = some reply) (r : Request) :
    (b.wireAfter f).send r =
      (reply, .scripted (b.replies.drop (f + 1))
        (b.sent ++ (List.range f).map b.flushRequest ++ [r])) := by
  obtain ⟨hlt, rfl⟩ := List.getElem?_eq_some_iff.1 h
  rw [wireAfter, List.drop_eq_getElem_cons hlt]
  rfl

theorem wireAfter_succ (f : Nat) :
    Wire.scripted (b.replies.drop (f + 1)) (b.sent ++ (List.range f).map b.flushRequest ++
      [b.flushRequest f]) = b.wireAfter (f + 1) := by
  simp [wireAfter, List.range_succ]

end RoundTrips

/-! ### The transaction's requests -/

section Requests

variable {b}

@[simp] theorem mode_txAfter (f t : Nat) : (b.txAfter f t).mode = .longRunning := rfl

@[simp] theorem begun_txAfter (f t : Nat) : (b.txAfter f t).begun = true := rfl

@[simp] theorem isTerminal_txAfter (f t : Nat) : (b.txAfter f t).phase.isTerminal = false := by
  cases f <;> rfl

theorem endpoint_txAfter (f t : Nat) : (b.txAfter f t).endpoint = b.flushUrl f := by
  cases f <;> rfl

theorem commitTarget_txAfter (t : Nat) : (b.txAfter b.flushes t).commitTarget = b.commitUrl := by
  unfold commitUrl
  cases b.flushes <;> rfl

/-- Nothing queued since the last flush is resolved. -/
theorem any_isResolved_txAfter (f t : Nat) :
    (b.txAfter f t).queue.any (b.sharedAfter f t).statements.isResolved = false := by
  rw [List.any_eq_false]
  intro i hi
  simp [sharedAfter, isResolved_statementsAt (List.mem_range'_1.1 hi).1]

/-- What is queued since the last flush, posted as rows in order. -/
theorem payload_txAfter {f t : Nat} (h : f * b.every ≤ t) (ht : t ≤ b.queries.length) :
    requestPayload ((b.sharedAfter f t).statements.collect (b.txAfter f t).queue) =
      requestPayload
        (((b.queries.drop (f * b.every)).take (t - f * b.every)).map Statement.row) := by
  simp only [sharedAfter, txAfter]
  rw [collect_statementsAt h, ← map_query_range' (by omega), List.map_map]
  rfl

theorem request_flush_txAfter {f t : Nat} (h : f * b.every ≤ t) (ht : t ≤ b.queries.length) :
    Call.flush.request ⟨b.txAfter f t, b.sharedAfter f t⟩ =
      some (.post (b.flushUrl f)
        (requestPayload
          (((b.queries.drop (f * b.every)).take (t - f * b.every)).map Statement.row))) := by
  rw [← payload_txAfter h ht, ← endpoint_txAfter f t]
  simp [Call.request, any_isResolved_txAfter]

theorem request_commit_txAfter :
    Call.commit.request
        ⟨b.txAfter b.flushes b.queries.length, b.sharedAfter b.flushes b.queries.length⟩ =
      some b.commitRequest := by
  have h : b.flushes * b.every ≤ b.queries.length := Nat.div_mul_le_self _ _
  rw [commitRequest, ← commitTarget_txAfter b.queries.length,
    ← List.take_of_length_le (l := b.queries.drop _) (Nat.le_of_eq (List.length_drop ..)),
    ← payload_txAfter h (Nat.le_refl _)]
  simp [Call.request, any_isResolved_txAfter]

end Requests

/-! ### Steps of the client -/

section Steps

variable {b}

/-- Storing statement `t`, unresolved, under the next reference. -/
theorem addStatement_clientAfter {f t : Nat} (h : f * b.every ≤ t) :
    (Client.addStatement (.row (b.query t))).run (b.clientAfter f t) =
      (t, { b.clientAfter f t with shared := b.sharedAfter f (t + 1) }) := by
  simp only [Client.addStatement, StateT.run_modifyGet, clientAfter, sharedAfter,
    push_statementsAt h]
  rfl

theorem txAfter_push {f t : Nat} (h : f * b.every ≤ t) :
    { b.txAfter f t with queue := (b.txAfter f t).queue ++ [t] } = b.txAfter f (t + 1) := by
  simp only [txAfter, Transaction.mk.injEq, true_and, and_true]
  rw [Nat.succ_sub h, List.range'_concat, Nat.one_mul, Nat.add_sub_cancel' h]

/-- Queueing statement `t` once it is stored. -/
theorem queue_clientAfter {f t : Nat} (h : f * b.every ≤ t) :
    (Client.run 0 (Transaction.add t)).run
        { b.clientAfter f t with shared := b.sharedAfter f (t + 1) } =
      (.ok (), b.clientAfter f (t + 1)) := by
  have hq : t ∉ (b.txAfter f t).queue := fun hm ↦ by
    have := List.mem_range'_1.1 hm
    omega
  have hr : (b.sharedAfter f (t + 1)).statements.isResolved t = false := isResolved_statementsAt h
  rw [Client.run_single rfl, Transaction.runOn_add, if_neg (by simp), if_neg (by simp [txAfter]),
    if_neg (by simp [hr, hq])]
  show _ = (_, Client.mk b.endpoints (b.sharedAfter f (t + 1)) [b.txAfter f (t + 1)] [0] 1)
  rw [← txAfter_push h]
  rfl

/-- An accepted flush `f`, made when its run of statements is queued, resolves them and moves the
transaction to the continuation the reply names. -/
theorem flush_clientAfter {f t : Nat} (hf : f < b.flushes) (ht : t = (f + 1) * b.every)
    (hacc : b.Accepts f) :
    (Client.run 0 Transaction.flush).run (b.clientAfter f t) =
      (.ok (), b.clientAfter (f + 1) t) := by
  obtain ⟨⟨reply, hrep, hA⟩, hlen, hK⟩ := hacc
  subst ht
  have hle : f * b.every ≤ (f + 1) * b.every := Nat.mul_le_mul_right _ (Nat.le_succ f)
  have hk := succ_mul_every_le hf
  have hsz : (f + 1) * b.every - f * b.every = b.size f := by
    rw [size, if_pos hf, Nat.succ_mul, Nat.add_sub_cancel_left]
  have hreq : Call.flush.request
      ⟨b.txAfter f ((f + 1) * b.every), b.sharedAfter f ((f + 1) * b.every)⟩ =
        some (b.flushRequest f) := by
    rw [request_flush_txAfter hle hk, hsz, size, if_pos hf]
    rfl
  have hqlen :
      (b.txAfter f ((f + 1) * b.every)).queue.length ≤ (b.envelope f).results.length := by
    simp only [txAfter, List.length_range']
    omega
  have hfill := fillAll_statementsAt (b := b) hle (by omega)
    (fun i h1 h2 ↦ fragment_eq (Nat.le_of_lt hf) h1 (fun _ ↦ h2))
  rw [Client.run_single rfl, shared_clientAfter,
    runOn_flush_accepted hreq (send_wireAfter hrep _) hA (hK hf) List.nodup_range' hqlen,
    wireAfter_succ]
  simp only [clientAfter, sharedAfter, txAfter, hfill, Nat.sub_self, List.range'_zero]

/-- A flush the server rejects only records its request: the statements stay queued. -/
theorem flush_clientAfter_rejected {f t : Nat} (hf : f < b.flushes) (ht : t = (f + 1) * b.every)
    {reply : Reply} {env : Envelope} {e : ClientError} (hrep : b.replies[f]? = some reply)
    (hA : Answer.of reply = .rejected env e) :
    (Client.run 0 Transaction.flush).run (b.clientAfter f t) =
      (.error e, { b.clientAfter f t with
        shared := { b.sharedAfter f t with wire := b.wireAfter (f + 1) } }) := by
  obtain ⟨body, rfl, henv, he⟩ := Answer.of_eq_rejected hA
  have hle : f * b.every ≤ t := by rw [ht]; exact Nat.mul_le_mul_right _ (Nat.le_succ f)
  have hk : t ≤ b.queries.length := ht ▸ succ_mul_every_le hf
  have hsend := send_wireAfter hrep (b.flushRequest f)
  have hreq :
      Call.flush.request ⟨b.txAfter f t, b.sharedAfter f t⟩ = some (b.flushRequest f) := by
    rw [request_flush_txAfter hle hk, ht, Nat.succ_mul, Nat.add_sub_cancel_left]
    rfl
  have hw :
      ((⟨b.txAfter f t, b.sharedAfter f t⟩ : Scene).shared.wire.send (b.flushRequest f)).2 =
        b.wireAfter (f + 1) := by
    rw [← wireAfter_succ]
    exact congrArg Prod.snd hsend
  rw [Client.run_single rfl, shared_clientAfter,
    runOn_flush_rejected (by exact congrArg Prod.fst hsend) henv he hreq, hw]
  rfl

end Steps

/-! ### The whole batch -/

section Run

variable {b}

theorem lt_flushes_of_flushesAfter {t : Nat} (ht : t < b.queries.length)
    (h : flushesAfter b.every t) : t / b.every < b.flushes := by
  obtain ⟨he, -⟩ := (flushesAfter_iff _ _).1 h
  obtain ⟨-, ht1⟩ := succ_div_of_flushesAfter h
  exact (Nat.le_div_iff_mul_le he).2 (show (t / b.every + 1) * b.every ≤ _ by omega)

/-- Statement `t` goes through: stored, queued, and, when it closes a run, flushed. -/
theorem batchStep_clientAfter {t : Nat} (ht : t < b.queries.length)
    (hacc : flushesAfter b.every t → b.Accepts (t / b.every)) :
    (batchStep 0 b.every t (b.query t)).run (b.clientAfter (t / b.every) t) =
      (.ok t, b.clientAfter ((t + 1) / b.every) (t + 1)) := by
  have hle : t / b.every * b.every ≤ t := Nat.div_mul_le_self t b.every
  simp only [batchStep, ClientM.run_bind, addStatement_clientAfter hle]
  rw [queue_clientAfter hle]
  dsimp only
  by_cases hfl : flushesAfter b.every t
  · obtain ⟨hs, ht1⟩ := succ_div_of_flushesAfter hfl
    rw [if_pos hfl, ClientM.run_bind,
      flush_clientAfter (lt_flushes_of_flushesAfter ht hfl) ht1 (hacc hfl), hs]
    rfl
  · rw [if_neg hfl, succ_div_of_not_flushesAfter hfl]
    rfl

/-- Statement `t`, closing run `j`, is stored and queued, but the server rejects the flush. -/
theorem batchStep_clientAfter_rejected {j t : Nat} (hj : j < b.flushes)
    (ht : t + 1 = (j + 1) * b.every) {reply : Reply} {env : Envelope} {e : ClientError}
    (hrep : b.replies[j]? = some reply) (hA : Answer.of reply = .rejected env e) :
    (batchStep 0 b.every t (b.query t)).run (b.clientAfter j t) =
      (.error e, { b.clientAfter j (t + 1) with
        shared := { b.sharedAfter j (t + 1) with wire := b.wireAfter (j + 1) } }) := by
  have he := every_pos hj
  have hle : j * b.every ≤ t := by rw [Nat.succ_mul] at ht; omega
  have hfl : flushesAfter b.every t :=
    (flushesAfter_iff _ _).2 ⟨he, ht ▸ Nat.dvd_mul_left _ _⟩
  simp only [batchStep, ClientM.run_bind, addStatement_clientAfter hle]
  rw [queue_clientAfter hle]
  dsimp only
  rw [if_pos hfl, ClientM.run_bind, flush_clientAfter_rejected hj ht hrep hA]
  rfl

theorem items_succ (u : Nat) : b.items (u + 1) = b.items u ++ [(u, b.query u)] := by
  simp [items, List.range_succ]

theorem items_split {u : Nat} (h : u < b.queries.length) :
    ∃ rest, b.items b.queries.length = b.items u ++ (u, b.query u) :: rest := by
  refine ⟨(List.range' (u + 1) (b.queries.length - (u + 1))).map fun i => (i, b.query i), ?_⟩
  have hr : List.range b.queries.length =
      List.range u ++ u :: List.range' (u + 1) (b.queries.length - (u + 1)) := by
    have h1 : List.range' 0 u ++ List.range' u (b.queries.length - u) =
        List.range' 0 b.queries.length := by
      have := List.range'_append_1 (s := 0) (m := u) (n := b.queries.length - u)
      rwa [Nat.zero_add, Nat.add_sub_cancel' (Nat.le_of_lt h)] at this
    rw [List.range_eq_range', List.range_eq_range', ← h1,
      show b.queries.length - u = b.queries.length - (u + 1) + 1 by omega, List.range'_succ]
  simp [items, hr]

/-- With every flush before position `u` accepted, the first `u` statements go through. -/
theorem addBatch_items {u : Nat} (hu : u ≤ b.queries.length)
    (hacc : ∀ j < u / b.every, b.Accepts j) :
    (addBatch 0 b.every (b.items u)).run (b.clientAfter 0 0) =
      (.ok (List.range u), b.clientAfter (u / b.every) u) := by
  induction u with
  | zero => simp [items]; rfl
  | succ u ih =>
    have hmono : u / b.every ≤ (u + 1) / b.every := Nat.div_le_div_right (Nat.le_succ u)
    have hnext : flushesAfter b.every u → b.Accepts (u / b.every) := fun hfl ↦
      hacc _ (by rw [(succ_div_of_flushesAfter hfl).1]; omega)
    rw [items_succ, run_addBatch_append, ih (by omega) (fun j hj ↦ hacc j (by omega))]
    dsimp only
    rw [run_addBatch_cons, batchStep_clientAfter (by omega) hnext, List.range_succ]
    rfl

/-- When the server rejects flush `j`, after accepting those before it, adding the batch stops
there, with the statements of run `j` stored and queued and nothing more sent. -/
theorem addBatch_items_rejected {j : Nat} (hj : j < b.flushes) (hacc : ∀ i < j, b.Accepts i)
    {reply : Reply} {env : Envelope} {e : ClientError} (hrep : b.replies[j]? = some reply)
    (hA : Answer.of reply = .rejected env e) :
    (addBatch 0 b.every (b.items b.queries.length)).run (b.clientAfter 0 0) =
      (.error e, { b.clientAfter j ((j + 1) * b.every) with
        shared := { b.sharedAfter j ((j + 1) * b.every) with wire := b.wireAfter (j + 1) } }) := by
  have he := every_pos hj
  have hk := succ_mul_every_le hj
  obtain ⟨u, hu⟩ : ∃ u, u + 1 = (j + 1) * b.every :=
    ⟨(j + 1) * b.every - 1, Nat.sub_add_cancel (Nat.mul_pos (Nat.succ_pos j) he)⟩
  have hdiv : u / b.every = j := Nat.div_eq_of_lt_le (by rw [Nat.succ_mul] at hu; omega) (by omega)
  obtain ⟨rest, hsplit⟩ := b.items_split (show u < b.queries.length by omega)
  rw [hsplit, run_addBatch_append, addBatch_items (by omega) (fun i hi ↦ hacc i (hdiv ▸ hi)),
    hdiv]
  dsimp only
  rw [run_addBatch_cons, batchStep_clientAfter_rejected hj hu hrep hA, hu]

end Run

/-- A round trip is accepted when its reply is a body that reads as its envelope, without
errors, with a fragment per statement it carries, and naming its continuation for a flush. -/
theorem accepts_of_body {b : BatchScript} {j : Nat} {body : String}
    (hr : b.replies[j]? = some (.ok body)) (henv : Envelope.ofBody body = .ok (b.envelope j))
    (herr : (b.envelope j).errors = []) (hsize : b.size j ≤ (b.envelope j).results.length)
    (hcont : j < b.flushes → (b.envelope j).continuation = .ok (some (b.continuation j))) :
    b.Accepts j :=
  ⟨⟨_, hr, by simp [Answer.of, henv, herr, ClientError.ofServerErrors]⟩, hsize, hcont⟩

/-! ### Settling the batch -/

section Settle

variable {b}

/-- The transaction of a fresh scope is bound, unflushed and begun. -/
theorem clientAfter_zero :
    b.clientAfter 0 0 =
      ⟨b.endpoints, ⟨.scripted b.replies b.sent, ⟨[]⟩, ⟨[(b.key, ⟨0, 0⟩)]⟩⟩,
        [{ Transaction.longRunning 0 b.endpoints (some ⟨b.key, 0⟩) with begun := true }],
        [0], 1⟩ := by
  simp [clientAfter, sharedAfter, wireAfter, statementsAt, txAfter, Transaction.longRunning,
    Transaction.fresh]

/-- Opening the scope of the key on a fresh client binds a new transaction in cell 0, takes its
lock and begins it, without a round trip. -/
theorem open_ofWire {base : String} (hE : b.endpoints = Endpoints.ofBase base) :
    ∃ c₁ c₂, (Client.scope b.key).run (Client.ofWire base (.scripted b.replies b.sent)) =
        (⟨b.key, 0, 0⟩, c₁) ∧
      (Client.hold 0).run c₁ = (true, c₂) ∧
      (Client.ensureBegun 0).run c₂ = (.ok (), b.clientAfter 0 0) := by
  refine ⟨_, _, rfl, rfl, ?_⟩
  rw [clientAfter_zero, hE]
  rfl

/-- An accepted commit resolves the statements after the last flush. -/
theorem commit_clientAfter (hacc : b.Accepts b.flushes) :
    Transaction.commit.runOn
        ⟨b.txAfter b.flushes b.queries.length, b.sharedAfter b.flushes b.queries.length⟩ =
      (.ok (), Scene.release
        ⟨{ b.txAfter b.flushes b.queries.length with queue := [], phase := .committed },
          ⟨.scripted (b.replies.drop (b.flushes + 1))
              (b.sent ++ (List.range b.flushes).map b.flushRequest ++ [b.commitRequest]),
            b.statementsAt b.queries.length b.queries.length,
            ⟨[(b.key, ⟨0, 0⟩)]⟩⟩⟩) := by
  obtain ⟨⟨reply, hrep, hA⟩, hlen, -⟩ := hacc
  have hle : b.flushes * b.every ≤ b.queries.length := Nat.div_mul_le_self _ _
  have hsz : b.size b.flushes = b.queries.length - b.flushes * b.every := if_neg (Nat.lt_irrefl _)
  have hqlen : (b.txAfter b.flushes b.queries.length).queue.length ≤
      (b.envelope b.flushes).results.length := by
    simp only [txAfter, List.length_range']
    omega
  have hfill := fillAll_statementsAt (b := b) hle (by omega)
    (fun i h1 _ ↦ fragment_eq (Nat.le_refl _) h1 (fun h ↦ absurd h (Nat.lt_irrefl _)))
  rw [runOn_commit_accepted request_commit_txAfter (send_wireAfter hrep _) hA List.nodup_range'
    hqlen]
  simp only [sharedAfter, txAfter, hfill] at hfill ⊢

/-- A commit the server rejects drops the binding and records its request. -/
theorem commit_clientAfter_rejected {reply : Reply} {env : Envelope} {e : ClientError}
    (hrep : b.replies[b.flushes]? = some reply) (hA : Answer.of reply = .rejected env e) :
    Transaction.commit.runOn
        ⟨b.txAfter b.flushes b.queries.length, b.sharedAfter b.flushes b.queries.length⟩ =
      (.error e, Scene.release
        ⟨b.txAfter b.flushes b.queries.length,
          { b.sharedAfter b.flushes b.queries.length with
            wire := .scripted (b.replies.drop (b.flushes + 1))
              (b.sent ++ (List.range b.flushes).map b.flushRequest ++ [b.commitRequest]) }⟩) := by
  obtain ⟨body, rfl, henv, he⟩ := Answer.of_eq_rejected hA
  have hsend := send_wireAfter hrep b.commitRequest
  rw [runOn_commit_rejected (by exact congrArg Prod.fst hsend) henv he request_commit_txAfter]
  simp only [mode_txAfter, if_true]
  show (_, Scene.release ⟨b.txAfter b.flushes b.queries.length,
    { b.sharedAfter b.flushes b.queries.length with
      wire := ((b.wireAfter b.flushes).send b.commitRequest).2 }⟩) = _
  rw [hsend]

/-- A rollback after `j` flushes deletes the server-side transaction if a flush opened one. -/
theorem request_rollback_txAfter {s : Scene} {j t : Nat}
    (hc : s.tx.continuation = (b.txAfter j t).continuation) (hT : s.tx.phase.isTerminal = false) :
    Call.rollback.request s = if j = 0 then none else some (.delete (b.flushUrl j)) := by
  rw [Call.request_rollback]
  cases j <;> simp [Transaction.isActive, Transaction.endpoint, hc, hT, txAfter, flushUrl]

end Settle

/-! ### How a batch ends -/

section Outcomes

variable {b} {base : String}

/-- With every flush accepted, the whole batch is added and the transaction settled; giving its
lock back and closing its scope change neither the wire nor the statements. -/
theorem batchRun_of_flushes (hE : b.endpoints = Endpoints.ofBase base)
    (hacc : ∀ i < b.flushes, b.Accepts i) :
    let o := (Client.settle 0 (List.range b.queries.length)).run
      (b.clientAfter b.flushes b.queries.length)
    (b.batchRun base).1 = o.1 ∧ (b.batchRun base).2.shared.wire = o.2.shared.wire ∧
      (b.batchRun base).2.shared.statements = o.2.shared.statements := by
  obtain ⟨c₁, c₂, h₁, h₂, h₃⟩ := open_ofWire hE
  rw [batchRun, Client.run_inTransaction h₁ h₂ h₃ (addBatch_items (Nat.le_refl _) hacc)]
  exact ⟨rfl, Client.shared_close _ _ _ _⟩

/-- With every round trip accepted the batch commits: its references come back, every statement
is resolved, and the wire recorded the flushes and then the commit. -/
theorem batchRun_accepted (hE : b.endpoints = Endpoints.ofBase base)
    (hacc : ∀ j ≤ b.flushes, b.Accepts j) :
    (b.batchRun base).1 = .ok (List.range b.queries.length) ∧
      (b.batchRun base).2.shared.statements = b.statementsAt b.queries.length b.queries.length ∧
      (b.batchRun base).2.shared.wire.sent =
        b.sent ++ (List.range b.flushes).map b.flushRequest ++ [b.commitRequest] := by
  obtain ⟨h₁, hw, hs⟩ := batchRun_of_flushes hE fun j hj ↦ hacc j (Nat.le_of_lt hj)
  have hc := commit_clientAfter (hacc _ (Nat.le_refl _))
  rw [h₁, hw, hs, Client.run_settle, transaction_clientAfter,
    if_pos (by simp [Transaction.isActive]), shared_clientAfter, hc]
  simp only [Client.act_call, Call.perform, transaction_clientAfter, shared_clientAfter, hc]
  exact ⟨trivial, rfl, rfl⟩

/-- A rollback after `j` flushes records a deletion of the server-side transaction exactly when
a flush opened it. -/
theorem sent_rollBackQuietly {c : Client} {j t : Nat} {bd : Option Binding}
    (hc : c.cells = [{ b.txAfter j t with binding := bd }]) {rs : List Reply} {l : List Request}
    (hw : c.shared.wire = .scripted rs l) :
    ((Client.rollBackQuietly 0).run c).2.shared.wire.sent =
      l ++ if j = 0 then [] else [.delete (b.flushUrl j)] := by
  have ht : c.transaction 0 = { b.txAfter j t with binding := bd } := by
    simp [Client.transaction, hc]
  have ha : (c.transaction 0).isActive := by simp [ht, Transaction.isActive]
  rw [Client.run_rollBackQuietly, if_pos ha, Client.act_call]
  dsimp only [Call.perform]
  rw [routeLaw_rollback.wire, request_rollback_txAfter (by rw [ht]) (by simp [ht]), hw,
    Wire.sent_elim_send]
  split <;> rfl

/-- When the server rejects flush `j`, after accepting those before it, the batch fails with the
server's error, nothing more is posted, and the rollback deletes the server-side transaction
exactly when an earlier flush opened it. -/
theorem batchRun_flush_rejected (hE : b.endpoints = Endpoints.ofBase base) {j : Nat}
    (hj : j < b.flushes) (hacc : ∀ i < j, b.Accepts i) {reply : Reply} {env : Envelope}
    {e : ClientError} (hrep : b.replies[j]? = some reply) (hA : Answer.of reply = .rejected env e) :
    (b.batchRun base).1 = .error e ∧
      (b.batchRun base).2.shared.wire.sent =
        b.sent ++ (List.range j).map b.flushRequest ++ [b.flushRequest j] ++
          if j = 0 then [] else [.delete (b.flushUrl j)] := by
  obtain ⟨c₁, c₂, h₁, h₂, h₃⟩ := open_ofWire hE
  rw [batchRun, Client.run_inTransaction h₁ h₂ h₃ (addBatch_items_rejected hj hacc hrep hA)]
  dsimp only
  rw [ClientM.run_bind, ClientM.run_pure]
  refine ⟨rfl, ?_⟩
  rw [(Client.shared_close _ _ _ _).1]
  exact sent_rollBackQuietly rfl (by
    simp only [wireAfter, List.range_succ, List.map_append, List.map_cons, List.map_nil,
      ← List.append_assoc]
    rfl)

/-- When the server rejects the commit, after accepting every flush, the batch fails with the
server's error, and the rollback deletes the server-side transaction exactly when a flush opened
it. -/
theorem batchRun_commit_rejected (hE : b.endpoints = Endpoints.ofBase base)
    (hacc : ∀ i < b.flushes, b.Accepts i) {reply : Reply} {env : Envelope} {e : ClientError}
    (hrep : b.replies[b.flushes]? = some reply) (hA : Answer.of reply = .rejected env e) :
    (b.batchRun base).1 = .error e ∧
      (b.batchRun base).2.shared.wire.sent =
        b.sent ++ (List.range b.flushes).map b.flushRequest ++ [b.commitRequest] ++
          if b.flushes = 0 then [] else [.delete (b.flushUrl b.flushes)] := by
  obtain ⟨h₁, hw, -⟩ := batchRun_of_flushes hE hacc
  have hc := commit_clientAfter_rejected hrep hA
  rw [h₁, hw, Client.run_settle, transaction_clientAfter,
    if_pos (by simp [Transaction.isActive]), shared_clientAfter, hc]
  dsimp only
  rw [if_pos (Answer.isRemote_of_rejected hA)]
  refine ⟨rfl, ?_⟩
  simp only [Client.act_call, Call.perform, transaction_clientAfter, shared_clientAfter, hc]
  exact sent_rollBackQuietly rfl rfl

end Outcomes

end BatchScript

/-! ## The batch command -/

section Command

open BatchScript

variable {qs : List String} {N : Nat} {c c' : Client}

/-- A batch whose transaction failed reports the failure, as the server's rejection when it
came from the server. -/
theorem run_runBatch_error (hq : qs ≠ []) {e : ClientError}
    (h : (Client.inTransaction (ContextKey.fresh 0) fun cell ↦
      addBatch cell N (qs.zipIdx.map fun (q, i) => (i, q))).run c = (.error e, c')) :
    (runBatch qs N).run c =
      (.error ⟨if e.isRemote then "Server rejected the batch; transaction rolled back"
        else "Batch failed", e.chain⟩, c') := by
  simp only [runBatch, ClientM.run_bind, List.isEmpty_iff, hq, if_false]
  rw [h]
  rfl

/-- A batch whose transaction committed reports each statement by its position and its rows, then
the number committed. -/
theorem run_runBatch_ok (hq : qs ≠ []) {refs : List Nat}
    (h : (Client.inTransaction (ContextKey.fresh 0) fun cell ↦
      addBatch cell N (qs.zipIdx.map fun (q, i) => (i, q))).run c = (.ok refs, c')) :
    (runBatch qs N).run c =
      (.ok (String.join (refs.zipIdx.map fun (r, i) =>
          let s := c'.statement? r
          batchLine i (((s.bind Statement.rowSet?).map RowSet.size).getD 0)
            ((s.map Statement.query).getD "")) ++
        "Committed " ++ toString refs.length ++ " statements\n"), c') := by
  simp only [runBatch, ClientM.run_bind, List.isEmpty_iff, hq, if_false]
  rw [h]
  rfl

/-- The batch command runs the batch on the client its configuration builds. -/
theorem runWork_batch {host : Host} {wire : Wire} {cfg : ClientConfig} {file content : String}
    (hc : Client.ofConfig cfg wire = .ok c) (hr : host.read file = .ok content) :
    runWork host wire cfg (.batch file N) =
      match (runBatch (batchQueries content) N).run c with
      | (.ok out, c') => ((out, none), c'.shared.wire)
      | (.error f, c') => (("", some f), c'.shared.wire) := by
  unfold runWork
  simp only [hc, hr]
  rcases (runBatch (batchQueries content) N).run c with ⟨_ | _, _⟩ <;> rfl

/-- The statements of the file, each with its position, as the command numbers them. -/
theorem zipIdx_queries (b : BatchScript) :
    (b.queries.zipIdx.map fun (q, i) => (i, q)) = b.items b.queries.length := by
  apply List.ext_getElem?
  intro n
  by_cases hn : n < b.queries.length
  · simp [BatchScript.items, hn, BatchScript.query]
  · simp [BatchScript.items, hn]

theorem zipIdx_range (k : Nat) : (List.range k).zipIdx = (List.range k).map fun i ↦ (i, i) := by
  apply List.ext_getElem?
  intro n
  by_cases hn : n < k <;> simp [hn]

/-- Once every statement is resolved, the line of statement `i` gives the rows of its fragment. -/
theorem report_lines (b : BatchScript)
    (hs : c.shared.statements = b.statementsAt b.queries.length b.queries.length) :
    ((List.range b.queries.length).zipIdx.map fun (r, i) =>
        let s := c.statement? r
        batchLine i (((s.bind Statement.rowSet?).map RowSet.size).getD 0)
          ((s.map Statement.query).getD "")) =
      (List.range b.queries.length).map fun i ↦
        batchLine i (RowSet.ofFragment (b.fragment i)).size (b.query i) := by
  rw [zipIdx_range, List.map_map]
  apply List.map_congr_left
  intro i hi
  have hst : c.statement? i = some (b.resolved i) := by
    have hi' : i < b.queries.length := List.mem_range.1 hi
    rw [Client.statement?, hs, BatchScript.get?_statementsAt, if_pos hi',
      BatchScript.statementAt_of_lt hi']
  simp only [Function.comp_apply, hst]
  rfl

/-- The batch command against a server that answers each round trip with the next scripted
reply. The `k ≥ 1` queries of the file are sent in order: `k / N` flushes of `N` statements each
(none when `N` is zero), the first to `B/transaction` and each later one to the continuation the
reply to the flush before it named, then one commit of the statements left, to the commit URL of
the last continuation, or to `B/transaction/commit` when no flush was made. When the server
accepts every round trip, the command prints one line per query, in file order, with the rows of
its statement, then the count. When it rejects one, after accepting those before it, nothing more
is posted, the command fails as a rejected batch, and the rollback deletes the current endpoint
exactly when a flush was accepted before. -/
theorem batch_flushes_then_commits (host : Host) (cfg : ClientConfig) (file content : String)
    (N : Nat) (replies : List Reply) (sent : List Request) (client : Client)
    (envelope : Nat → Envelope) (continuation : Nat → Continuation)
    (hclient : Client.ofConfig cfg (.scripted replies sent) = .ok client)
    (hread : host.read file = .ok content) (hk : batchQueries content ≠ []) :
    let b : BatchScript := ⟨Endpoints.ofBase cfg.baseUrl, ContextKey.fresh 0, batchQueries content,
      N, replies, sent, envelope, continuation⟩
    let o := runWork host (.scripted replies sent) cfg (.batch file N)
    ((∀ j ≤ b.flushes, b.Accepts j) →
      o.1 = (String.join ((List.range b.queries.length).map fun i ↦
          batchLine i (RowSet.ofFragment (b.fragment i)).size (b.query i)) ++
        "Committed " ++ toString b.queries.length ++ " statements\n", none) ∧
      o.2.sent = sent ++ (List.range b.flushes).map b.flushRequest ++ [b.commitRequest]) ∧
    (∀ j ≤ b.flushes, (∀ i < j, b.Accepts i) →
      ∀ reply env e, replies[j]? = some reply → Answer.of reply = .rejected env e →
        o.1 = ("", some ⟨"Server rejected the batch; transaction rolled back", e.chain⟩) ∧
        o.2.sent = sent ++ (List.range j).map b.flushRequest ++
          [if j < b.flushes then b.flushRequest j else b.commitRequest] ++
          if j = 0 then [] else [.delete (b.flushUrl j)]) := by
  intro b o
  obtain rfl := Client.ofConfig_eq_ok hclient
  have hE : b.endpoints = Endpoints.ofBase cfg.baseUrl := rfl
  have ho : o = match (runBatch b.queries b.every).run
      (Client.ofWire cfg.baseUrl (.scripted b.replies b.sent)) with
      | (.ok out, c') => ((out, none), c'.shared.wire)
      | (.error f, c') => (("", some f), c'.shared.wire) := runWork_batch hclient hread
  -- the command's transaction is the batch run of the script
  have hrun : (Client.inTransaction (ContextKey.fresh 0) fun cell ↦
      addBatch cell N (b.queries.zipIdx.map fun (q, i) => (i, q))).run
        (Client.ofWire cfg.baseUrl (.scripted replies sent)) = b.batchRun cfg.baseUrl := by
    rw [zipIdx_queries]
    rfl
  refine ⟨fun hacc ↦ ?_, fun j hj hacc reply env e hrep hA ↦ ?_⟩
  · obtain ⟨h1, h2, h3⟩ := batchRun_accepted hE hacc
    have hb : b.batchRun cfg.baseUrl =
        (.ok (List.range b.queries.length), (b.batchRun cfg.baseUrl).2) := Prod.ext h1 rfl
    rw [ho, run_runBatch_ok hk (hrun.trans hb), report_lines b h2, List.length_range]
    exact ⟨rfl, h3⟩
  · have hfail : (b.batchRun cfg.baseUrl).1 = .error e →
        o = (("", some ⟨"Server rejected the batch; transaction rolled back", e.chain⟩),
          (b.batchRun cfg.baseUrl).2.shared.wire) := fun h1 ↦ by
      have hb : b.batchRun cfg.baseUrl = (.error e, (b.batchRun cfg.baseUrl).2) := Prod.ext h1 rfl
      rw [ho, run_runBatch_error hk (hrun.trans hb), if_pos (Answer.isRemote_of_rejected hA)]
    rcases Nat.lt_or_ge j b.flushes with hlt | hge
    · -- a flush is rejected
      obtain ⟨h1, h2⟩ := batchRun_flush_rejected hE hlt hacc hrep hA
      rw [hfail h1, if_pos hlt]
      exact ⟨rfl, h2⟩
    · -- the commit is rejected
      obtain rfl : j = b.flushes := Nat.le_antisymm hj hge
      obtain ⟨h1, h2⟩ := batchRun_commit_rejected hE hacc hrep hA
      rw [hfail h1, if_neg (Nat.lt_irrefl _)]
      exact ⟨rfl, h2⟩

/-- Three queries of a file, among a comment and a blank line, flushed by twos against a server
that accepts both round trips: one flush of the first two, then the commit of the third. -/
theorem batch_flushes_then_commits_by_twos :
    let content := "RETURN 1\n// the second run\n\n  RETURN 2\nRETURN 3\n"
    let host : Host := ⟨[], [("batch.cypher", .text content)]⟩
    let cfg : ClientConfig := { ClientConfig.default with baseUrl := "http://h" }
    let bodies := ["\x7b\"commit\":\"http://h/transaction/7/commit\",\"results\":[" ++
        "\x7b\"columns\":[\"n\"],\"data\":[\x7b\"row\":[1]\x7d]\x7d," ++
        "\x7b\"columns\":[\"n\"],\"data\":[\x7b\"row\":[2]\x7d,\x7b\"row\":[3]\x7d]\x7d]," ++
        "\"transaction\":\x7b\"expires\":\"Fri, 14 Oct 2016 15:20:38 +0000\"\x7d\x7d",
      "\x7b\"results\":[\x7b\"columns\":[\"n\"],\"data\":[]\x7d]\x7d"]
    let replies : List Reply := bodies.map .ok
    let envelope : Nat → Envelope := fun j ↦
      ((Envelope.ofBody (bodies.getD j "")).toOption).getD .empty
    let continuation : Nat → Continuation := fun j ↦
      ((envelope j).continuation.toOption.join).getD ⟨"", ⟨1970, 1, 1, 0, 0, 0, 0⟩⟩
    let b : BatchScript := ⟨Endpoints.ofBase cfg.baseUrl, ContextKey.fresh 0, batchQueries content,
      2, replies, [], envelope, continuation⟩
    let o := runWork host (.scripted replies []) cfg (.batch "batch.cypher" 2)
    Client.ofConfig cfg (.scripted replies []) = .ok (Client.ofWire cfg.baseUrl (.scripted replies [])) ∧
      host.read "batch.cypher" = .ok content ∧
      batchQueries content = ["RETURN 1", "RETURN 2", "RETURN 3"] ∧
      (∀ j ≤ b.flushes, b.Accepts j) ∧
      o.1 = (String.join ((List.range b.queries.length).map fun i ↦
          batchLine i (RowSet.ofFragment (b.fragment i)).size (b.query i)) ++
        "Committed " ++ toString b.queries.length ++ " statements\n", none) ∧
      o.2.sent = [] ++ (List.range b.flushes).map b.flushRequest ++ [b.commitRequest] := by
  intro content host cfg bodies replies envelope continuation b o
  -- one evaluation of what the kernel can run: the configuration, the file's queries and the
  -- replies read as envelopes
  obtain ⟨hv, hu, hend, hq, hb₀, hb₁, he₀, he₁, hs₀, hs₁, hc₀⟩ :
      cfg.validate.isOk = true ∧ isHeaderValue cfg.userAgent = true ∧
      "batch.cypher".endsWith "/" = false ∧
      batchQueries content = ["RETURN 1", "RETURN 2", "RETURN 3"] ∧
      (Envelope.ofBody (bodies.getD 0 "")).isOk = true ∧
      (Envelope.ofBody (bodies.getD 1 "")).isOk = true ∧
      (b.envelope 0).errors = [] ∧ (b.envelope 1).errors = [] ∧
      2 ≤ (b.envelope 0).results.length ∧ 1 ≤ (b.envelope 1).results.length ∧
      (b.envelope 0).continuation.toOption.join = some (b.continuation 0) := by
    decide +kernel
  have hcfg : cfg.validate = .ok () := by
    revert hv
    generalize cfg.validate = r
    rcases r with _ | ⟨⟩ <;> simp [Except.isOk, Except.toBool]
  have hok : ∀ j, (Envelope.ofBody (bodies.getD j "")).isOk = true →
      Envelope.ofBody (bodies.getD j "") = .ok (b.envelope j) := by
    intro j h
    show Envelope.ofBody (bodies.getD j "") =
      Except.ok ((Envelope.ofBody (bodies.getD j "")).toOption.getD .empty)
    generalize Envelope.ofBody (bodies.getD j "") = e at h ⊢
    cases e <;> simp_all [Except.isOk, Except.toBool, Except.toOption]
  have hcont : (b.envelope 0).continuation = .ok (some (b.continuation 0)) := by
    revert hc₀
    generalize (b.envelope 0).continuation = r
    rcases r with _ | _ | k <;> simp [Except.toOption]
  have hread : host.read "batch.cypher" = .ok content := by
    show Host.read ⟨[], [("batch.cypher", .text content)]⟩ "batch.cypher" = .ok content
    simp [Host.read, Host.entry?, Path.same, hend]
  have hflushes : b.flushes = 1 := by
    show (batchQueries content).length / 2 = 1
    rw [hq]
    rfl
  have hacc : ∀ j ≤ b.flushes, b.Accepts j := by
    rw [hflushes]
    intro j hj
    rcases Nat.le_one_iff_eq_zero_or_eq_one.1 hj with rfl | rfl
    · have hsize : b.size 0 = 2 := by
        rw [BatchScript.size, hflushes, if_pos Nat.one_pos]
      exact accepts_of_body rfl (hok 0 hb₀) he₀ (by rw [hsize]; exact hs₀) (fun _ ↦ hcont)
    · have hsize : b.size 1 = 1 := by
        rw [BatchScript.size, hflushes, if_neg (Nat.lt_irrefl 1)]
        show (batchQueries content).length - 1 * 2 = 1
        rw [hq]
        rfl
      exact accepts_of_body rfl (hok 1 hb₁) he₁ (by rw [hsize]; exact hs₁)
        (fun h ↦ by rw [hflushes] at h; omega)
  have hk : batchQueries content ≠ [] := by simp [hq]
  obtain ⟨hout, hsent⟩ := (batch_flushes_then_commits host cfg "batch.cypher" content 2
    replies [] _ envelope continuation (Client.ofConfig_of_valid hcfg hu) hread hk).1 hacc
  exact ⟨Client.ofConfig_of_valid hcfg hu, hread, hq, hacc, hout, hsent⟩

end Command

end Cli

end GraphWire
