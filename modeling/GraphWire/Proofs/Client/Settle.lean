import GraphWire.Proofs.Client.Registry

/-!
# Settling work in a scope

`Client.inTransaction` runs work in the long-running transaction of a key and then settles the
transaction: it commits when the work succeeded and left the transaction active, and rolls back,
ignoring how the rollback goes, when the work failed or the server refused the commit. Last, it
gives the cell's lock back and closes its scope.

A rollback of an active transaction always ends it (`rollback_ends`). A commit of one ends it,
or meets a remote fault, after which settling rolls back, or is refused before anything is sent
because a queued statement was resolved meanwhile by another transaction (`commitEnd`). That
refusal is a local fault that fails nothing, and settling does not roll back after it: the
transaction is left as the work left it, active, and, if it had flushed, open on the server
(`inTransaction_leaves_flushed_after_refused_commit`). Apart from that refusal the transaction
ends; the scope's binding is gone from the registry whatever happens; and the work's value comes
back only when the commit, if one was made, went through (`inTransaction_settles`).
-/

namespace GraphWire

/-- A step of a client computation runs on the client the step before left. -/
theorem ClientM.run_bind {α β : Type} (x : ClientM α) (f : α → ClientM β) (c : Client) :
    (x >>= f).run c = (f (x.run c).1).run (x.run c).2 := rfl

theorem ClientM.run_get (c : Client) : (get : ClientM Client).run c = (c, c) := rfl

/-! ## Ending a transaction -/

namespace Scene

/-- How a commit of an active transaction ends: committed; refused before anything is sent,
with the scene unchanged, because a queued statement was resolved meanwhile; refused by the
server; or failed by any other local fault. -/
inductive CommitEnd (s : Scene) : Except ClientError Unit × Scene → Prop
  | committed {s' : Scene} : s'.tx.phase = .committed → CommitEnd s (.ok (), s')
  | alreadyExecuted : s.tx.queue.any s.shared.statements.isResolved →
      CommitEnd s (.error .alreadyExecuted, s)
  | remote {e : ClientError} {s' : Scene} : e.isRemote → CommitEnd s (.error e, s')
  | failed {e : ClientError} {s' : Scene} : e.isRemote = false → s'.tx.phase.isTerminal →
      CommitEnd s (.error e, s')

end Scene

open Scene Transaction TxM

variable {s : Scene}

/-- A rollback of an active transaction ends it, whatever the server answers. -/
theorem rollback_ends (ha : s.tx.phase.isTerminal = false) :
    (rollback.runOn s).2.tx.phase.isTerminal := by
  rw [runOn_rollback]
  simp only [ha, Bool.false_eq_true, ↓reduceIte]
  rcases s.tx.continuation with _ | k <;> dsimp only
  · simp [Phase.isTerminal]
  rcases s.shared.wire.send _ with ⟨reply, w⟩
  dsimp only
  rcases Answer.of reply with e | e | ⟨env, e⟩ | env <;> simp [Phase.isTerminal]

theorem commitEnd (ha : s.tx.phase.isTerminal = false) : s.CommitEnd (commit.runOn s) := by
  rw [runOn_commit]
  simp only [ha, Bool.false_eq_true, ↓reduceIte]
  split
  · exact .failed rfl (by simp [Phase.isTerminal])
  split
  · rename_i hR
    exact .alreadyExecuted hR
  rcases s.shared.wire.send _ with ⟨reply, w⟩
  dsimp only
  rcases hA : Answer.of reply with e | e | ⟨env, e⟩ | env <;> dsimp only
  · exact .failed rfl (by simp [Phase.isTerminal])
  · exact .failed rfl (by simp [Phase.isTerminal])
  · split <;> exact .remote (Answer.isRemote_of_rejected hA)
  · obtain ⟨ss, hq | ⟨e, hq⟩⟩ := resolveQueue_outcome env (s.setWire w) <;> simp only [hq]
    · exact .committed (by simp)
    · exact .failed rfl (by simp [Phase.isTerminal])

/-! ## The registry after a scope closes -/

/-- A key unbound from an identity keeps no entry of that identity. -/
theorem Table.id_ne_of_find?_unbind (t : Table) (k : ContextKey) (id : Nat) {e : Entry}
    (h : (t.unbind k id).1.find? k = some e) : e.id ≠ id := by
  rw [Table.find?_unbind] at h
  intro hid
  by_cases hk : (t.find? k).map (·.id) = some id
  · simp [hk] at h
  · simp only [true_and, hk, ↓reduceIte] at h
    simp [h, hid] at hk

namespace Client

variable {c : Client} {cell : Nat}

/-! ## Cells through the steps of settling -/

theorem length_act_call (op : Call) : (c.act (.call cell op)).cells.length = c.cells.length := by
  simp [act_call]

theorem cells_act_hold : (c.act (.hold cell)).cells = c.cells := by
  rw [act_hold]
  split <;> rfl

theorem cells_act_unhold : (c.act (.unhold cell)).cells = c.cells := by
  rw [act_unhold]
  split <;> rfl

/-- No action takes a cell away. -/
theorem length_le_act (a : Action) : c.cells.length ≤ (c.act a).cells.length := by
  cases a with
  | atomic => simp [act_atomic]
  | detached => simp [act_detached]
  | longRunning k =>
    rw [act_longRunning, run_acquire]
    split
    · split <;> simp
    · simp
  | scope k =>
    rw [act_scope, run_acquire]
    split
    · split <;> simp
    · simp
  | close sc => simp [act_close]
  | release k => simp [act_release]
  | store st => simp [act_store]
  | call cell op => simp [length_act_call]
  | hold cell => simp [cells_act_hold]
  | unhold cell => simp [cells_act_unhold]

theorem length_le_runActs (as : List Action) : c.cells.length ≤ (c.runActs as).cells.length := by
  induction as generalizing c with
  | nil => exact Nat.le_refl _
  | cons a as ih => exact Nat.le_trans (length_le_act a) ih

theorem Reachable.runActs (h : c.Reachable) (as : List Action) : (c.runActs as).Reachable := by
  induction as generalizing c with
  | nil => exact h
  | cons a as ih => exact ih (.act a h)

/-! ## The steps of settling -/

theorem run_rollBackQuietly :
    (rollBackQuietly cell).run c =
      ((), if (c.transaction cell).isActive then c.act (.call cell .rollback) else c) := by
  by_cases ha : (c.transaction cell).isActive <;> simp [rollBackQuietly, ha] <;> rfl

/-- Rolling back quietly ends the transaction of a cell. -/
theorem rollBackQuietly_ends (h : cell < c.cells.length) :
    (((rollBackQuietly cell).run c).2.transaction cell).phase.isTerminal := by
  rw [run_rollBackQuietly]
  by_cases ha : (c.transaction cell).isActive
  · rw [if_pos ha, transaction_act_call_self _ h]
    exact rollback_ends (by simpa [Transaction.isActive] using ha)
  · rw [if_neg ha]
    simpa [Transaction.isActive] using ha

/-- Committing the transaction of a cell is the call action of a commit. -/
theorem run_commit_cell :
    (run cell commit).run c =
      ((commit.runOn ⟨c.transaction cell, c.shared⟩).1, c.act (.call cell .commit)) :=
  rfl

/-- Settling after work that returned `v`: a transaction the work left finished stays as it was;
otherwise it commits, and a remote fault of the commit is followed by a quiet rollback. -/
theorem run_settle {α : Type} (v : α) :
    (settle cell v).run c =
      if (c.transaction cell).isActive then
        match (commit.runOn ⟨c.transaction cell, c.shared⟩).1 with
        | .ok () => (.ok v, c.act (.call cell .commit))
        | .error e =>
          (.error e, if e.isRemote then ((rollBackQuietly cell).run (c.act (.call cell .commit))).2
            else c.act (.call cell .commit))
      else (.ok v, c) := by
  by_cases ha : (c.transaction cell).isActive
  · simp only [settle, ClientM.run_bind, ClientM.run_get, ha, ↓reduceIte, run_commit_cell]
    rcases (commit.runOn ⟨c.transaction cell, c.shared⟩).1 with e | ⟨⟩
    · by_cases hr : e.isRemote <;> simp [hr] <;> rfl
    · rfl
  · simp [settle, ha]
    rfl

/-- Settling after work that returned `v` ends the transaction of the cell, unless its commit is
refused because a queued statement was resolved meanwhile: then the transaction stays as the work
left it, active. The value comes back only when the transaction was already finished or the
commit went through. -/
theorem settle_outcome {α : Type} (h : cell < c.cells.length) (v : α) :
    let o := (settle cell v).run c
    (∀ v', o.1 = .ok v' → v' = v ∧
      ((c.transaction cell).isActive → (o.2.transaction cell).phase = .committed)) ∧
    ((o.2.transaction cell).phase.isTerminal ∨
      o.1 = .error .alreadyExecuted ∧ o.2.transaction cell = c.transaction cell ∧
        (c.transaction cell).isActive ∧
        (c.transaction cell).queue.any c.shared.statements.isResolved) := by
  intro o
  have ho : o = _ := run_settle v
  rw [ho]
  by_cases ha : (c.transaction cell).isActive
  · have hend : Scene.CommitEnd ⟨c.transaction cell, c.shared⟩
        (commit.runOn ⟨c.transaction cell, c.shared⟩) :=
      commitEnd (by simpa [Transaction.isActive] using ha)
    have htx : (c.act (.call cell .commit)).transaction cell =
        (commit.runOn ⟨c.transaction cell, c.shared⟩).2.tx :=
      transaction_act_call_self .commit h
    have hlt : cell < (c.act (.call cell .commit)).cells.length := by
      rw [length_act_call]
      exact h
    rw [if_pos ha]
    generalize commit.runOn ⟨c.transaction cell, c.shared⟩ = cm at hend htx
    cases hend with
    | committed hp =>
      refine ⟨fun v' hv ↦ ⟨(by cases hv; rfl), fun _ ↦ htx ▸ hp⟩, .inl ?_⟩
      simp [htx, hp, Phase.isTerminal]
    | alreadyExecuted hR =>
      exact ⟨(fun _ hv ↦ by cases hv), .inr ⟨rfl, htx, ha, hR⟩⟩
    | remote hr =>
      simp only [hr, ↓reduceIte]
      exact ⟨(fun _ hv ↦ by cases hv), .inl (rollBackQuietly_ends hlt)⟩
    | failed hl hT =>
      simp only [hl, Bool.false_eq_true, ↓reduceIte]
      exact ⟨(fun _ hv ↦ by cases hv), .inl (htx ▸ hT)⟩
  · rw [if_neg ha]
    refine ⟨fun v' hv ↦ ⟨(by cases hv; rfl), fun h' ↦ absurd h' ha⟩, .inl ?_⟩
    simpa [Transaction.isActive] using ha

/-! ## Opening a scope for work -/

/-- Clients with the same cells hold the same transactions. -/
theorem transaction_of_cells {c' : Client} (h : c'.cells = c.cells) :
    c'.transaction = c.transaction := by
  funext n
  simp [transaction, h]

theorem run_ensureBegun :
    (ensureBegun cell).run c =
      if (c.transaction cell).begun then (.ok (), c)
      else ((begin.runOn ⟨c.transaction cell, c.shared⟩).1, c.act (.call cell .begin)) := by
  by_cases hb : (c.transaction cell).begun <;> simp [ensureBegun, hb] <;> rfl

/-- An active long-running transaction is begun, if it was not, without fault. -/
theorem ensureBegun_ok (ha : (c.transaction cell).isActive)
    (hm : (c.transaction cell).mode = .longRunning) :
    ((ensureBegun cell).run c).1 = .ok () := by
  rw [run_ensureBegun]
  by_cases hb : (c.transaction cell).begun
  · simp [hb]
  · have hT : (c.transaction cell).phase.isTerminal = false := by
      simpa [Transaction.isActive] using ha
    simp [hb, runOn_begin, hT, hm]

theorem length_ensureBegun : ((ensureBegun cell).run c).2.cells.length = c.cells.length := by
  rw [run_ensureBegun]
  split
  · rfl
  · exact length_act_call _

/-- In a sound client, a scope of a key is over an active long-running transaction in one of the
client's cells. -/
theorem Sound.scope_open (h : c.Sound) {k : ContextKey} {sc : Scope} {c₁ : Client}
    (h₁ : (scope k).run c = (sc, c₁)) :
    sc.key = k ∧ sc.cell < c₁.cells.length ∧ (c₁.transaction sc.cell).isActive ∧
      (c₁.transaction sc.cell).mode = .longRunning := by
  rw [h.run_scope] at h₁
  split at h₁
  · rename_i e he
    cases h₁
    obtain ⟨-, hm, -, ha⟩ := h.entries k e he
    exact ⟨rfl, (h.entries k e he).lt, ha, hm⟩
  · cases h₁
    have ht := transaction_of_append_self (cells_bindFresh (c := c) k)
    refine ⟨rfl, by simp, ?_, ?_⟩ <;> rw [ht] <;> rfl

/-- On a sound client, opening the scope of a key for work begins its transaction without fault,
and the transaction stays in one of the client's cells. -/
theorem Sound.open_scope (h : c.Sound) {k : ContextKey} {sc : Scope} {took : Bool}
    {begun : Except ClientError Unit} {c₁ c₂ c₃ : Client}
    (h₁ : (scope k).run c = (sc, c₁)) (h₂ : (hold sc.cell).run c₁ = (took, c₂))
    (h₃ : (ensureBegun sc.cell).run c₂ = (begun, c₃)) :
    begun = .ok () ∧ sc.key = k ∧ sc.cell < c₃.cells.length := by
  obtain ⟨hkey, hlt₁, ha₁, hm₁⟩ := h.scope_open h₁
  -- taking the lock changes no cell
  have h₂' : c₁.act (.hold sc.cell) = c₂ := congrArg Prod.snd h₂
  have hc₂ : c₂.cells = c₁.cells := h₂' ▸ cells_act_hold
  rw [← transaction_of_cells hc₂] at ha₁ hm₁
  have hb : ((ensureBegun sc.cell).run c₂).1 = begun := congrArg Prod.fst h₃
  have hc₃ : ((ensureBegun sc.cell).run c₂).2 = c₃ := congrArg Prod.snd h₃
  refine ⟨hb ▸ ensureBegun_ok ha₁ hm₁, hkey, ?_⟩
  rw [← hc₃, length_ensureBegun, hc₂]
  exact hlt₁

/-! ## Work in a scope -/

/-- Work in a scope, once its transaction is begun: the work, then settling after its value or a
quiet rollback after its error, then the lock given back if it was taken, and the scope closed. -/
theorem run_inTransaction {α : Type} {key : ContextKey}
    {work : Nat → ClientM (Except ClientError α)}
    {sc : Scope} {took : Bool} {c₁ c₂ c₃ c₄ : Client} {res : Except ClientError α}
    (h₁ : (scope key).run c = (sc, c₁)) (h₂ : (hold sc.cell).run c₁ = (took, c₂))
    (h₃ : (ensureBegun sc.cell).run c₂ = (.ok (), c₃)) (h₄ : (work sc.cell).run c₃ = (res, c₄)) :
    (inTransaction key work).run c =
      let o := (match res with
        | .ok v => settle sc.cell v
        | .error e => do rollBackQuietly sc.cell; pure (.error e)).run c₄
      (o.1, (if took then o.2.act (.unhold sc.cell) else o.2).act (.close sc)) := by
  simp only [inTransaction, ClientM.run_bind, monadLift_self, h₁, h₂, h₃, h₄]
  cases res <;> cases took <;> rfl

/-- Closing a scope, with the lock given back or not, leaves every cell alone. -/
theorem transaction_close (took : Bool) (sc : Scope) :
    ((if took then c.act (.unhold sc.cell) else c).act (.close sc)).transaction =
      c.transaction := by
  apply transaction_of_cells
  cases took
  · rfl
  · exact cells_act_unhold

end Client

/-- Work run in the scope of a key, on a client reached by any interleaving of actions, where the
work (`h₄`) returns `res` after the actions `as`. Beginning the scope's transaction never fails.
When the work is settled the scope's binding is gone from the registry. The work's value comes
back only as the work returned it, and, when the work left the transaction active, only with the
transaction committed. The transaction has ended, save in one case: the work succeeded, left the
transaction active, and a statement queued in it had been resolved meanwhile, by another
transaction; then the commit is refused before anything is sent, nothing rolls back, and the
transaction is left as the work left it. -/
theorem inTransaction_settles {α : Type} {c : Client} (hc : c.Reachable) {key : ContextKey}
    {work : Nat → ClientM (Except ClientError α)} {sc : Scope} {took : Bool}
    {begun : Except ClientError Unit} {res : Except ClientError α} {c₁ c₂ c₃ : Client}
    {as : List Client.Action}
    (h₁ : (Client.scope key).run c = (sc, c₁)) (h₂ : (Client.hold sc.cell).run c₁ = (took, c₂))
    (h₃ : (Client.ensureBegun sc.cell).run c₂ = (begun, c₃))
    (h₄ : (work sc.cell).run c₃ = (res, c₃.runActs as)) :
    let o := (Client.inTransaction key work).run c
    let t := (c₃.runActs as).transaction sc.cell
    begun = .ok () ∧
    (∀ e, o.2.shared.table.find? key = some e → e.id ≠ sc.id) ∧
    (∀ v, o.1 = .ok v → res = .ok v ∧ (t.isActive → (o.2.transaction sc.cell).phase = .committed)) ∧
    ((o.2.transaction sc.cell).phase.isTerminal ∨
      (∃ v, res = .ok v) ∧ o.1 = .error .alreadyExecuted ∧ o.2.transaction sc.cell = t ∧
        t.isActive ∧ t.queue.any (c₃.runActs as).shared.statements.isResolved) := by
  intro o t
  obtain ⟨hbegun, hkey, hlt₃⟩ := hc.sound.open_scope h₁ h₂ h₃
  subst hbegun
  have hlt₄ : sc.cell < (c₃.runActs as).cells.length :=
    Nat.lt_of_lt_of_le hlt₃ (Client.length_le_runActs as)
  have ho : o = _ := Client.run_inTransaction h₁ h₂ h₃ h₄
  refine ⟨rfl, fun e he ↦ ?_, ?_⟩
  · rw [ho, ← hkey] at he
    exact Table.id_ne_of_find?_unbind _ _ _ he
  rw [ho]
  dsimp only
  rw [Client.transaction_close]
  cases res with
  | error e =>
    refine ⟨(fun _ hv ↦ nomatch hv), .inl ?_⟩
    exact Client.rollBackQuietly_ends hlt₄
  | ok v =>
    obtain ⟨hval, hend⟩ := Client.settle_outcome hlt₄ v
    refine ⟨fun v' hv ↦ ?_, ?_⟩
    · obtain ⟨rfl, hc⟩ := hval v' hv
      exact ⟨rfl, hc⟩
    · rcases hend with hT | ⟨hr, htx, ha, hR⟩
      · exact .inl hT
      · exact .inr ⟨⟨v, rfl⟩, hr, htx, ha, hR⟩

/-- Work that does nothing in the scope of a key on a new client: the transaction is begun
without fault, and the scope leaves no entry of its identity behind. -/
theorem inTransaction_settles_new_client :
    let c := Client.ofWire "http://h" .unreachable
    let work : Nat → ClientM (Except ClientError Unit) := fun _ ↦ pure (.ok ())
    ((Client.ensureBegun 0).run ((Client.hold 0).run ((Client.scope ⟨"k"⟩).run c).2).2).1 = .ok () ∧
      ∀ e, ((Client.inTransaction ⟨"k"⟩ work).run c).2.shared.table.find? ⟨"k"⟩ = some e →
        e.id ≠ 0 := by
  intro c work
  obtain ⟨hb, hbind, -⟩ :=
    @inTransaction_settles Unit _ (.ofWire "http://h" .unreachable) ⟨"k"⟩ work
      _ _ _ _ _ _ _ [] rfl rfl rfl rfl
  exact ⟨hb, hbind⟩

/-- A flushed transaction bound to a key queues a statement, which an atomic transaction then
executes. Work that does nothing in the key's scope ends with the commit refused, and nothing
rolls back: the transaction is left flushed and active, open on the server, while the key's
binding is gone. -/
theorem inTransaction_leaves_flushed_after_refused_commit :
    let opened := "\x7b\"commit\":\"http://h/transaction/5/commit\",\"results\":[]," ++
      "\"transaction\":\x7b\"expires\":\"Fri, 14 Oct 2016 15:20:38 +0000\"\x7d\x7d"
    let executed := "\x7b\"results\":[\x7b\"columns\":[\"v\"]," ++
      "\"data\":[\x7b\"row\":[1]\x7d]\x7d]\x7d"
    let c := (Client.ofWire "http://h" (.scripted [.ok opened, .ok executed] [])).runActs
      [.longRunning ⟨"k"⟩, .call 0 .begin, .call 0 .flush, .store (Statement.row "RETURN 1"),
        .call 0 (.add 0), .atomic, .call 1 (.add 0), .call 1 .commit]
    let o := (Client.inTransaction ⟨"k"⟩ fun _ ↦
      (pure (.ok ()) : ClientM (Except ClientError Unit))).run c
    c.Reachable ∧ o.1 = .error .alreadyExecuted ∧ (o.2.transaction 0).phase = .flushed ∧
      (o.2.transaction 0).isActive ∧ o.2.shared.table.find? ⟨"k"⟩ = none := by
  intro opened executed c o
  -- one evaluation of the run; errors have no decidable equality, so the result is read
  -- through the one refusal a match accepts
  obtain ⟨hm, hp, ha, hk⟩ : (o.1 matches .error .alreadyExecuted) = true ∧
      (o.2.transaction 0).phase = .flushed ∧ (o.2.transaction 0).isActive ∧
      o.2.shared.table.find? ⟨"k"⟩ = none := by
    decide +kernel
  refine ⟨(Client.Reachable.ofWire _ _).runActs _, ?_, hp, ha, hk⟩
  revert hm
  generalize o.1 = r
  rcases r with (_ | _ | _ | _ | _ | _ | _ | _) | _ <;> simp

end GraphWire
