import GraphWire.Proofs.Transaction.Route
import GraphWire.Client.Session
import Mathlib.Data.Bool.Basic

/-!
# Registry bindings

A client's registry binds context keys to long-running transactions. An entry `k ↦ (id, cell)`
is made only by `Client.longRunning` or `Client.scope` when the key has no live entry, with a
fresh identity, and the transaction put in the cell holds the binding `(k, id)`. An entry goes
only three ways: `Client.release k` drops whatever the key holds; closing a scope drops the
entry carrying the scope's identity; and a transaction drops its own binding when it ends, or
when the server refuses the commit of a long-running one. A holder of another identity (a stale
scope, or a transaction whose binding was replaced) never touches the entry.

So every entry names an active long-running transaction that holds the entry's binding
(`Client.Sound`), whatever a caller does in between (`Client.Action`), and asking for the
transaction of a key returns the same cell until the key's entry is removed
(`registry_binds_live_transactions`).
-/

namespace GraphWire

/-! ## Binding tables -/

namespace Table

variable (t : Table) {k k' : ContextKey}

theorem lookup_map_put (e : Entry) (ps : List (ContextKey × Entry)) (k' : ContextKey) :
    (ps.map fun p ↦ if p.1 = k then (k, e) else p).lookup k' =
      if k' = k then (if (ps.lookup k').isSome then some e else none) else ps.lookup k' := by
  induction ps with
  | nil => by_cases h : k' = k <;> simp [h]
  | cons p ps ih =>
    obtain ⟨k₀, e₀⟩ := p
    grind

@[simp] theorem find?_put_self (e : Entry) : (t.put k e).find? k = some e := by
  unfold put find?
  split
  · rename_i h
    simp only [contains, find?] at h
    simp [lookup_map_put, h]
  · rename_i h
    simp only [contains, find?, Option.isSome_iff_ne_none, ne_eq, Decidable.not_not] at h
    simp [List.lookup_append, h]

theorem find?_put_ne (e : Entry) (h : k' ≠ k) : (t.put k e).find? k' = t.find? k' := by
  unfold put find?
  split
  · simp [lookup_map_put, h]
  · simp only [List.lookup_append]
    cases t.entries.lookup k' <;> grind

theorem lookup_filter_ne (ps : List (ContextKey × Entry)) (k' : ContextKey) :
    (ps.filter fun p ↦ p.1 != k).lookup k' = if k' = k then none else ps.lookup k' := by
  induction ps with
  | nil => by_cases h : k' = k <;> simp [h]
  | cons p ps ih =>
    obtain ⟨k₀, e₀⟩ := p
    grind

@[simp] theorem find?_remove_self : (t.remove k).1.find? k = none := by
  simp [remove, find?, lookup_filter_ne]

theorem find?_remove_ne (h : k' ≠ k) : (t.remove k).1.find? k' = t.find? k' := by
  simp [remove, find?, lookup_filter_ne, h]

/-- Unbinding removes a key's entry exactly when the entry carries the identity given. -/
theorem find?_unbind (id : Nat) (k' : ContextKey) :
    (t.unbind k id).1.find? k' =
      if k' = k ∧ (t.find? k).map (·.id) = some id then none else t.find? k' := by
  unfold unbind
  rcases he : t.find? k with _ | e
  · simp
  · by_cases hid : e.id = id
    · by_cases h : k' = k
      · subst h
        simp [hid]
      · simp [hid, h, find?_remove_ne]
    · simp [hid]

theorem find?_release (b : Binding) (k' : ContextKey) :
    (t.release b).find? k' =
      if k' = b.key ∧ (t.find? b.key).map (·.id) = some b.id then none else t.find? k' :=
  find?_unbind t b.id k'

end Table

/-! ## What a call does to the binding -/

namespace Scene

@[simp] theorem setStatements_table (s : Scene) (ss : Statements) :
    (s.setStatements ss).shared.table = s.shared.table := rfl

/-- Releasing undoes the table entry of the binding the transaction holds, if any. -/
theorem release_table (s : Scene) :
    s.release.shared.table = s.tx.binding.elim s.shared.table s.shared.table.release := by
  cases h : s.tx.binding <;> simp [release, h]

theorem release_setStatements (s : Scene) (ss : Statements) :
    (s.setStatements ss).release = s.release.setStatements ss := by
  cases h : s.tx.binding <;> simp [release, setStatements, h]

/-- The binding law for an outcome `o` of a call `c` run from `s`: the transaction keeps its
identity, its mode and its being begun, and either keeps its binding and the table, or drops its
binding, undoing its table entry; it drops it only when it ends, or when a commit meets a remote
fault. -/
structure BindingLaw (s : Scene) (c : Call) (o : Except ClientError Unit × Scene) : Prop where
  id : o.2.tx.id = s.tx.id
  mode : o.2.tx.mode = s.tx.mode
  begun : s.tx.begun → o.2.tx.begun
  table : o.2.tx.binding = s.tx.binding ∧ o.2.shared.table = s.shared.table ∨
    o.2.tx.binding = none ∧ o.2.shared.table = s.release.shared.table ∧
      (o.2.tx.phase.isTerminal ∨ c = .commit ∧ ∃ e, o.1 = .error e ∧ e.isRemote)

namespace BindingLaw

variable {s s' : Scene} {c : Call} {res : Except ClientError Unit}

/-- An outcome whose transaction keeps its identity, mode, begun flag and binding, and whose
table is untouched. -/
theorem keep (hid : s'.tx.id = s.tx.id) (hm : s'.tx.mode = s.tx.mode)
    (hb : s.tx.begun → s'.tx.begun) (hbind : s'.tx.binding = s.tx.binding)
    (ht : s'.shared.table = s.shared.table) : s.BindingLaw c (res, s') :=
  ⟨hid, hm, hb, .inl ⟨hbind, ht⟩⟩

/-- An outcome that ended the transaction and undid its binding. -/
theorem finish (hid : s'.tx.id = s.tx.id) (hm : s'.tx.mode = s.tx.mode)
    (hb : s.tx.begun → s'.tx.begun) (hbind : s'.tx.binding = none)
    (ht : s'.shared.table = s.release.shared.table) (hT : s'.tx.phase.isTerminal) :
    s.BindingLaw c (res, s') :=
  ⟨hid, hm, hb, .inr ⟨hbind, ht, .inl hT⟩⟩

theorem same : s.BindingLaw c (res, s) := keep rfl rfl (fun h ↦ h) rfl rfl

theorem setWire (w : Wire) : s.BindingLaw c (res, s.setWire w) := keep rfl rfl (fun h ↦ h) rfl rfl

theorem failed : s.BindingLaw c (res, s.failed) :=
  finish (by simp) (by simp) (by simp) (by simp) (failed_table s) (by simp [Phase.isTerminal])

theorem failedSent (w : Wire) : s.BindingLaw c (res, (s.setWire w).failed) :=
  finish (by simp) (by simp) (by simp) (by simp) (by simp [failed_table, release_setWire])
    (by simp [Phase.isTerminal])

theorem rolledBack (w : Wire) : s.BindingLaw c (res, (s.setWire w).rolledBack) :=
  finish (by simp) (by simp) (by simp) (by simp) (by simp [rolledBack_table, release_setWire])
    (by simp [Phase.isTerminal])

end BindingLaw

end Scene

open Scene Transaction TxM

variable {s : Scene}

open BindingLaw in
theorem bindingLaw_begin : s.BindingLaw .begin (begin.runOn s) := by
  rw [runOn_begin]
  split
  · exact .same
  split
  · exact .same
  split
  · exact .failed
  · exact .keep rfl rfl (fun _ ↦ rfl) rfl rfl

open BindingLaw in
theorem bindingLaw_add (r : Nat) : s.BindingLaw (.add r) ((add r).runOn s) := by
  rw [runOn_add]
  split
  · exact .same
  split
  · exact .failed
  split
  · exact .same
  · exact .keep rfl rfl (fun h ↦ h) rfl rfl

open BindingLaw in
theorem bindingLaw_flush : s.BindingLaw .flush (flush.runOn s) := by
  rw [runOn_flush]
  split
  · exact .same
  split
  · exact .same
  split
  · exact .failed
  split
  · exact .same
  rcases s.shared.wire.send _ with ⟨reply, w⟩
  dsimp only
  rcases Answer.of reply with e | e | ⟨env, e⟩ | env <;> dsimp only
  · exact .failedSent w
  · exact .failedSent w
  · exact .setWire w
  · rcases env.continuation with e | _ | k <;> dsimp only
    · exact .failedSent w
    · exact .failedSent w
    · obtain ⟨ss, hq | ⟨e, hq⟩⟩ := resolveQueue_outcome env (s.setWire w) <;> simp only [hq]
      · exact .keep (by simp) (by simp) (by simp) (by simp) (by simp)
      · exact .finish (by simp) (by simp) (by simp) (by simp)
          (by simp [failed_table, release_setStatements, release_setWire])
          (by simp [Phase.isTerminal])

open BindingLaw in
theorem bindingLaw_commit : s.BindingLaw .commit (commit.runOn s) := by
  rw [runOn_commit]
  split
  · exact .same
  split
  · exact .failed
  split
  · exact .same
  rcases s.shared.wire.send _ with ⟨reply, w⟩
  dsimp only
  rcases hA : Answer.of reply with e | e | ⟨env, e⟩ | env <;> dsimp only
  · exact .failedSent w
  · exact .failedSent w
  · split
    · -- a long-running transaction whose commit the server refuses drops its binding only
      exact ⟨by simp, by simp, by simp, .inr ⟨by simp, by simp [release_setWire],
        .inr ⟨rfl, e, rfl, Answer.isRemote_of_rejected hA⟩⟩⟩
    · exact .failedSent w
  · obtain ⟨ss, hq | ⟨e, hq⟩⟩ := resolveQueue_outcome env (s.setWire w) <;> simp only [hq]
    · exact .finish (by simp) (by simp) (by simp) (by simp) (by simp [release_table])
        (by simp [Phase.isTerminal])
    · exact .finish (by simp) (by simp) (by simp) (by simp)
        (by simp [failed_table, release_setStatements, release_setWire])
        (by simp [Phase.isTerminal])

open BindingLaw in
theorem bindingLaw_rollback : s.BindingLaw .rollback (rollback.runOn s) := by
  rw [runOn_rollback]
  split
  · exact .same
  rcases s.tx.continuation with _ | k <;> dsimp only
  · exact .finish (by simp) (by simp) (by simp) (by simp) (rolledBack_table s)
      (by simp [Phase.isTerminal])
  rcases s.shared.wire.send _ with ⟨reply, w⟩
  dsimp only
  rcases Answer.of reply with e | e | ⟨env, e⟩ | env <;> dsimp only
  · exact .failedSent w
  · exact .failedSent w
  · exact .rolledBack w
  · exact .rolledBack w

open BindingLaw in
theorem bindingLaw_keepAlive : s.BindingLaw .keepAlive (keepAlive.runOn s) := by
  rw [runOn_keepAlive]
  split
  · exact .same
  split
  · exact .same
  rcases s.tx.continuation with _ | k <;> dsimp only
  · exact .same
  rcases s.shared.wire.send _ with ⟨reply, w⟩
  dsimp only
  rcases Answer.of reply with e | e | ⟨env, e⟩ | env <;> dsimp only
  · exact .failedSent w
  · exact .failedSent w
  · exact .setWire w
  · rcases env.continuation with e | _ | k' <;> dsimp only
    · exact .failedSent w
    · exact .failedSent w
    · exact .keep rfl rfl (fun h ↦ h) rfl rfl

/-- Every call obeys the binding law. -/
theorem Call.bindingLaw_perform (c : Call) (s : Scene) : s.BindingLaw c (c.perform.runOn s) := by
  cases c with
  | begin => exact bindingLaw_begin
  | add r => exact bindingLaw_add r
  | flush => exact bindingLaw_flush
  | commit => exact bindingLaw_commit
  | rollback => exact bindingLaw_rollback
  | keepAlive => exact bindingLaw_keepAlive

/-! ## Clients -/

namespace Client

variable {c : Client}

/-- The client after binding a fresh long-running transaction under a key: the transaction, with
the next identity and the binding of the key to it, goes in a new cell, and the key's entry names
that cell. -/
def bindFresh (c : Client) (k : ContextKey) : Client :=
  { c with
    cells := c.cells ++ [Transaction.longRunning c.nextId c.endpoints (some ⟨k, c.nextId⟩)]
    nextId := c.nextId + 1
    shared := { c.shared with table := c.shared.table.put k ⟨c.nextId, c.cells.length⟩ } }

theorem run_acquire (k : ContextKey) (c : Client) :
    (acquire k bound).run c =
      match c.shared.table.find? k with
      | some e =>
        if c.isLive e.cell then (⟨e.id, e.cell, none⟩, c)
        else (⟨c.nextId, c.cells.length, some ⟨k, c.nextId⟩⟩, c.bindFresh k)
      | none => (⟨c.nextId, c.cells.length, some ⟨k, c.nextId⟩⟩, c.bindFresh k) := by
  -- the state monad's `pure` is the identity, closed by `rfl` once the steps are run
  rcases h : c.shared.table.find? k with _ | e
  · simp [acquire, bindNew, freshId, bound, store, modifyTable, bindFresh, h]
    rfl
  · by_cases hl : c.isLive e.cell <;>
      simp [acquire, bindNew, freshId, bound, store, modifyTable, bindFresh, h, hl] <;> rfl

/-! ### Cells -/

@[simp] theorem binding_default : (default : Transaction).binding = none := rfl

/-- A cell past the last holds the default transaction. -/
theorem transaction_of_le {cell : Nat} (h : c.cells.length ≤ cell) :
    c.transaction cell = default := by
  simp [transaction, List.getD_eq_getElem?_getD, List.getElem?_eq_none h]

/-- A cell past the last holds no binding. -/
theorem lt_of_binding {cell : Nat} {b : Binding} (h : (c.transaction cell).binding = some b) :
    cell < c.cells.length := by
  rcases Nat.lt_or_ge cell c.cells.length with hc | hc
  · exact hc
  · simp [transaction_of_le hc] at h

/-- A transaction in a cell belongs to the client's cells. -/
theorem transaction_mem {cell : Nat} (h : cell < c.cells.length) :
    c.transaction cell ∈ c.cells := by
  simp [transaction, List.getD_eq_getElem?_getD, List.getElem?_eq_getElem h]

variable {c' : Client}

/-- Appending a cell leaves the transactions of the other cells alone. -/
theorem transaction_of_append {t : Transaction} (hc : c'.cells = c.cells ++ [t]) {cell : Nat}
    (h : cell ≠ c.cells.length) : c'.transaction cell = c.transaction cell := by
  simp only [transaction, hc, List.getD_eq_getElem?_getD, List.getElem?_append]
  split
  · rfl
  · rename_i hlt
    have hgt : c.cells.length < cell := by omega
    simp [List.getElem?_eq_none (Nat.le_of_lt hgt), Nat.sub_ne_zero_of_lt hgt]

theorem transaction_of_append_self {t : Transaction} (hc : c'.cells = c.cells ++ [t]) :
    c'.transaction c.cells.length = t := by
  simp [transaction, hc, List.getD_eq_getElem?_getD]

theorem transaction_of_set {t : Transaction} {cell : Nat} (hc : c'.cells = c.cells.set cell t)
    (cell' : Nat) :
    c'.transaction cell' =
      if cell' = cell ∧ cell < c.cells.length then t else c.transaction cell' := by
  simp only [transaction, hc, List.getD_eq_getElem?_getD, List.getElem?_set]
  by_cases h : cell = cell' <;> by_cases hlt : cell < c.cells.length <;> grind

@[simp] theorem cells_bindFresh (k : ContextKey) :
    (c.bindFresh k).cells =
      c.cells ++ [Transaction.longRunning c.nextId c.endpoints (some ⟨k, c.nextId⟩)] := rfl

@[simp] theorem nextId_bindFresh (k : ContextKey) : (c.bindFresh k).nextId = c.nextId + 1 := rfl

@[simp] theorem table_bindFresh (k : ContextKey) :
    (c.bindFresh k).shared.table = c.shared.table.put k ⟨c.nextId, c.cells.length⟩ := rfl

/-! ### Actions -/

/-- What a caller of a client may do in one step: make a transaction (atomic, detached, or the
one the registry binds to a key, as such or in a scope), close a scope, unbind a key, store a
statement, call an operation on the transaction of a cell, or take or give back a cell's lock. -/
inductive Action where
  | atomic
  | detached
  | longRunning (key : ContextKey)
  | scope (key : ContextKey)
  | close (scope : Scope)
  | release (key : ContextKey)
  | store (statement : Statement)
  | call (cell : Nat) (op : Call)
  | hold (cell : Nat)
  | unhold (cell : Nat)

/-- The client after an action. -/
def act (c : Client) : Action → Client
  | .atomic => (atomic.run c).2
  | .detached => (detached.run c).2
  | .longRunning k => ((longRunning k).run c).2
  | .scope k => ((scope k).run c).2
  | .close sc => (sc.close.run c).2
  | .release k => ((release k).run c).2
  | .store st => ((addStatement st).run c).2
  | .call cell op => ((run cell op.perform).run c).2
  | .hold cell => ((hold cell).run c).2
  | .unhold cell => ((unhold cell).run c).2

/-- The client after actions one after another. -/
def runActs (c : Client) : List Action → Client
  | [] => c
  | a :: as => (c.act a).runActs as

@[simp] theorem runActs_nil (c : Client) : c.runActs [] = c := rfl

@[simp] theorem runActs_cons (c : Client) (a : Action) (as : List Action) :
    c.runActs (a :: as) = (c.act a).runActs as := rfl

/-- The clients that any interleaving of actions reaches from a new one. -/
inductive Reachable : Client → Prop where
  | ofWire (base : String) (wire : Wire) : Reachable (ofWire base wire)
  | act {c : Client} (a : Action) : Reachable c → Reachable (c.act a)

theorem act_atomic :
    c.act .atomic =
      { c with cells := c.cells ++ [Transaction.atomic c.nextId c.endpoints],
               nextId := c.nextId + 1 } := rfl

theorem act_detached :
    c.act .detached =
      { c with cells := c.cells ++ [Transaction.longRunning c.nextId c.endpoints none],
               nextId := c.nextId + 1 } := rfl

theorem act_store (st : Statement) :
    c.act (.store st) =
      { c with shared := { c.shared with statements := (c.shared.statements.push st).2 } } := rfl

theorem act_hold (cell : Nat) :
    c.act (.hold cell) = if c.isHeld cell then c else { c with held := c.held ++ [cell] } := by
  simp only [act, hold, StateT.run_modifyGet]
  split <;> rfl

theorem act_unhold (cell : Nat) :
    c.act (.unhold cell) =
      if c.isHeld cell then { c with held := c.held.filter (· != cell) } else c := by
  simp only [act, unhold, StateT.run_modifyGet]
  split <;> rfl

theorem act_call (cell : Nat) (op : Call) :
    c.act (.call cell op) =
      { c with
        cells := c.cells.set cell (op.perform.runOn ⟨c.transaction cell, c.shared⟩).2.tx
        shared := (op.perform.runOn ⟨c.transaction cell, c.shared⟩).2.shared } := rfl

theorem act_longRunning (k : ContextKey) :
    c.act (.longRunning k) = ((acquire k bound).run c).2 := by
  simp only [act, longRunning, getOrCreate]
  rfl

theorem act_scope (k : ContextKey) : c.act (.scope k) = ((acquire k bound).run c).2 := by
  simp only [act, scope]
  rfl

theorem act_close (sc : Scope) :
    c.act (.close sc) =
      { c with shared := { c.shared with table := (c.shared.table.unbind sc.key sc.id).1 } } := rfl

theorem act_release (k : ContextKey) :
    c.act (.release k) =
      { c with shared := { c.shared with table := (c.shared.table.remove k).1 } } :=
  rfl

/-- A call leaves its cell holding the transaction as the operation left it. -/
theorem transaction_act_call_self {cell : Nat} (op : Call) (h : cell < c.cells.length) :
    (c.act (.call cell op)).transaction cell =
      (op.perform.runOn ⟨c.transaction cell, c.shared⟩).2.tx := by
  have htx : ∀ n, (c.act (.call cell op)).transaction n =
      if n = cell ∧ cell < c.cells.length then
        (op.perform.runOn ⟨c.transaction cell, c.shared⟩).2.tx
      else c.transaction n :=
    transaction_of_set rfl
  rw [htx, if_pos ⟨rfl, h⟩]

/-- A call leaves every other cell alone. -/
theorem transaction_act_call_of_ne {cell n : Nat} (op : Call) (h : n ≠ cell) :
    (c.act (.call cell op)).transaction n = c.transaction n := by
  have htx : ∀ n, (c.act (.call cell op)).transaction n =
      if n = cell ∧ cell < c.cells.length then
        (op.perform.runOn ⟨c.transaction cell, c.shared⟩).2.tx
      else c.transaction n :=
    transaction_of_set rfl
  simp [htx, h]

/-! ### The registry's ties -/

/-- The entry `k ↦ e` names an active long-running transaction of the entry's identity that
holds the entry's binding. -/
def Holds (c : Client) (k : ContextKey) (e : Entry) : Prop :=
  (c.transaction e.cell).id = e.id ∧ (c.transaction e.cell).mode = .longRunning ∧
    (c.transaction e.cell).binding = some ⟨k, e.id⟩ ∧ (c.transaction e.cell).isActive

/-- The registry's ties in a client: every transaction is well formed and has an identity below
the next one to give, no two cells hold one binding, and every entry of the table holds. -/
structure Sound (c : Client) : Prop where
  wellFormed : ∀ cell, (c.transaction cell).WellFormed
  fresh : ∀ t ∈ c.cells, t.id < c.nextId
  unique : ∀ i j b, (c.transaction i).binding = some b → (c.transaction j).binding = some b → i = j
  entries : ∀ k e, c.shared.table.find? k = some e → c.Holds k e

/-- An entry that holds names a live cell, so the registry hands it out. -/
theorem Holds.isLive {k : ContextKey} {e : Entry} (h : c.Holds k e) : c.isLive e.cell := by
  simp [Client.isLive, h.2.2.2]

theorem Holds.lt {k : ContextKey} {e : Entry} (h : c.Holds k e) : e.cell < c.cells.length :=
  lt_of_binding h.2.2.1

theorem sound_ofWire (base : String) (wire : Wire) : (ofWire base wire).Sound where
  wellFormed cell := by
    rw [transaction_of_le (by simp [ofWire])]
    exact wellFormed_fresh 0 .atomic _ none (by simp)
  fresh _ h := by simp [ofWire] at h
  unique i _ b h := by simp [transaction_of_le (c := ofWire base wire) (by simp [ofWire])] at h
  entries k e h := by simp [ofWire, Table.find?, Table.empty] at h

namespace Sound

/-- A new cell whose transaction holds the given binding, if any, with the next identity, keeps
the ties of the cells before it. -/
theorem append_cells (h : c.Sound) {t : Transaction} (hc : c'.cells = c.cells ++ [t])
    (hn : c'.nextId = c.nextId + 1) (hw : t.WellFormed) (hid : t.id = c.nextId) :
    (∀ cell, (c'.transaction cell).WellFormed) ∧ (∀ t' ∈ c'.cells, t'.id < c'.nextId) ∧
      (∀ i j b, (c'.transaction i).binding = some b → (c'.transaction j).binding = some b →
        i = j) := by
  -- an old binding carries an old identity, below the new transaction's
  have old : ∀ n b, (c.transaction n).binding = some b → b.id < c.nextId := fun n b hb ↦ by
    rw [(h.wellFormed n).binding_id b hb]
    exact h.fresh _ (transaction_mem (lt_of_binding hb))
  refine ⟨fun cell ↦ ?_, fun t' ht' ↦ ?_, fun i j b hi hj ↦ ?_⟩
  · by_cases hcell : cell = c.cells.length
    · rw [hcell, transaction_of_append_self hc]
      exact hw
    · rw [transaction_of_append hc hcell]
      exact h.wellFormed cell
  · rw [hc] at ht'
    rw [hn]
    rcases List.mem_append.1 ht' with ht' | ht'
    · exact Nat.lt_succ_of_lt (h.fresh t' ht')
    · rw [List.mem_singleton.1 ht', hid]
      exact Nat.lt_succ_self _
  · by_cases hi' : i = c.cells.length <;> by_cases hj' : j = c.cells.length
    · rw [hi', hj']
    · rw [hi', transaction_of_append_self hc] at hi
      rw [transaction_of_append hc hj'] at hj
      have := old j b hj
      rw [(hw.binding_id b hi), hid] at this
      exact absurd this (Nat.lt_irrefl _)
    · rw [hj', transaction_of_append_self hc] at hj
      rw [transaction_of_append hc hi'] at hi
      have := old i b hi
      rw [(hw.binding_id b hj), hid] at this
      exact absurd this (Nat.lt_irrefl _)
    · rw [transaction_of_append hc hi'] at hi
      rw [transaction_of_append hc hj'] at hj
      exact h.unique i j b hi hj

/-- An entry of the old table still holds once a cell is appended. -/
theorem holds_of_append (h : c.Sound) {t : Transaction} (hc : c'.cells = c.cells ++ [t])
    {k : ContextKey} {e : Entry} (he : c.shared.table.find? k = some e) : c'.Holds k e := by
  have hold := h.entries k e he
  have hne : e.cell ≠ c.cells.length := Nat.ne_of_lt hold.lt
  simpa only [Holds, transaction_of_append hc hne] using hold

/-- A new cell whose transaction takes the next identity keeps the ties. -/
theorem append (h : c.Sound) {t : Transaction} (hw : t.WellFormed) (hid : t.id = c.nextId) :
    ({ c with cells := c.cells ++ [t], nextId := c.nextId + 1 }).Sound :=
  have ⟨hwf, hfresh, hunique⟩ := h.append_cells rfl rfl hw hid
  ⟨hwf, hfresh, hunique, fun _ _ he ↦ h.holds_of_append rfl he⟩

/-- Binding a fresh transaction under a key keeps the ties. -/
theorem bindFresh (h : c.Sound) (k : ContextKey) : (c.bindFresh k).Sound := by
  have hw := wellFormed_fresh c.nextId .longRunning c.endpoints (some ⟨k, c.nextId⟩) (by simp)
  obtain ⟨hwf, hfresh, hunique⟩ := h.append_cells (cells_bindFresh k) rfl hw rfl
  refine ⟨hwf, hfresh, hunique, fun k' e he ↦ ?_⟩
  by_cases hk : k' = k
  · subst hk
    simp only [table_bindFresh, Table.find?_put_self, Option.some.injEq] at he
    subst he
    simp [Holds, transaction_of_append_self (cells_bindFresh k'), Transaction.longRunning,
      Transaction.fresh, Transaction.isActive, Phase.isTerminal]
  · rw [table_bindFresh, Table.find?_put_ne _ _ hk] at he
    exact h.holds_of_append (cells_bindFresh k) he

/-- Replacing the table by one with fewer entries keeps the ties. -/
theorem removal (h : c.Sound) {t : Table}
    (ht : ∀ k e, t.find? k = some e → c.shared.table.find? k = some e) :
    ({ c with shared := { c.shared with table := t } }).Sound where
  wellFormed := h.wellFormed
  fresh := h.fresh
  unique := h.unique
  entries k e he := h.entries k e (ht k e he)

end Sound

/-- An entry holds after a step that left the transaction of its cell alone. -/
theorem Holds.of_transaction {k : ContextKey} {e : Entry} (h : c.Holds k e)
    (ht : c'.transaction e.cell = c.transaction e.cell) : c'.Holds k e := by
  simpa only [Holds, ht] using h

namespace Sound

/-- In a sound client the registry hands out the transaction an entry names, and otherwise
binds a fresh one. -/
theorem run_acquire (h : c.Sound) (k : ContextKey) :
    (acquire k bound).run c =
      match c.shared.table.find? k with
      | some e => (⟨e.id, e.cell, none⟩, c)
      | none => (⟨c.nextId, c.cells.length, some ⟨k, c.nextId⟩⟩, c.bindFresh k) := by
  rw [Client.run_acquire]
  rcases he : c.shared.table.find? k with _ | e
  · rfl
  · simp [(h.entries k e he).isLive]

/-- Calling an operation on a cell keeps the ties: the transaction keeps its identity and mode,
and drops its binding only while undoing its table entry. -/
theorem call (h : c.Sound) (cell : Nat) (op : Call) : (c.act (.call cell op)).Sound := by
  let s₀ : Scene := ⟨c.transaction cell, c.shared⟩
  let t' := (op.perform.runOn s₀).2.tx
  have hlaw := Call.bindingLaw_perform op s₀
  have hwf : t'.WellFormed := Call.wellFormed_perform op (h.wellFormed cell)
  have htx : ∀ n, (c.act (.call cell op)).transaction n =
      if n = cell ∧ cell < c.cells.length then t' else c.transaction n :=
    transaction_of_set rfl
  have hother : ∀ n, n ≠ cell → (c.act (.call cell op)).transaction n = c.transaction n :=
    fun _ hn ↦ transaction_act_call_of_ne op hn
  -- the cell called keeps its binding or drops it
  have hbind : ∀ n b, ((c.act (.call cell op)).transaction n).binding = some b →
      (c.transaction n).binding = some b := fun n b hb ↦ by
    by_cases hn : n = cell ∧ cell < c.cells.length
    · obtain ⟨rfl, hlt⟩ := hn
      rw [transaction_act_call_self op hlt] at hb
      rcases hlaw.table with ⟨he, -⟩ | ⟨he, -⟩
      · exact he ▸ hb
      · cases hb.symm.trans he
    · rwa [htx, if_neg hn] at hb
  refine ⟨fun n ↦ ?_, fun t ht ↦ ?_, fun i j b hi hj ↦ h.unique i j b (hbind i b hi) (hbind j b hj),
    fun k e he ↦ ?_⟩
  · rw [htx]
    split
    · exact hwf
    · exact h.wellFormed n
  · by_cases hlt : cell < c.cells.length
    · rcases List.mem_or_eq_of_mem_set ht with ht | ht
      · exact h.fresh t ht
      · rw [ht]
        show t'.id < c.nextId
        rw [hlaw.id]
        exact h.fresh _ (transaction_mem hlt)
    · rw [act_call, List.set_eq_of_length_le (Nat.le_of_not_lt hlt)] at ht
      exact h.fresh t ht
  · change (op.perform.runOn s₀).2.shared.table.find? k = some e at he
    rcases hlaw.table with ⟨hb, ht⟩ | ⟨hb, ht, -⟩
    · -- the table is as it was; the called cell, if the entry's, still holds the binding
      rw [ht] at he
      have hold := h.entries k e he
      by_cases hcell : e.cell = cell
      · have hlt := hold.lt
        obtain ⟨h1, h2, h3, -⟩ := hold
        rw [hcell] at h1 h2 h3 hlt
        have hb' : t'.binding = some ⟨k, e.id⟩ := hb.trans h3
        have ht' : (c.act (.call cell op)).transaction e.cell = t' := by
          rw [hcell, transaction_act_call_self op hlt]
        refine ⟨?_, ?_, ?_, ?_⟩ <;> rw [ht']
        · exact hlaw.id.trans h1
        · exact hlaw.mode.trans h2
        · exact hb'
        · -- a transaction still bound has not ended
          cases hT : t'.phase.isTerminal
          · simp [Transaction.isActive, hT]
          · simp [(hwf.finished hT).2] at hb'
      · exact hold.of_transaction (hother _ hcell)
    · -- the table lost the entry of the binding the cell held, if any
      rw [ht, release_table] at he
      rcases hc : (c.transaction cell).binding with _ | b
      · simp only [s₀, hc, Option.elim] at he
        have hold := h.entries k e he
        have hcell : e.cell ≠ cell := fun hcell ↦ by
          have := hold.2.2.1
          rw [hcell, hc] at this
          cases this
        exact hold.of_transaction (hother _ hcell)
      · simp only [s₀, hc, Option.elim, Table.find?_release] at he
        split at he
        · cases he
        · rename_i hkeep
          have hold := h.entries k e he
          have hcell : e.cell ≠ cell := fun hcell ↦ by
            have h3 := hold.2.2.1
            rw [hcell, hc, Option.some.injEq] at h3
            subst h3
            exact hkeep ⟨rfl, by simp [he]⟩
          exact hold.of_transaction (hother _ hcell)

/-- Every action keeps the ties. -/
theorem act (h : c.Sound) : ∀ a : Action, (c.act a).Sound
  | .atomic => h.append (wellFormed_fresh _ .atomic _ none (by simp)) rfl
  | .detached => h.append (wellFormed_fresh _ .longRunning _ none (by simp)) rfl
  | .longRunning k => by
    rw [act_longRunning, h.run_acquire k]
    split
    · exact h
    · exact h.bindFresh k
  | .scope k => by
    rw [act_scope, h.run_acquire k]
    split
    · exact h
    · exact h.bindFresh k
  | .close sc => by
    rw [act_close]
    refine h.removal fun k e he ↦ ?_
    rw [Table.find?_unbind] at he
    split at he
    · cases he
    · exact he
  | .release k => by
    rw [act_release]
    refine h.removal fun k' e he ↦ ?_
    by_cases hk : k' = k
    · subst hk
      simp at he
    · rwa [Table.find?_remove_ne _ hk] at he
  | .store _ => ⟨h.wellFormed, h.fresh, h.unique, h.entries⟩
  | .call cell op => h.call cell op
  | .hold cell => by
    rw [act_hold]
    split
    · exact h
    · exact ⟨h.wellFormed, h.fresh, h.unique, h.entries⟩
  | .unhold cell => by
    rw [act_unhold]
    split
    · exact ⟨h.wellFormed, h.fresh, h.unique, h.entries⟩
    · exact h

end Sound

/-- Every client reachable by actions keeps the registry's ties. -/
theorem Reachable.sound (h : c.Reachable) : c.Sound := by
  induction h with
  | ofWire base wire => exact sound_ofWire base wire
  | act a _ ih => exact ih.act a

namespace Sound

/-- An entry survives every action, unless the action removes it in one of three ways:
unbinding its key, closing a scope of its identity, or a call by which its own transaction drops
its binding, which it does when it ends or when the server refuses its commit. A holder of
another identity never removes it, and no action replaces it. -/
theorem find?_act (h : c.Sound) (a : Action) {k : ContextKey} {e : Entry}
    (he : c.shared.table.find? k = some e) :
    (c.act a).shared.table.find? k = some e ∨
      (c.act a).shared.table.find? k = none ∧
        (a = .release k ∨ (∃ sc, a = .close sc ∧ sc.key = k ∧ sc.id = e.id) ∨
          ∃ op, a = .call e.cell op ∧ (((c.act a).transaction e.cell).phase.isTerminal ∨
            op = .commit ∧
              ∃ err, (op.perform.runOn ⟨c.transaction e.cell, c.shared⟩).1 = .error err ∧
                err.isRemote)) := by
  cases a with
  | atomic | detached | store _ => exact .inl he
  | hold cell =>
    rw [act_hold]
    split
    · exact .inl he
    · exact .inl he
  | unhold cell =>
    rw [act_unhold]
    split
    · exact .inl he
    · exact .inl he
  | longRunning k' | scope k' =>
    -- an entry is live, so only a key without one gets a new entry
    first | rw [act_longRunning] | rw [act_scope]
    rw [h.run_acquire k']
    rcases hk' : c.shared.table.find? k' with _ | e'
    · have hne : k ≠ k' := fun hk ↦ by simp [hk ▸ he] at hk'
      exact .inl (by rw [table_bindFresh, Table.find?_put_ne _ _ hne, he])
    · exact .inl he
  | close sc =>
    rw [act_close, Table.find?_unbind]
    split
    · rename_i hk
      obtain ⟨rfl, hid⟩ := hk
      rw [he] at hid
      exact .inr ⟨rfl, .inr (.inl ⟨sc, rfl, rfl, by simpa using hid.symm⟩)⟩
    · exact .inl he
  | release k' =>
    rw [act_release]
    by_cases hk : k = k'
    · subst hk
      exact .inr ⟨Table.find?_remove_self _, .inl rfl⟩
    · exact .inl (by rw [Table.find?_remove_ne _ hk, he])
  | call cell op =>
    have hlaw := Call.bindingLaw_perform op ⟨c.transaction cell, c.shared⟩
    rcases hlaw.table with ⟨-, ht⟩ | ⟨-, ht, hwhy⟩
    · exact .inl (by rw [act_call]; simp only [ht, he])
    · rcases hc : (c.transaction cell).binding with _ | b
      · exact .inl (by rw [act_call]; simp only [ht, release_table, hc, Option.elim, he])
      · have hrel : (c.act (.call cell op)).shared.table = c.shared.table.release b := by
          rw [act_call]
          simp only [ht, release_table, hc, Option.elim]
        rw [hrel, Table.find?_release]
        split
        · rename_i hk
          obtain ⟨rfl, hid⟩ := hk
          rw [he] at hid
          simp only [Option.map_some, Option.some.injEq] at hid
          -- the binding dropped is the entry's, and only the entry's cell holds it
          have hcell : cell = e.cell := h.unique cell e.cell b hc (by
            rw [(h.entries _ e he).2.2.1, hid])
          subst hcell
          have hlt := (h.entries _ e he).lt
          refine .inr ⟨rfl, .inr (.inr ⟨op, rfl, ?_⟩)⟩
          rw [transaction_act_call_self op hlt]
          exact hwhy
        · exact .inl he

/-- In a sound client, asking for the transaction of a key returns the cell its entry names,
changing nothing, or binds a fresh one in a new cell. -/
theorem run_longRunning (h : c.Sound) (k : ContextKey) :
    (longRunning k).run c =
      match c.shared.table.find? k with
      | some e => (e.cell, c)
      | none => (c.cells.length, c.bindFresh k) := by
  simp only [longRunning, getOrCreate, StateT.run_bind, h.run_acquire k]
  split <;> rfl

/-- In a sound client, a scope of a key is over the transaction its entry names, changing
nothing, or over a fresh one bound in a new cell. -/
theorem run_scope (h : c.Sound) (k : ContextKey) :
    (scope k).run c =
      match c.shared.table.find? k with
      | some e => (⟨k, e.id, e.cell⟩, c)
      | none => (⟨k, c.nextId, c.cells.length⟩, c.bindFresh k) := by
  simp only [scope, StateT.run_bind, h.run_acquire k]
  split <;> rfl

theorem runActs (h : c.Sound) (as : List Action) : (c.runActs as).Sound := by
  induction as generalizing c with
  | nil => exact h
  | cons a as ih => exact ih (h.act a)

/-- An entry stays as it is along any run of actions that never leaves its key without one. -/
theorem find?_runActs (h : c.Sound) {k : ContextKey} {e : Entry}
    (he : c.shared.table.find? k = some e) (as : List Action)
    (hkeep : ∀ pre suf, as = pre ++ suf → ((c.runActs pre).shared.table.find? k).isSome) :
    (c.runActs as).shared.table.find? k = some e := by
  induction as generalizing c with
  | nil => exact he
  | cons a as ih =>
    rcases h.find?_act a he with he' | ⟨hnone, -⟩
    · exact ih (h.act a) he' fun pre suf hs ↦ by
        simpa using hkeep (a :: pre) suf (by rw [hs, List.cons_append])
    · have := hkeep [a] as rfl
      simp [hnone] at this

end Sound

end Client

/-- Every client reachable by any interleaving of actions. Every entry `k ↦ (id, cell)` of the
registry names an active long-running transaction of identity `id` that holds the binding
`(k, id)`. An action removes an entry only by unbinding its key, by closing a scope of the
entry's identity, or by a call through which the entry's own transaction drops its binding, when
it ends or when the server refuses its commit; otherwise the entry stays as it is, so a holder of
a stale identity never removes or replaces it. Asking for the transaction of a key, as such or in
a scope, returns the cell its entry names and changes nothing, or, when there is none, binds
under the key a fresh open long-running transaction with an identity no transaction has. So
along any run that keeps the key's entry, every request for the key returns that same cell. -/
theorem registry_binds_live_transactions {c : Client} (hc : c.Reachable) :
    (∀ k e, c.shared.table.find? k = some e →
      (c.transaction e.cell).id = e.id ∧ (c.transaction e.cell).mode = .longRunning ∧
        (c.transaction e.cell).binding = some ⟨k, e.id⟩ ∧ (c.transaction e.cell).isActive) ∧
    (∀ (a : Client.Action) k e, c.shared.table.find? k = some e →
      (c.act a).shared.table.find? k = some e ∨
        (c.act a).shared.table.find? k = none ∧
          (a = .release k ∨ (∃ sc, a = .close sc ∧ sc.key = k ∧ sc.id = e.id) ∨
            ∃ op, a = .call e.cell op ∧ (((c.act a).transaction e.cell).phase.isTerminal ∨
              op = .commit ∧ ∃ err, (op.perform.runOn ⟨c.transaction e.cell, c.shared⟩).1 =
                .error err ∧ err.isRemote))) ∧
    (∀ k e, c.shared.table.find? k = some e →
      (Client.longRunning k).run c = (e.cell, c) ∧
        (Client.scope k).run c = (⟨k, e.id, e.cell⟩, c)) ∧
    (∀ k, c.shared.table.find? k = none →
      (Client.longRunning k).run c = (c.cells.length, c.bindFresh k) ∧
      (Client.scope k).run c = (⟨k, c.nextId, c.cells.length⟩, c.bindFresh k) ∧
      (c.bindFresh k).transaction c.cells.length =
        .longRunning c.nextId c.endpoints (some ⟨k, c.nextId⟩) ∧
      (c.bindFresh k).shared.table.find? k = some ⟨c.nextId, c.cells.length⟩ ∧
      ∀ t ∈ c.cells, t.id ≠ c.nextId) ∧
    (∀ k e (as : List Client.Action), c.shared.table.find? k = some e →
      (∀ pre suf, as = pre ++ suf → ((c.runActs pre).shared.table.find? k).isSome) →
      (c.runActs as).shared.table.find? k = some e ∧
        ((Client.longRunning k).run (c.runActs as)).1 = e.cell ∧
        ((Client.scope k).run (c.runActs as)).1.cell = e.cell) := by
  have h := hc.sound
  refine ⟨h.entries, fun a _ _ he ↦ h.find?_act a he, fun k e he ↦ ?_, fun k hk ↦ ?_,
    fun k e as he hkeep ↦ ?_⟩
  · rw [h.run_longRunning, h.run_scope, he]
    exact ⟨rfl, rfl⟩
  · -- a fresh identity is above every identity given so far
    refine ⟨by rw [h.run_longRunning, hk], by rw [h.run_scope, hk],
      Client.transaction_of_append_self (Client.cells_bindFresh k), by simp,
      fun t ht hid ↦ Nat.lt_irrefl _ (hid ▸ h.fresh t ht)⟩
  · have hfinal := h.find?_runActs he as hkeep
    have hs := h.runActs as
    refine ⟨hfinal, ?_, ?_⟩
    · rw [hs.run_longRunning, hfinal]
    · rw [hs.run_scope, hfinal]

/-- A new client asked for the transaction of a key: the entry names an active long-running
transaction bound to the key, and a scope of the key is over that same cell. -/
theorem registry_binds_live_transactions_scope :
    let c := (Client.ofWire "http://h" .unreachable).act (.longRunning ⟨"k"⟩)
    c.Reachable ∧ c.shared.table.find? ⟨"k"⟩ = some ⟨0, 0⟩ ∧
      ((c.transaction 0).binding = some ⟨⟨"k"⟩, 0⟩ ∧ (c.transaction 0).isActive) ∧
      (Client.scope ⟨"k"⟩).run c = (⟨⟨"k"⟩, 0, 0⟩, c) := by
  intro c
  have hc : c.Reachable := .act _ (.ofWire _ _)
  have he : c.shared.table.find? ⟨"k"⟩ = some ⟨0, 0⟩ := by decide
  have h := registry_binds_live_transactions hc
  obtain ⟨-, -, hbind, hactive⟩ := h.1 _ _ he
  exact ⟨hc, he, ⟨hbind, hactive⟩, (h.2.2.1 _ _ he).2⟩

end GraphWire
