import GraphWire.Proofs.Transaction.Run

/-!
# Racing resolutions of a statement

A statement is shared by reference, so several threads may resolve it at once. A resolution is
three atomic steps on the shared statement (`Stage.advance`): it checks that the result slot is
empty; it writes the slot, a set-once cell that refuses a second write; and, if the statement asks
for statistics and the fragment has them, it writes the statistics, a second set-once cell whose
refusal is ignored. A `Race` is any number of such calls, each with its own fragment, whose steps
interleave in the order a schedule names (`Race.run`). Run alone, the three steps are
`Statement.resolve` (`Race.run_alone`).

Whatever the schedule, one call at most gets past the slot write (`Race.Inv`): the set-once cell
admits one writer, and a call writes the statistics only after its own slot write succeeded. So
the statement passes through at most two changes, both the winner's: its slot written from the
winner's fragment, then its statistics. Every other call returns `resultAlreadySet` having changed
nothing, the statistics are never written while the slot is empty, and the kind never changes.

The statements considered are those whose statistics are empty while their slot is
(`Statement.Consistent`), as every statement the API builds is.
-/

namespace GraphWire

namespace Statement

/-- A statement holds statistics only once its slot is written. -/
def Consistent (s : Statement) : Prop := s.isResolved = false → s.stats = none

theorem consistent_new (q : String) (k : ResultKind) : (new q k).Consistent := fun _ ↦ rfl

theorem Consistent.setParam {s : Statement} (h : s.Consistent) (name : String) (v : Value) :
    (s.setParam name v).Consistent := h

theorem Consistent.setIncludeStats {s : Statement} (h : s.Consistent) (b : Bool) :
    (s.setIncludeStats b).Consistent := h

/-- A resolution that went through leaves a consistent statement. -/
theorem Consistent.resolve {s s' : Statement} {f : Fragment} (h : s.resolve f = .ok s') :
    s'.Consistent := by
  rw [resolve_eq] at h
  split at h
  · cases h
  · cases h
    intro hr
    rw [isResolved_filled] at hr
    cases hr

/-- The statement with its slot written from a fragment, its statistics as they were. -/
def written (s : Statement) (f : Fragment) : Statement := { s with slot := (s.filled f).slot }

/-- The statistics step of a resolution: when the statement asks for statistics and the fragment
has them, they go into the statistics cell unless it already holds some. -/
def withStats (s : Statement) (f : Fragment) : Statement :=
  { s with stats := if s.includeStats then s.stats.or f.stats else s.stats }

@[simp] theorem isResolved_written (s : Statement) (f : Fragment) : (s.written f).isResolved := by
  cases h : s.slot <;> simp [written, filled, isResolved, h, Slot.isFilled]

/-- On a consistent statement with an empty slot, writing the slot and then the statistics is
filling it. -/
theorem withStats_written {s : Statement} (hc : s.Consistent) (hr : s.isResolved = false)
    (f : Fragment) : (s.written f).withStats f = s.filled f := by
  simp [withStats, written, filled, hc hr]

theorem kind_filled (s : Statement) (f : Fragment) : (s.filled f).kind = s.kind := by
  cases h : s.slot <;> simp [filled, kind, h, Slot.kind]

theorem kind_written (s : Statement) (f : Fragment) : (s.written f).kind = s.kind :=
  kind_filled s f

theorem rowSet?_filled (s : Statement) (f : Fragment) :
    (s.filled f).rowSet? = if s.kind = .row then some (RowSet.ofFragment f) else none := by
  cases h : s.slot <;> simp [filled, kind, rowSet?, h, Slot.kind]

theorem graph?_filled (s : Statement) (f : Fragment) :
    (s.filled f).graph? = if s.kind = .graph then some (Graph.ofFragment f) else none := by
  cases h : s.slot <;> simp [filled, kind, graph?, h, Slot.kind]

/-- A graph statement has no row set, and a row statement no graph. -/
theorem rowSet?_graph?_of_kind (s : Statement) :
    (s.kind = .graph → s.rowSet? = none) ∧ (s.kind = .row → s.graph? = none) := by
  cases h : s.slot <;> simp [kind, rowSet?, graph?, h, Slot.kind]

end Statement

/-! ## The steps of a resolution -/

/-- How far a call of `resolve` has got: not started, past the check, past the slot write, or
returned. -/
inductive Stage where
  | ready
  | checked
  | written
  | returned (r : Except ProtocolError Unit)

namespace Stage

/-- Whether the call has written the slot. -/
def won : Stage → Bool
  | .written => true
  | .returned (.ok ()) => true
  | _ => false

/-- One atomic step of a call with a fragment, on the shared statement: the check, the slot
write refused when the slot is filled, and the statistics write. A returned call takes none. -/
def advance (f : Fragment) (s : Statement) : Stage → Statement × Stage
  | .ready => if s.isResolved then (s, .returned (.error .resultAlreadySet)) else (s, .checked)
  | .checked =>
    if s.isResolved then (s, .returned (.error .resultAlreadySet)) else (s.written f, .written)
  | .written => (s.withStats f, .returned (.ok ()))
  | .returned r => (s, .returned r)

end Stage

/-- Calls of `resolve` racing on one statement: the statement they share, and each call's
fragment and stage. -/
structure Race where
  statement : Statement
  calls : List (Fragment × Stage)

namespace Race

/-- Calls not yet started, one per fragment. -/
def start (s : Statement) (fs : List Fragment) : Race := ⟨s, fs.map (·, .ready)⟩

/-- Call `i` takes one atomic step; a call that is not there takes none. -/
def step (r : Race) (i : Nat) : Race :=
  match r.calls[i]? with
  | none => r
  | some (f, st) => ⟨(st.advance f r.statement).1, r.calls.set i (f, (st.advance f r.statement).2)⟩

/-- Calls take steps in the order a schedule names them. -/
def run (r : Race) : List Nat → Race
  | [] => r
  | i :: is => (r.step i).run is

@[simp] theorem run_nil (r : Race) : r.run [] = r := rfl

@[simp] theorem run_cons (r : Race) (i : Nat) (is : List Nat) : r.run (i :: is) = (r.step i).run is :=
  rfl

theorem run_append (r : Race) (σ τ : List Nat) : r.run (σ ++ τ) = (r.run σ).run τ := by
  induction σ generalizing r with
  | nil => rfl
  | cons i σ ih => exact ih (r.step i)

theorem step_of_none {r : Race} {i : Nat} (h : r.calls[i]? = none) : r.step i = r := by
  simp [step, h]

theorem step_of_some {r : Race} {i : Nat} {f : Fragment} {st : Stage}
    (h : r.calls[i]? = some (f, st)) :
    r.step i = ⟨(st.advance f r.statement).1, r.calls.set i (f, (st.advance f r.statement).2)⟩ := by
  simp [step, h]

/-- After a step of call `i`, call `i` is at its new stage and every other call as it was. -/
theorem getElem?_set_calls {cs : List (Fragment × Stage)} {i : Nat} {c : Fragment × Stage}
    (h : cs[i]? = some c) (c' : Fragment × Stage) (j : Nat) :
    (cs.set i c')[j]? = if j = i then some c' else cs[j]? := by
  by_cases hj : j = i
  · subst hj
    rw [if_pos rfl, List.getElem?_set_self (List.getElem?_eq_some_iff.1 h).1]
  · rw [if_neg hj, List.getElem?_set_ne (Ne.symm hj)]

/-- A call found after a step of call `i` is call `i` at its new stage, or another call as it
was. -/
theorem getElem?_set_calls_cases {cs : List (Fragment × Stage)} {i j : Nat}
    {c c' x : Fragment × Stage} (h : cs[i]? = some c) (hx : (cs.set i c')[j]? = some x) :
    (j = i ∧ x = c') ∨ (j ≠ i ∧ cs[j]? = some x) := by
  rw [getElem?_set_calls h] at hx
  by_cases hji : j = i
  · rw [if_pos hji] at hx
    exact .inl ⟨hji, (Option.some.inj hx).symm⟩
  · rw [if_neg hji] at hx
    exact .inr ⟨hji, hx⟩

/-- Run alone from the start, the three steps of a call are `Statement.resolve`: the call
returns what `resolve` returns, and the statement ends as `resolve` leaves it. -/
theorem run_alone (s : Statement) (hc : s.Consistent) (f : Fragment) :
    (start s [f]).run [0, 0, 0] =
      match s.resolve f with
      | .ok s' => ⟨s', [(f, .returned (.ok ()))]⟩
      | .error e => ⟨s, [(f, .returned (.error e))]⟩ := by
  rw [Statement.resolve_eq]
  cases hr : s.isResolved
  · simp [start, step, Stage.advance, hr, Statement.withStats_written hc hr]
  · simp [start, step, Stage.advance, hr]

/-! ## What every schedule keeps -/

/-- What every interleaving keeps of a race from `s₀`: refused calls are refused for a filled
slot; at most one call has written the slot; until one has, the statement is `s₀`; while the
winner writes its statistics the statement is `s₀` with the slot written from its fragment; once
it has returned, the statement is `s₀` filled from its fragment. -/
structure Inv (s₀ : Statement) (r : Race) : Prop where
  consistent : s₀.Consistent
  refused : ∀ (j : Nat) (f : Fragment) (e : ProtocolError),
    r.calls[j]? = some (f, .returned (.error e)) → e = .resultAlreadySet
  single : ∀ (i j : Nat) (f g : Fragment) (si sj : Stage), r.calls[i]? = some (f, si) →
    r.calls[j]? = some (g, sj) → si.won → sj.won → i = j
  idle : (∀ (j : Nat) (f : Fragment) (st : Stage), r.calls[j]? = some (f, st) → st.won = false) →
    r.statement = s₀
  writing : ∀ (j : Nat) (f : Fragment), r.calls[j]? = some (f, .written) →
    s₀.isResolved = false ∧ r.statement = s₀.written f
  done : ∀ (j : Nat) (f : Fragment), r.calls[j]? = some (f, .returned (.ok ())) →
    s₀.isResolved = false ∧ r.statement = s₀.filled f

variable {s₀ : Statement} {r : Race}

theorem inv_start (hc : s₀.Consistent) (fs : List Fragment) : (start s₀ fs).Inv s₀ where
  consistent := hc
  refused j f e h := by simp [start] at h
  single i j f g si sj hi _ hw _ := by
    obtain ⟨a, -, ha⟩ : ∃ a, fs[i]? = some a ∧ (a, Stage.ready) = (f, si) := by
      simpa [start] using hi
    cases ha
    simp [Stage.won] at hw
  idle _ := rfl
  writing j f h := by simp [start] at h
  done j f h := by simp [start] at h

/-- Once a call has written the slot, the slot is filled. -/
theorem Inv.isResolved_of_won (h : r.Inv s₀) {j : Nat} {f : Fragment} {st : Stage}
    (hj : r.calls[j]? = some (f, st)) (hw : st.won) : r.statement.isResolved := by
  cases st with
  | written => simp [(h.writing j f hj).2]
  | returned res =>
    rcases res with _ | ⟨⟩
    · cases hw
    · simp [(h.done j f hj).2]
  | _ => cases hw

/-- A step that moves a call to a stage short of the slot write, or keeps it returned, and
leaves the statement alone, keeps the invariant. -/
theorem Inv.step_quiet (h : r.Inv s₀) {i : Nat} {f : Fragment} {st st' : Stage}
    (hi : r.calls[i]? = some (f, st)) (hw : st.won = false) (hw' : st'.won = false)
    (hst' : ∀ e, st' = .returned (.error e) → e = .resultAlreadySet) :
    (⟨r.statement, r.calls.set i (f, st')⟩ : Race).Inv s₀ := by
  -- call `i` is at `st'`, which has not won, and every other call where it was
  have hold := fun {j : Nat} {x : Fragment × Stage} (hx : (r.calls.set i (f, st'))[j]? = some x) ↦
    getElem?_set_calls_cases hi hx
  refine ⟨h.consistent, fun j g e hj ↦ ?_, fun j k g g' sj sk hj hk hwj hwk ↦ ?_, fun hno ↦ ?_,
    fun j g hj ↦ ?_, fun j g hj ↦ ?_⟩
  · rcases hold hj with ⟨-, he⟩ | ⟨-, hj⟩
    · exact hst' e (congrArg Prod.snd he).symm
    · exact h.refused j g e hj
  · rcases hold hj with ⟨-, he⟩ | ⟨-, hj⟩
    · cases he
      rw [hw'] at hwj
      cases hwj
    rcases hold hk with ⟨-, he⟩ | ⟨-, hk⟩
    · cases he
      rw [hw'] at hwk
      cases hwk
    exact h.single j k g g' sj sk hj hk hwj hwk
  · apply h.idle
    intro j g s hj
    by_cases hji : j = i
    · subst hji
      rw [hi] at hj
      cases hj
      exact hw
    · exact hno j g s (by rw [getElem?_set_calls hi, if_neg hji]; exact hj)
  · rcases hold hj with ⟨-, he⟩ | ⟨-, hj⟩
    · cases he
      cases hw'
    · exact h.writing j g hj
  · rcases hold hj with ⟨-, he⟩ | ⟨-, hj⟩
    · cases he
      cases hw'
    · exact h.done j g hj

/-- The slot write of a call that found the slot empty makes it the one winner. -/
theorem Inv.step_write (h : r.Inv s₀) {i : Nat} {f : Fragment}
    (hi : r.calls[i]? = some (f, .checked)) (hr : r.statement.isResolved = false) :
    (⟨r.statement.written f, r.calls.set i (f, .written)⟩ : Race).Inv s₀ := by
  -- the slot is empty, so no call has won and the statement is still `s₀`
  have hnone : ∀ (j : Nat) (g : Fragment) (s : Stage), r.calls[j]? = some (g, s) →
      s.won = false := by
    intro j g s hj
    cases hs : s.won
    · rfl
    · rw [h.isResolved_of_won hj hs] at hr
      cases hr
  have hs₀ : r.statement = s₀ := h.idle hnone
  have hold := fun {j : Nat} {x : Fragment × Stage}
    (hx : (r.calls.set i (f, .written))[j]? = some x) ↦ getElem?_set_calls_cases hi hx
  -- the one call that has won after the step is call `i`
  have hwon : ∀ {j : Nat} {g : Fragment} {s : Stage},
      (r.calls.set i (f, .written))[j]? = some (g, s) → s.won → j = i ∧ g = f ∧ s = .written := by
    intro j g s hj hw
    rcases hold hj with ⟨hji, he⟩ | ⟨-, hj⟩
    · cases he
      exact ⟨hji, rfl, rfl⟩
    · rw [hnone j g s hj] at hw
      cases hw
  refine ⟨h.consistent, fun j g e hj ↦ ?_, fun j k g g' sj sk hj hk hwj hwk ↦ ?_,
    fun hno ↦ ?_, fun j g hj ↦ ?_, fun j g hj ↦ ?_⟩
  · rcases hold hj with ⟨-, he⟩ | ⟨-, hj⟩
    · cases he
    · exact h.refused j g e hj
  · exact (hwon hj hwj).1.trans (hwon hk hwk).1.symm
  · have := hno i f .written (by rw [getElem?_set_calls hi, if_pos rfl])
    cases this
  · obtain ⟨-, rfl, -⟩ := hwon hj rfl
    exact ⟨hs₀ ▸ hr, by rw [hs₀]⟩
  · obtain ⟨-, -, he⟩ := hwon hj rfl
    cases he

/-- The statistics write of the winner ends the race's changes: the statement is `s₀` filled from
the winner's fragment. -/
theorem Inv.step_stats (h : r.Inv s₀) {i : Nat} {f : Fragment}
    (hi : r.calls[i]? = some (f, .written)) :
    (⟨r.statement.withStats f, r.calls.set i (f, .returned (.ok ()))⟩ : Race).Inv s₀ := by
  obtain ⟨hr₀, hs⟩ := h.writing i f hi
  have hold := fun {j : Nat} {x : Fragment × Stage}
    (hx : (r.calls.set i (f, .returned (.ok ())))[j]? = some x) ↦ getElem?_set_calls_cases hi hx
  -- call `i` stays the one call that has won
  have hwon : ∀ {j : Nat} {g : Fragment} {s : Stage},
      (r.calls.set i (f, .returned (.ok ())))[j]? = some (g, s) → s.won →
        j = i ∧ g = f ∧ s = .returned (.ok ()) := by
    intro j g s hj hw
    rcases hold hj with ⟨hji, he⟩ | ⟨hji, hj⟩
    · cases he
      exact ⟨hji, rfl, rfl⟩
    · exact absurd (h.single j i g f s .written hj hi hw rfl) hji
  refine ⟨h.consistent, fun j g e hj ↦ ?_, fun j k g g' sj sk hj hk hwj hwk ↦ ?_,
    fun hno ↦ ?_, fun j g hj ↦ ?_, fun j g hj ↦ ?_⟩
  · rcases hold hj with ⟨-, he⟩ | ⟨-, hj⟩
    · cases he
    · exact h.refused j g e hj
  · exact (hwon hj hwj).1.trans (hwon hk hwk).1.symm
  · have := hno i f (.returned (.ok ())) (by rw [getElem?_set_calls hi, if_pos rfl])
    cases this
  · obtain ⟨-, -, he⟩ := hwon hj rfl
    cases he
  · obtain ⟨-, rfl, -⟩ := hwon hj rfl
    exact ⟨hr₀, by rw [hs, Statement.withStats_written h.consistent hr₀]⟩

/-- Every step keeps the invariant. -/
theorem Inv.step (h : r.Inv s₀) (i : Nat) : (r.step i).Inv s₀ := by
  rcases hi : r.calls[i]? with _ | ⟨f, st⟩
  · rw [step_of_none hi]
    exact h
  rw [step_of_some hi]
  cases st with
  | ready =>
    by_cases hr : r.statement.isResolved
    · simp only [Stage.advance, hr, ↓reduceIte]
      exact h.step_quiet hi rfl rfl fun e he ↦ by cases he; rfl
    · simp only [Stage.advance, hr, Bool.false_eq_true, ↓reduceIte]
      exact h.step_quiet hi rfl rfl fun e he ↦ by cases he
  | checked =>
    by_cases hr : r.statement.isResolved
    · simp only [Stage.advance, hr, ↓reduceIte]
      exact h.step_quiet hi rfl rfl fun e he ↦ by cases he; rfl
    · simp only [Stage.advance, hr, Bool.false_eq_true, ↓reduceIte]
      exact h.step_write hi (by simpa using hr)
  | written => exact h.step_stats hi
  | returned res =>
    -- a returned call takes no step
    have hself : r.calls.set i (f, .returned res) = r.calls := by
      obtain ⟨hlt, heq⟩ := List.getElem?_eq_some_iff.1 hi
      rw [← heq, List.set_getElem_self]
    simp only [Stage.advance, hself]
    exact h

theorem Inv.run (h : r.Inv s₀) (σ : List Nat) : (r.run σ).Inv s₀ := by
  induction σ generalizing r with
  | nil => exact h
  | cons i σ ih => exact ih (h.step i)

/-- The statement is `s₀`, or `s₀` with the slot written from a fragment, or `s₀` filled from
it. -/
theorem Inv.statement_cases (h : r.Inv s₀) :
    r.statement = s₀ ∨ ∃ f, r.statement = s₀.written f ∨ r.statement = s₀.filled f := by
  by_cases hidle : ∀ (j : Nat) (f : Fragment) (st : Stage), r.calls[j]? = some (f, st) →
      st.won = false
  · exact .inl (h.idle hidle)
  -- some call has won: it is writing its statistics or has returned
  simp only [Classical.not_forall, Bool.not_eq_false] at hidle
  obtain ⟨j, f, st, hj, hw⟩ := hidle
  cases st with
  | written => exact .inr ⟨f, .inl (h.writing j f hj).2⟩
  | returned res =>
    rcases res with _ | ⟨⟩
    · simp [Stage.won] at hw
    · exact .inr ⟨f, .inr (h.done j f hj).2⟩
  | _ => simp [Stage.won] at hw

/-- The statistics are never set while the slot is empty. -/
theorem Inv.statement_consistent (h : r.Inv s₀) : r.statement.Consistent := by
  rcases h.statement_cases with hs | ⟨f, hs | hs⟩ <;> rw [hs]
  · exact h.consistent
  · intro hr
    simp at hr
  · intro hr
    simp at hr

theorem Inv.kind (h : r.Inv s₀) : r.statement.kind = s₀.kind := by
  rcases h.statement_cases with hs | ⟨f, hs | hs⟩ <;> rw [hs]
  · exact Statement.kind_written s₀ f
  · exact Statement.kind_filled s₀ f

/-- A step changes the statement only when it writes a call's slot or its statistics. -/
theorem statement_step (r : Race) (j : Nat) :
    (r.step j).statement = r.statement ∨ ∃ f,
      (r.calls[j]? = some (f, .checked) ∧ (r.step j).calls[j]? = some (f, .written)) ∨
      (r.calls[j]? = some (f, .written) ∧ (r.step j).calls[j]? = some (f, .returned (.ok ()))) := by
  rcases hj : r.calls[j]? with _ | ⟨f, st⟩
  · exact .inl (by rw [step_of_none hj])
  rw [step_of_some hj]
  have hlt : j < r.calls.length := (List.getElem?_eq_some_iff.1 hj).1
  cases st with
  | ready =>
    left
    simp only [Stage.advance]
    split <;> rfl
  | checked =>
    by_cases hr : r.statement.isResolved
    · left
      simp [Stage.advance, hr]
    · right
      exact ⟨f, .inl ⟨rfl, by simp [Stage.advance, hr, List.getElem?_set_self hlt]⟩⟩
  | written =>
    right
    exact ⟨f, .inr ⟨rfl, by simp [Stage.advance, List.getElem?_set_self hlt]⟩⟩
  | returned res =>
    left
    rfl

/-- A call that has returned stays returned, whatever the schedule does next. -/
theorem getElem?_run_of_returned {r : Race} {i : Nat} {f : Fragment}
    {res : Except ProtocolError Unit} (h : r.calls[i]? = some (f, .returned res)) (τ : List Nat) :
    (r.run τ).calls[i]? = some (f, .returned res) := by
  induction τ generalizing r with
  | nil => exact h
  | cons j τ ih =>
    apply ih
    rcases hj : r.calls[j]? with _ | ⟨g, st⟩
    · rwa [step_of_none hj]
    rw [step_of_some hj, getElem?_set_calls hj]
    by_cases hji : i = j
    · subst hji
      rw [h] at hj
      cases hj
      rw [if_pos rfl]
      rfl
    · rw [if_neg hji]
      exact h

end Race


/-- Every interleaving of calls of `resolve` on a consistent statement, each call with any
fragment, under any schedule. At most one call returns `ok`. Once one has, the slot holds the
row set of its fragment (for a row statement) or its graph (for a graph statement), the
statistics are the fragment's exactly when the statement asked for them, and both stay so however
the schedule goes on. The statistics are never set while the slot is empty. Every other call
that has returned was refused with `resultAlreadySet`, and a step changes the statement only when
it writes a call's slot or that call's statistics. The kind never changes, so a graph statement
never has a row set, nor a row statement a graph. -/
theorem resolve_races_settle_once (s₀ : Statement) (hc : s₀.Consistent) (fs : List Fragment)
    (σ : List Nat) :
    let r := (Race.start s₀ fs).run σ
    (∀ (i j : Nat) (f g : Fragment), r.calls[i]? = some (f, .returned (.ok ())) →
      r.calls[j]? = some (g, .returned (.ok ())) → i = j) ∧
    (∀ (i : Nat) (f : Fragment), r.calls[i]? = some (f, .returned (.ok ())) → ∀ τ,
      let r' := (Race.start s₀ fs).run (σ ++ τ)
      r'.calls[i]? = some (f, .returned (.ok ())) ∧
      r'.statement.rowSet? = (if s₀.kind = .row then some (RowSet.ofFragment f) else none) ∧
      r'.statement.graph? = (if s₀.kind = .graph then some (Graph.ofFragment f) else none) ∧
      r'.statement.stats = (if s₀.includeStats then f.stats else none)) ∧
    (r.statement.isResolved = false → r.statement.stats = none) ∧
    (∀ (j : Nat) (f : Fragment) (e : ProtocolError),
      r.calls[j]? = some (f, .returned (.error e)) → e = .resultAlreadySet) ∧
    (∀ j, (r.step j).statement = r.statement ∨ ∃ f,
      (r.calls[j]? = some (f, .checked) ∧ (r.step j).calls[j]? = some (f, .written)) ∨
      (r.calls[j]? = some (f, .written) ∧ (r.step j).calls[j]? = some (f, .returned (.ok ())))) ∧
    r.statement.kind = s₀.kind ∧
    (r.statement.kind = .graph → r.statement.rowSet? = none) ∧
    (r.statement.kind = .row → r.statement.graph? = none) := by
  intro r
  have h : r.Inv s₀ := (Race.inv_start hc fs).run σ
  refine ⟨fun i j f g hi hj ↦ h.single i j f g _ _ hi hj rfl rfl, fun i f hi τ ↦ ?_,
    h.statement_consistent, h.refused, Race.statement_step r, h.kind,
    (Statement.rowSet?_graph?_of_kind r.statement).1, (Statement.rowSet?_graph?_of_kind r.statement).2⟩
  -- the winner stays returned, and the statement stays filled from its fragment
  intro r'
  have hr' : r' = r.run τ := Race.run_append _ σ τ
  have hi' : r'.calls[i]? = some (f, .returned (.ok ())) := hr' ▸ Race.getElem?_run_of_returned hi τ
  have hs : r'.statement = s₀.filled f := ((hr' ▸ h.run τ : r'.Inv s₀).done i f hi').2
  refine ⟨hi', ?_, ?_, ?_⟩ <;> rw [hs]
  · exact Statement.rowSet?_filled s₀ f
  · exact Statement.graph?_filled s₀ f
  · rfl


/-- Two calls racing on a statement that asks for statistics, the first fragment with statistics
and the second without. After the schedule check, check, slot write, slot write, statistics
write, the first call has won, the second was refused, and the statistics are the first
fragment's. -/
theorem resolve_races_settle_once_interleaved :
    let s := (Statement.row "CREATE (a), (b)").setIncludeStats true
    let stats : QueryStats := { (default : QueryStats) with containsUpdates := true, nodesCreated := 2 }
    let f₁ : Fragment := ⟨[], [], some stats⟩
    let f₂ : Fragment := ⟨["n"], [], none⟩
    let r := (Race.start s [f₁, f₂]).run [0, 1, 0, 1, 0]
    s.Consistent ∧ r.calls[0]? = some (f₁, .returned (.ok ())) ∧
      r.calls[1]? = some (f₂, .returned (.error .resultAlreadySet)) ∧
      r.statement.stats = some stats := by
  intro s stats f₁ f₂ r
  have hc : s.Consistent := (Statement.consistent_new _ _).setIncludeStats true
  have h0 : r.calls[0]? = some (f₁, .returned (.ok ())) := rfl
  have hwin := ((resolve_races_settle_once s hc [f₁, f₂] [0, 1, 0, 1, 0]).2.1 0 f₁ h0 []).2.2.2
  exact ⟨hc, h0, rfl, hwin⟩

end GraphWire
