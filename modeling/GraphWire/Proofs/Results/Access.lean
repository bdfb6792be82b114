import GraphWire.RowSet

/-!
# Reading a row set

A row set is read in two ways: a cell of a row, by column number or by column name, converted
to a Lean type through `FromValue`; and row after row through a cursor.

A typed read (`Row.get`) fails in one of three ways, each naming what it looked at: the column
is past the row's width; the cell is null; or the cell holds a value of another kind, named with
the kind expected. Reading as `Option α` turns only a null cell into `none`, and otherwise is the
reading as `α`, errors included (`Row.get_option_of_ne_null`). Every reading other than the one as
a plain value refuses null (`fromValue?_null_refused`), so a null cell is never read as a default
scalar; a 32-bit read takes an integer exactly in signed 32-bit range (`fromValue?_int32_eq_some`).
A read by name is the read at the first column of that name.

A cursor stands before the first row, on a row, or parked at the row count once it has run past
the last one. What a sequence of `next` and `reset` calls does is fixed by one number, the calls
of `next` since the cursor was made or last reset: the cursor is then `Cursor.walked` at that
number (`Cursor.walk_start`), on row `i - 1` after the `i`-th call when there is such a row, and
on no row otherwise, its position never past the row count.
-/

namespace GraphWire

/-! ## Kinds a reading accepts -/

/-- Reading as `Option α` takes null to `none`, and any other value to the reading as `α`. -/
theorem fromValue?_option {α : Type} [FromValue α] (v : Value) :
    (FromValue.fromValue? v : Option (Option α)) =
      if v.isNull then some none else (FromValue.fromValue? v).map some := rfl

@[simp] theorem expected_option {α : Type} [FromValue α] :
    FromValue.expected (Option α) = FromValue.expected α := rfl

/-- Every reading but the one as a plain value refuses null. -/
theorem fromValue?_null_refused :
    (FromValue.fromValue? .null : Option Bool) = none ∧
      (FromValue.fromValue? .null : Option Int64) = none ∧
      (FromValue.fromValue? .null : Option Int32) = none ∧
      (FromValue.fromValue? .null : Option Float) = none ∧
      (FromValue.fromValue? .null : Option String) = none ∧
      (FromValue.fromValue? .null : Option (List Value)) = none ∧
      (FromValue.fromValue? .null : Option (List (String × Value))) = none :=
  ⟨rfl, rfl, rfl, rfl, rfl, rfl, rfl⟩

/-- An integer fits in 32 bits when it lies in signed 32-bit range. -/
theorem fitsInt32_iff (i : Int) :
    Value.fitsInt32 i = true ↔ -2147483648 ≤ i ∧ i ≤ 2147483647 := by
  have hpow : ((Nat.pow 2 31 : Nat) : Int) = 2147483648 := rfl
  simp only [Value.fitsInt32, hpow, Bool.and_eq_true, decide_eq_true_eq]
  omega

/-- A 32-bit read takes an integer within signed 32-bit range, keeping its value, and nothing
else. -/
theorem fromValue?_int32_eq_some (v : Value) (x : Int32) :
    (FromValue.fromValue? v : Option Int32) = some x ↔
      ∃ i : Int64, v = .int i ∧ -2147483648 ≤ i.toInt ∧ i.toInt ≤ 2147483647 ∧
        x.toInt = i.toInt := by
  change v.asInt32? = some x ↔ _
  cases v with
  | int i =>
    simp only [Value.asInt32?, Value.int.injEq, exists_eq_left']
    by_cases hfit : Value.fitsInt32 i.toInt
    · obtain ⟨h₁, h₂⟩ := (fitsInt32_iff _).1 hfit
      have hval : (Int32.ofInt i.toInt).toInt = i.toInt :=
        Int32.toInt_ofInt_of_le (by simpa using h₁) (by simpa using Int.lt_add_one_of_le h₂)
      rw [if_pos hfit, Option.some.injEq]
      constructor
      · rintro rfl
        exact ⟨h₁, h₂, hval⟩
      · rintro ⟨-, -, hx⟩
        exact Int32.toInt_inj.1 (hval.trans hx.symm)
    · rw [if_neg hfit]
      simp only [reduceCtorEq, false_iff, not_and]
      intro h₁ h₂ _
      exact hfit ((fitsInt32_iff _).2 ⟨h₁, h₂⟩)
  | _ => simp [Value.asInt32?]

/-! ## Typed reads of a row -/

namespace Row

variable {α : Type} [FromValue α]

/-- A column at or past the row's width is out of range. -/
theorem get_of_length_le (r : Row) {c : Nat} (h : r.values.length ≤ c) :
    r.get α c = .error (.columnOutOfRange c r.values.length) := by
  simp [get, List.getElem?_eq_none h]

/-- A cell is read exactly as `FromValue` reads it. -/
theorem get_eq_ok_iff {r : Row} {c : Nat} {v : Value} (h : r.values[c]? = some v) (a : α) :
    r.get α c = .ok a ↔ FromValue.fromValue? v = some a := by
  cases hv : (FromValue.fromValue? v : Option α) with
  | some b => simp [get, h, hv]
  | none =>
    simp only [get, h, hv, reduceCtorEq, iff_false]
    split <;> simp

/-- A cell `FromValue` cannot read is reported as no value when null, and as a kind mismatch,
with the kind expected and the kind found, otherwise. -/
theorem get_of_fromValue?_eq_none {r : Row} {c : Nat} {v : Value} (h : r.values[c]? = some v)
    (hv : (FromValue.fromValue? v : Option α) = none) :
    r.get α c = .error
      (if v.isNull then .noValue c else .typeMismatch c (FromValue.expected α) v.typeName) := by
  simp only [get, h, hv]
  split <;> rfl

/-- A reading that refuses null reports a null cell as no value. -/
theorem get_of_null {r : Row} {c : Nat} (h : r.values[c]? = some .null)
    (hα : (FromValue.fromValue? .null : Option α) = none) : r.get α c = .error (.noValue c) := by
  rw [get_of_fromValue?_eq_none h hα]
  rfl

/-- Reading a null cell as `Option α` gives `none`. -/
theorem get_option_of_null {r : Row} {c : Nat} (h : r.values[c]? = some .null) :
    r.get (Option α) c = .ok none := by
  simp [get, h]

/-- Reading a cell that is not null as `Option α` is the reading as `α` wrapped in `some`, with
the same errors: out of range, or a mismatch naming the kind `α` expects. -/
theorem get_option_of_ne_null {r : Row} {c : Nat} (h : r.values[c]? ≠ some .null) :
    r.get (Option α) c = (r.get α c).map some := by
  rcases hc : r.values[c]? with _ | v
  · simp [get, hc, Except.map]
  · have hn : v.isNull = false := by
      cases v <;> simp_all [Value.isNull]
    cases hv : (FromValue.fromValue? v : Option α) <;>
      simp [get, hc, hv, hn, fromValue?_option, Except.map]

/-- A read by name reads the first column of that name, and fails naming the column when there
is none. -/
theorem getByName_first_column (r : Row) (name : String) :
    (name ∉ r.columns ∧ r.getByName α name = .error (.unknownColumn name)) ∨
      ∃ c, r.columns[c]? = some name ∧ (∀ j < c, r.columns[j]? ≠ some name) ∧
        r.getByName α name = r.get α c := by
  cases hc : r.columns.idxOf? name with
  | none =>
    exact .inl ⟨List.idxOf?_eq_none_iff.1 hc, by simp [getByName, hc]⟩
  | some c =>
    obtain ⟨hlt, hname, hfirst⟩ := List.idxOf?_eq_some_iff.1 hc
    refine .inr ⟨c, by simp [hlt, hname], fun j hj ↦ ?_, by simp [getByName, hc]⟩
    rw [List.getElem?_eq_getElem (Nat.lt_trans hj hlt), ne_eq, Option.some.injEq]
    exact hfirst j hj

end Row

/-- Typed reads of any row, and through any cursor. A column past the row's width is out of
range, reported with the column and the width. Otherwise the read succeeds exactly when
`FromValue` reads the cell, and fails with no value on a null cell and with a kind mismatch,
naming the kind expected and the kind found, on any other. Reading as `Option α` gives `none` on
a null cell and is otherwise the reading as `α` wrapped in `some`, errors included. A read by
name is the read at the first column of that name, or fails naming the column. A cursor reads
its current row, and fails with no current row when it is on none. Of the eight kinds of reading,
all but the one as a plain value report a null cell as no value, and a 32-bit read takes an
integer exactly when it lies in signed 32-bit range. -/
theorem typed_reads (r : Row) (c : Nat) :
    (∀ (α : Type) [FromValue α],
      (r.values.length ≤ c → r.get α c = .error (.columnOutOfRange c r.values.length)) ∧
      (∀ v, r.values[c]? = some v →
        (∀ a, r.get α c = .ok a ↔ FromValue.fromValue? v = some a) ∧
        ((FromValue.fromValue? v : Option α) = none → r.get α c = .error
          (if v.isNull then .noValue c else .typeMismatch c (FromValue.expected α) v.typeName))) ∧
      (r.values[c]? = some .null → r.get (Option α) c = .ok none) ∧
      (r.values[c]? ≠ some .null → r.get (Option α) c = (r.get α c).map some) ∧
      (∀ name, (name ∉ r.columns ∧ r.getByName α name = .error (.unknownColumn name)) ∨
        ∃ j, r.columns[j]? = some name ∧ (∀ k < j, r.columns[k]? ≠ some name) ∧
          r.getByName α name = r.get α j) ∧
      (∀ cur : Cursor, (cur.current? = none → cur.get α c = .error .noCurrentRow) ∧
        ∀ row, cur.current? = some row → cur.get α c = row.get α c)) ∧
    (r.values[c]? = some .null →
      r.get Bool c = .error (.noValue c) ∧ r.get Int64 c = .error (.noValue c) ∧
      r.get Int32 c = .error (.noValue c) ∧ r.get Float c = .error (.noValue c) ∧
      r.get String c = .error (.noValue c) ∧ r.get (List Value) c = .error (.noValue c) ∧
      r.get (List (String × Value)) c = .error (.noValue c)) ∧
    (∀ i : Int64, r.values[c]? = some (.int i) →
      ((∃ x, r.get Int32 c = .ok x) ↔ -2147483648 ≤ i.toInt ∧ i.toInt ≤ 2147483647) ∧
      ∀ x, r.get Int32 c = .ok x → x.toInt = i.toInt) := by
  refine ⟨fun α _ ↦ ⟨Row.get_of_length_le r, fun v hv ↦ ⟨Row.get_eq_ok_iff hv,
    Row.get_of_fromValue?_eq_none hv⟩, Row.get_option_of_null, Row.get_option_of_ne_null,
    Row.getByName_first_column r, fun cur ↦ ⟨fun h ↦ by simp [Cursor.get, h],
    fun row h ↦ by simp [Cursor.get, h]⟩⟩, fun h ↦ ?_, fun i h ↦ ?_⟩
  · obtain ⟨hb, hi, hi32, hf, hs, hl, hm⟩ := fromValue?_null_refused
    exact ⟨Row.get_of_null h hb, Row.get_of_null h hi, Row.get_of_null h hi32,
      Row.get_of_null h hf, Row.get_of_null h hs, Row.get_of_null h hl, Row.get_of_null h hm⟩
  · -- both directions go through what the 32-bit reading accepts
    have hread : ∀ x, r.get Int32 c = .ok x ↔
        -2147483648 ≤ i.toInt ∧ i.toInt ≤ 2147483647 ∧ x.toInt = i.toInt := by
      intro x
      rw [Row.get_eq_ok_iff h, fromValue?_int32_eq_some]
      simp
    refine ⟨⟨fun ⟨x, hx⟩ ↦ ?_, fun hr ↦ ?_⟩, fun x hx ↦ ((hread x).1 hx).2.2⟩
    · obtain ⟨h₁, h₂, -⟩ := (hread x).1 hx
      exact ⟨h₁, h₂⟩
    · exact ⟨Int32.ofInt i.toInt, (hread _).2 ⟨hr.1, hr.2,
        Int32.toInt_ofInt_of_le (by simpa using hr.1) (by simpa using Int.lt_add_one_of_le hr.2)⟩⟩

/-- The rows of the typed-read tests: `Grace` has no age, so reading the age as an integer
finds no value and as an optional integer finds none, reading the name as an integer is a kind
mismatch, and column 5 is out of range; an integer one past the 32-bit range is no 32-bit
integer. -/
theorem typed_reads_grace :
    let grace : Row := ⟨["name", "age"], [.string "Grace", .null]⟩
    let big : Row := ⟨["n"], [.int 2147483648]⟩
    grace.get Int64 1 = .error (.noValue 1) ∧ grace.get (Option Int64) 1 = .ok none ∧
      grace.get Int64 0 = .error (.typeMismatch 0 "integer" "string") ∧
      grace.get String 5 = .error (.columnOutOfRange 5 2) ∧
      ¬∃ x, big.get Int32 0 = .ok x := by
  intro grace big
  have hname := (((typed_reads grace 0).1 Int64).2.1 (.string "Grace") rfl).2 rfl
  have hbig := ((typed_reads big 0).2.2 2147483648 rfl).1
  refine ⟨((typed_reads grace 1).2.1 rfl).2.1, ((typed_reads grace 1).1 Int64).2.2.1 rfl,
    by rw [hname]; rfl, ((typed_reads grace 5).1 String).1 (by decide), fun hx ↦ ?_⟩
  have hr := hbig.1 hx
  revert hr
  decide

/-! ## Walking the rows with a cursor -/

namespace Cursor

/-- A call on a cursor. -/
inductive Move where
  | next
  | reset
deriving DecidableEq, Repr

/-- The cursor after a call. -/
def move (c : Cursor) : Move → Cursor
  | .next => c.next.1
  | .reset => c.reset

/-- The cursor after calls in order. -/
def walk (c : Cursor) : List Move → Cursor
  | [] => c
  | m :: ms => (c.move m).walk ms

@[simp] theorem walk_nil (c : Cursor) : c.walk [] = c := rfl

@[simp] theorem walk_cons (c : Cursor) (m : Move) (ms : List Move) :
    c.walk (m :: ms) = (c.move m).walk ms := rfl

/-- The count of `next` calls after one more call: a `next` adds one, a reset starts over. -/
def count : Nat → Move → Nat
  | n, .next => n + 1
  | _, .reset => 0

/-- The number of `next` calls since the cursor was made or last reset. -/
def nextsSinceReset (ms : List Move) : Nat := ms.foldl count 0

/-- The cursor over `s` after `i` calls of `next` from before the first row: before the first
row for none, else at the index of the last call, parked at the row count once past it. -/
def walked (s : RowSet) : Nat → Cursor
  | 0 => ⟨s, none⟩
  | i + 1 => ⟨s, some (min i s.size)⟩

@[simp] theorem set_walked (s : RowSet) (i : Nat) : (walked s i).set = s := by
  cases i <;> rfl

theorem start_eq_walked (s : RowSet) : start s = walked s 0 := rfl

/-- One more `next` moves the count on by one, and finds a row while the count stays within
the rows. -/
theorem next_walked (s : RowSet) (i : Nat) :
    (walked s i).next = (walked s (i + 1), decide (i < s.size)) := by
  cases i with
  | zero => rfl
  | succ i =>
    -- the position parks at the row count, so the next index is the count or one past it
    show (⟨s, some (min (min i s.size + 1) s.size)⟩, decide (min i s.size + 1 < s.size)) =
      (walked s (i + 2), decide (i + 1 < s.size))
    rw [show min (min i s.size + 1) s.size = min (i + 1) s.size by omega,
      decide_eq_decide.2 (by omega : min i s.size + 1 < s.size ↔ i + 1 < s.size)]
    rfl

theorem move_walked (s : RowSet) (i : Nat) (m : Move) :
    (walked s i).move m = walked s (count i m) := by
  cases m with
  | next => simp [move, next_walked, count]
  | reset => simp only [move, reset, set_walked, count]; rfl

/-- Calls from the cursor after `i` calls of `next` end where their count says. -/
theorem walk_walked (s : RowSet) (i : Nat) (ms : List Move) :
    (walked s i).walk ms = walked s (ms.foldl count i) := by
  induction ms generalizing i with
  | nil => rfl
  | cons m ms ih => rw [walk_cons, move_walked, ih, List.foldl_cons]

/-- Calls from a new cursor end at the cursor of their `next` calls since the last reset. -/
theorem walk_start (s : RowSet) (ms : List Move) :
    (start s).walk ms = walked s (nextsSinceReset ms) := by
  rw [start_eq_walked, walk_walked]
  rfl

/-- After `i` calls the cursor is on row `i - 1` when there is such a row, and on none
otherwise. -/
theorem index?_walked (s : RowSet) (i : Nat) :
    (walked s i).index? = if 0 < i ∧ i ≤ s.size then some (i - 1) else none := by
  cases i with
  | zero => rfl
  | succ i =>
    by_cases h : i < s.size
    · simp [index?, walked, Nat.min_eq_left (Nat.le_of_lt h), h, Nat.succ_le_of_lt h]
    · rw [if_neg (by omega)]
      simp [index?, walked, Nat.min_eq_right (Nat.le_of_not_lt h), Option.filter]

theorem current?_walked (s : RowSet) (i : Nat) :
    (walked s i).current? = if 0 < i ∧ i ≤ s.size then s.row? (i - 1) else none := by
  simp only [current?, index?_walked, set_walked]
  split <;> rfl

/-- The position of a cursor never passes the row count. -/
theorem position_walked_le (s : RowSet) (i : Nat) {p : Nat}
    (h : (walked s i).position = some p) : p ≤ s.size := by
  cases i with
  | zero => cases h
  | succ i =>
    obtain rfl : min i s.size = p := Option.some.inj h
    exact Nat.min_le_right _ _

end Cursor

/-- Every sequence of `next` and `reset` calls on a cursor over a row set with `n` rows. Counting
the calls of `next` since the cursor was made or last reset, the `i`-th of them moves onto a row
exactly when `i ≤ n`: the cursor is then on row `i - 1`, and that row is the current one; past
`n` it is on no row, has no current row, and every typed read through it fails with no current
row. The cursor's position never passes `n`, however many calls run past the end. -/
theorem cursor_visits_rows_in_order (s : RowSet) (ms : List Cursor.Move) :
    let i := Cursor.nextsSinceReset ms + 1
    let o := ((Cursor.start s).walk ms).next
    (o.2 = true ↔ i ≤ s.size) ∧
    (i ≤ s.size → o.1.index? = some (i - 1) ∧
      ∃ row, s.rows[i - 1]? = some row ∧ o.1.current? = some ⟨s.columns, row⟩) ∧
    (s.size < i → o.1.index? = none ∧ o.1.current? = none ∧
      ∀ (α : Type) [FromValue α] (c : Nat), o.1.get α c = .error .noCurrentRow) ∧
    (∀ p, ((Cursor.start s).walk ms).position = some p → p ≤ s.size) := by
  intro i o
  have ho : o = (Cursor.walked s i, decide (i - 1 < s.size)) := by
    change ((Cursor.start s).walk ms).next = _
    rw [Cursor.walk_start, Cursor.next_walked]
    rfl
  have hi : 0 < i := Nat.succ_pos _
  refine ⟨by rw [ho, decide_eq_true_iff]; omega, fun hle ↦ ?_, fun hlt ↦ ?_, fun p hp ↦ ?_⟩
  · -- the `i`-th call lands on row `i - 1`
    have hlt : i - 1 < s.rows.length := Nat.lt_of_lt_of_le (Nat.sub_lt hi Nat.one_pos) hle
    have hrow := List.getElem?_eq_getElem hlt
    refine ⟨by rw [ho, Cursor.index?_walked, if_pos ⟨hi, hle⟩], s.rows[i - 1], hrow, ?_⟩
    rw [ho, Cursor.current?_walked, if_pos ⟨hi, hle⟩, RowSet.row?, hrow]
    rfl
  · have hnone : ¬(0 < i ∧ i ≤ s.size) := fun h ↦ absurd h.2 (Nat.not_le_of_lt hlt)
    have hcur : o.1.current? = none := by
      rw [ho, Cursor.current?_walked, if_neg hnone]
    refine ⟨by rw [ho, Cursor.index?_walked, if_neg hnone], hcur, fun α _ c ↦ ?_⟩
    simp [Cursor.get, hcur]
  · rw [Cursor.walk_start] at hp
    exact Cursor.position_walked_le s _ hp

/-- The cursor test's two rows: after three calls of `next` and a reset, the next call moves
onto the first row; three calls of `next` run past the end and leave the cursor on no row,
parked at the row count. -/
theorem cursor_visits_rows_in_order_people :
    let people := RowSet.ofRows ["name", "age"] [[.string "Ada", .int 36], [.string "Grace"]]
    ((Cursor.start people).walk [.next, .next, .next, .reset]).next.2 = true ∧
      ((Cursor.start people).walk [.next, .next, .next, .reset]).next.1.index? = some 0 ∧
      ((Cursor.start people).walk [.next, .next]).next.2 = false ∧
      ((Cursor.start people).walk [.next, .next]).next.1.current? = none := by
  intro people
  have hreset := cursor_visits_rows_in_order people [.next, .next, .next, .reset]
  have hpast := cursor_visits_rows_in_order people [.next, .next]
  exact ⟨hreset.1.2 (by decide), (hreset.2.1 (by decide)).1,
    by simpa using mt hpast.1.1 (by decide), (hpast.2.2.1 (by decide)).2.1⟩

end GraphWire
