import GraphWire.Value.Extract

/-! # Row sets

A row set is a list of column names and rows aligned to them by position; every row is exactly
as wide as the column list (`RowSet.width_eq`), a short row being padded with null and a long
one cut (`RowSet.ofRows`). A row is read by column number or by the first column of a name,
through `FromValue`; a cursor walks the rows in order. -/

namespace GraphWire

/-- Why a typed read of a cell failed. -/
inductive RowAccessError where
  | noCurrentRow
  | columnOutOfRange (column width : Nat)
  | unknownColumn (name : String)
  | noValue (column : Nat)
  | typeMismatch (column : Nat) (expected found : String)
deriving DecidableEq, Repr

/-- The wording of a row access error. -/
def RowAccessError.message : RowAccessError → String
  | .noCurrentRow => "cursor is not positioned on a row"
  | .columnOutOfRange c w =>
    "column " ++ toString c ++ " is out of range (row width " ++ toString w ++ ")"
  | .unknownColumn n => "unknown column '" ++ n ++ "'"
  | .noValue c => "column " ++ toString c ++ " has no value"
  | .typeMismatch c e f => "column " ++ toString c ++ " holds a " ++ f ++ ", expected " ++ e

/-- The kind name of a row access error. -/
def RowAccessError.kind : RowAccessError → String
  | .noCurrentRow => "NoCurrentRow"
  | .columnOutOfRange _ _ => "ColumnOutOfRange"
  | .unknownColumn _ => "UnknownColumn"
  | .noValue _ => "NoValue"
  | .typeMismatch _ _ _ => "TypeMismatch"

/-- A row made exactly `n` cells wide: cut, or padded with null. -/
def fitRow (n : Nat) (r : List Value) : List Value :=
  r.take n ++ List.replicate (n - r.length) .null

@[simp] theorem length_fitRow (n : Nat) (r : List Value) : (fitRow n r).length = n := by
  simp only [fitRow, List.length_append, List.length_take, List.length_replicate]
  omega

/-- Column names and rows as wide as the column list. -/
structure RowSet where
  columns : List String
  rows : List (List Value)
  width_eq : ∀ r ∈ rows, r.length = columns.length

namespace RowSet

/-- The row set of the given columns and rows, each row fitted to the column count. -/
def ofRows (columns : List String) (rows : List (List Value)) : RowSet where
  columns := columns
  rows := rows.map (fitRow columns.length)
  width_eq := by
    intro r hr
    obtain ⟨r', _, rfl⟩ := List.mem_map.1 hr
    exact length_fitRow _ _

/-- The row set with no columns and no rows. -/
def empty : RowSet := ⟨[], [], by simp⟩

/-- The number of rows. -/
def size (s : RowSet) : Nat := s.rows.length

/-- The number of columns. -/
def columnCount (s : RowSet) : Nat := s.columns.length

/-- The first column of a name. -/
def columnIndex? (s : RowSet) (name : String) : Option Nat := s.columns.idxOf? name

/-- The cell at a row and a column. -/
def value? (s : RowSet) (row column : Nat) : Option Value :=
  s.rows[row]? >>= fun r => r[column]?

@[simp] theorem columns_ofRows (cs : List String) (rs : List (List Value)) :
    (ofRows cs rs).columns = cs := rfl

@[simp] theorem rows_ofRows (cs : List String) (rs : List (List Value)) :
    (ofRows cs rs).rows = rs.map (fitRow cs.length) := rfl

end RowSet

/-- One row: its cells and the column names of its set. -/
structure Row where
  columns : List String
  values : List Value

namespace Row

/-- The cell at a column. -/
def value? (r : Row) (column : Nat) : Option Value := r.values[column]?

/-- The cell under the first column of a name. -/
def valueByName? (r : Row) (name : String) : Option Value :=
  r.columns.idxOf? name >>= r.value?

/-- The cell at a column read as an `α`: out of range, no value (null), or a kind mismatch. -/
def get (α : Type) [FromValue α] (r : Row) (column : Nat) : Except RowAccessError α :=
  match r.values[column]? with
  | none => .error (.columnOutOfRange column r.values.length)
  | some v =>
    match FromValue.fromValue? v with
    | some a => .ok a
    | none =>
      if v.isNull then .error (.noValue column)
      else .error (.typeMismatch column (FromValue.expected α) v.typeName)

/-- The cell under the first column of a name, read as an `α`. -/
def getByName (α : Type) [FromValue α] (r : Row) (name : String) : Except RowAccessError α :=
  match r.columns.idxOf? name with
  | none => .error (.unknownColumn name)
  | some c => r.get α c

end Row

namespace RowSet

/-- The row at an index. -/
def row? (s : RowSet) (i : Nat) : Option Row := s.rows[i]?.map (⟨s.columns, ·⟩)

end RowSet

/-- A reader of a row set's rows in order. Before the first row the position is `none`; after
the last it stays parked at the row count. -/
structure Cursor where
  set : RowSet
  position : Option Nat

namespace Cursor

/-- A cursor before the first row. -/
def start (s : RowSet) : Cursor := ⟨s, none⟩

/-- Move to the next row; whether there is one. -/
def next (c : Cursor) : Cursor × Bool :=
  let n := match c.position with
    | none => 0
    | some p => p + 1
  (⟨c.set, some (min n c.set.size)⟩, decide (n < c.set.size))

/-- The index of the row the cursor is on. -/
def index? (c : Cursor) : Option Nat :=
  c.position.filter (· < c.set.size)

/-- Move back before the first row. -/
def reset (c : Cursor) : Cursor := ⟨c.set, none⟩

/-- The row the cursor is on. -/
def current? (c : Cursor) : Option Row := c.index? >>= c.set.row?

/-- The cell at a column of the current row, read as an `α`. -/
def get (α : Type) [FromValue α] (c : Cursor) (column : Nat) : Except RowAccessError α :=
  match c.current? with
  | none => .error .noCurrentRow
  | some r => r.get α column

end Cursor

end GraphWire
