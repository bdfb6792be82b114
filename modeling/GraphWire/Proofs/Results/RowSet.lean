import GraphWire.Envelope.Results

/-!
# The row set of a fragment

A fragment's row set keeps the fragment's columns and has one row per data item, in order. Each
row is fitted to the column count by one operation (`fitRow`), so the cell at a column is read
off the item alone (`RowSet.value?_ofFragment`): below the column count it is the converted
cell when the item's row reaches that far and null when it stops short (a missing row counts as
empty), and past the column count there is no cell, whatever the item sent.
-/

namespace GraphWire

/-- A fitted row has a cell at every column below its width: the row's own cell where it has
one, null past its end. -/
theorem getElem?_fitRow (n : Nat) (r : List Value) (j : Nat) :
    (fitRow n r)[j]? = if j < n then some (r.getD j .null) else none := by
  by_cases hn : j < n
  · rw [if_pos hn, fitRow]
    by_cases hr : j < r.length
    · -- the cell lies in the kept prefix
      have : j < (r.take n).length := by simp; omega
      rw [List.getElem?_append_left this, List.getElem?_take_of_lt hn, List.getD_eq_getElem?_getD,
        List.getElem?_eq_getElem hr, Option.getD_some]
    · -- the cell lies in the padding
      have hlen : (r.take n).length = r.length := by simp; omega
      rw [List.getElem?_append_right (by omega), hlen, List.getElem?_replicate,
        if_pos (by omega), List.getD_eq_getElem?_getD, List.getElem?_eq_none (by omega),
        Option.getD_none]
  · rw [if_neg hn, List.getElem?_eq_none]
    simp only [length_fitRow]
    omega

namespace RowSet

/-- The cell at a row and column of a fragment's row set, read off its data item. -/
theorem value?_ofFragment (f : Fragment) (i j : Nat) :
    (ofFragment f).value? i j = f.data[i]?.bind fun item =>
      if j < f.columns.length then some (((item.row.getD []).map Value.ofJson).getD j .null)
      else none := by
  simp only [value?, ofFragment, rows_ofRows, List.map_map, List.getElem?_map]
  cases f.data[i]? with
  | none => rfl
  | some item => exact getElem?_fitRow _ _ j

/-- A fragment's row set has the fragment's columns and one row per data item, every row as wide
as the columns. The cell at row `i` and column `j` is the converted cell `j` of item `i`'s row
when both the columns and that row reach `j`, null when the row stops short of the columns, and
absent from column count on; an item without a row gives a row of nulls. -/
theorem rowSet_aligns_cells (f : Fragment) :
    let s := ofFragment f
    s.columns = f.columns ∧ s.size = f.data.length ∧
    (∀ r ∈ s.rows, r.length = f.columns.length) ∧
    (∀ i (hi : i < f.data.length) j,
      let cells := f.data[i].row.getD []
      (∀ hj : j < cells.length, j < f.columns.length →
        s.value? i j = some (Value.ofJson cells[j])) ∧
      (cells.length ≤ j → j < f.columns.length → s.value? i j = some .null) ∧
      (f.columns.length ≤ j → s.value? i j = none)) ∧
    ∀ i (hi : i < f.data.length), f.data[i].row = none →
      s.rows[i]? = some (List.replicate f.columns.length .null) := by
  intro s
  have hcell : ∀ i (hi : i < f.data.length) j, s.value? i j =
      if j < f.columns.length then
        some (((f.data[i].row.getD []).map Value.ofJson).getD j .null)
      else none := fun i hi j => by
    rw [value?_ofFragment, List.getElem?_eq_getElem hi, Option.bind_some]
  refine ⟨rfl, by simp [s, size, ofFragment], s.width_eq,
    fun i hi j => ⟨fun hj hc => ?_, fun hj hc => ?_, fun hc => ?_⟩, fun i hi hrow => ?_⟩
  · rw [hcell i hi j, if_pos hc, List.getD_eq_getElem?_getD, List.getElem?_map,
      List.getElem?_eq_getElem hj]
    rfl
  · rw [hcell i hi j, if_pos hc, List.getD_eq_getElem?_getD,
      List.getElem?_eq_none (by simpa using hj), Option.getD_none]
  · rw [hcell i hi j, if_neg (by omega)]
  · simp [s, ofFragment, List.getElem?_map, List.getElem?_eq_getElem hi, hrow, fitRow]

/-- The fragment of the row-set test: a full row, a short row and an item with no row, under
three columns. -/
theorem rowSet_aligns_cells_ragged :
    let f : Fragment := ⟨["name", "address", "tags"],
      [⟨some [.string "Ada", .object [("city", .string "London")], .array [.string "math"]],
        none⟩, ⟨some [.string "Grace"], none⟩, ⟨none, none⟩], none⟩
    (ofFragment f).value? 0 0 = some (.string "Ada") ∧
      (ofFragment f).value? 1 2 = some .null ∧ (ofFragment f).value? 2 0 = some .null ∧
      (ofFragment f).value? 0 3 = none :=
  ⟨((rowSet_aligns_cells _).2.2.2.1 0 (by decide) 0).1 (by decide) (by decide),
    ((rowSet_aligns_cells _).2.2.2.1 1 (by decide) 2).2.1 (by decide) (by decide),
    ((rowSet_aligns_cells _).2.2.2.1 2 (by decide) 0).2.1 (by decide) (by decide),
    ((rowSet_aligns_cells _).2.2.2.1 0 (by decide) 3).2.2 (by decide)⟩

end RowSet

end GraphWire
