import Mathlib.Data.List.Nodup
import TableMapping.Proofs.Database
import TableMapping.Proofs.Schema.Built
import TableMapping.Row

/-!
# Rows that are handed out

The position that stores a property in a layout is the one of its column, provided that no two
columns of the layout store the same property. A row is read for the property at that position. A
cursor makes of every row what its projection makes of the values at the positions of the row.
-/

namespace TableMapping

/-! ## Positions of properties -/

namespace RowLayout

theorem positionFrom?_eq_none {key : PropertyKey} {first : Nat} {columns : List LayoutColumn} :
    positionFrom? key first columns = none ↔ ∀ column ∈ columns, column.key ≠ key := by
  induction columns generalizing first with
  | nil => simp [positionFrom?]
  | cons column rest ih => simp [positionFrom?, ih, and_comm]

/-- A column whose property no other one stores is at the position of its property. -/
theorem positionFrom?_of_getElem? {columns : List LayoutColumn}
    (distinct : (columns.map LayoutColumn.key).Nodup) (first : Nat) {index : Nat}
    {column : LayoutColumn} (found : columns[index]? = some column) :
    positionFrom? column.key first columns = some (first + index) := by
  induction columns generalizing first index with
  | nil => simp at found
  | cons other rest ih =>
      obtain ⟨new, rest_distinct⟩ := List.nodup_cons.mp distinct
      cases index with
      | zero =>
          obtain rfl : other = column := by simpa using found
          have unstored : positionFrom? other.key (first + 1) rest = none := by
            refine positionFrom?_eq_none.mpr fun later listed same => new ?_
            exact List.mem_map.mpr ⟨later, listed, same⟩
          simp [positionFrom?, unstored]
      | succ index =>
          have later := ih rest_distinct (first + 1) (by simpa using found)
          rw [positionFrom?, later, Nat.add_right_comm]
          rfl

variable {layout : RowLayout}

theorem position?_eq_none {key : PropertyKey} :
    layout.position? key = none ↔ ∀ column ∈ layout.columns, column.key ≠ key :=
  positionFrom?_eq_none

theorem position?_of_getElem? (distinct : (layout.columns.map LayoutColumn.key).Nodup)
    {position : Nat} {column : LayoutColumn} (found : layout.columns[position]? = some column) :
    layout.position? column.key = some position := by
  rw [position?, positionFrom?_of_getElem? distinct 0 found, Nat.zero_add]

end RowLayout

namespace RowView

variable {layout : RowLayout} {values : List SqlValue}

theorem cell?_of_getElem? (distinct : (layout.columns.map LayoutColumn.key).Nodup)
    {position : Nat} {column : LayoutColumn} (found : layout.columns[position]? = some column) :
    cell? ⟨layout, values⟩ column.key = (values[position]?).map (column, ·) := by
  rw [cell?, RowLayout.position?_of_getElem? distinct found]
  change (layout.columns[position]? >>= _) = _
  rw [found]
  cases values[position]? <;> rfl

theorem cell?_eq_none {key : PropertyKey} (unstored : ∀ column ∈ layout.columns, column.key ≠ key) :
    cell? ⟨layout, values⟩ key = none := by
  rw [cell?, RowLayout.position?_eq_none.mpr unstored]
  rfl

end RowView

/-! ## Rows of a table -/

namespace Table

/-- A row of the table as it is handed out: the value of a column stands at the position of the
column. -/
def handOut (table : Table) (row : Row) : RawRow := fun position _ =>
  expect "no such position" ((table.columns[position]?).map fun column => row column.name)

end Table

namespace RowLayout

/-- Every position is read if the row has a value for it. -/
theorem result_decodeFrom {row : RawRow} {value : LayoutColumn → SqlValue} {position : Nat}
    {columns : List LayoutColumn}
    (answers : ∀ index column, columns[index]? = some column →
      row (position + index) column.type = .ok (value column)) :
    (decodeFrom row position columns).result = .ok (columns.map value) := by
  induction columns generalizing position with
  | nil => rfl
  | cons column rest ih =>
      have first := answers 0 column rfl
      have later := @ih (position + 1) fun index other found => by
        have answer := answers (index + 1) other found
        rwa [Nat.add_comm index 1, ← Nat.add_assoc] at answer
      rw [Nat.add_zero] at first
      simp only [decodeFrom, first, later, List.map_cons]
      rfl

theorem result_decode_handOut (table : Table) (row : Row) :
    ((ofTable table).decode (table.handOut row)).result =
      .ok ((ofTable table).columns.map fun column => row column.reference.column) := by
  refine result_decodeFrom fun index column found => ?_
  obtain ⟨stored, listed, rfl⟩ : ∃ stored, table.columns[index]? = some stored ∧
      (⟨table.key stored.property.name, table.reference stored, stored.type⟩ : LayoutColumn) =
        column := by
    simpa [ofTable, List.getElem?_map] using found
  rw [Nat.zero_add, Table.handOut, listed]
  rfl

end RowLayout

namespace RowView

theorem cell_eq_ok {layout : RowLayout}
    (distinct : (layout.columns.map LayoutColumn.key).Nodup) (value : LayoutColumn → SqlValue)
    {column : LayoutColumn} (member : column ∈ layout.columns) :
    cell ⟨layout, layout.columns.map value⟩ column.key = .ok (column, value column) := by
  obtain ⟨position, found⟩ := List.getElem?_of_mem member
  refine expect_eq_ok.mpr ?_
  rw [cell?_of_getElem? distinct found, List.getElem?_map, found]
  rfl

end RowView

namespace Cursor

/-- Draws take the rows in order, each of them alone, for as long as there are any. -/
theorem draw_eq_map {α : Type} (cursor : Cursor α) (count : Nat) :
    cursor.draw count =
      (cursor.rows.take count).map (cursor.layout.project cursor.projection) := by
  obtain ⟨rows, layout, projection⟩ := cursor
  induction count generalizing rows with
  | zero => rfl
  | succ count ih =>
      cases rows with
      | nil => rfl
      | cons row rest => simp only [draw, next?, ih, List.take_succ_cons, List.map_cons]

theorem results_draw {α : Type} {cursor : Cursor α} {count : Nat}
    (enough : cursor.remaining ≤ count) :
    (cursor.draw count).map Reading.result = cursor.rows.map fun row =>
      (cursor.layout.project cursor.projection row).result := by
  rw [draw_eq_map, List.take_of_length_le enough, List.map_map]
  rfl

end Cursor

end TableMapping
