import TableMapping.Error
import TableMapping.Schema.Table

/-!
# Rows

Which column of which table stands at each position of a row, and a row as such a layout with the
values at its positions, read property by property. A row may have fewer values than its layout has
positions, or more. The values that have no position are out of reach.

A cursor turns the rows that a database hands out into results one at a time. A row is read only
when it is drawn: position by position, at the type of the column, up to the first position that
cannot be read. The positions that were read are part of the outcome.
-/

namespace TableMapping

/-! ## Layouts -/

/-- A position of a row. -/
structure LayoutColumn where
  /-- The property that the column stores. -/
  key : PropertyKey
  reference : ColumnRef
  type : SqlType
deriving DecidableEq, Repr

/-- The positions of a row, in order. -/
structure RowLayout where
  columns : List LayoutColumn
deriving DecidableEq, Repr

namespace RowLayout

/-- The positions of a row that holds the columns of a table. -/
def ofTable (table : Table) : RowLayout :=
  ⟨table.columns.map fun column =>
    ⟨table.key column.property.name, table.reference column, column.type⟩⟩

/-- The positions of a row that holds the columns of several tables, one table after the other. -/
def ofTables (tables : List Table) : RowLayout :=
  ⟨tables.flatMap fun table => (ofTable table).columns⟩

/-- The number of positions. -/
def size (layout : RowLayout) : Nat := layout.columns.length

/-- The type of the column at a position. -/
def type? (layout : RowLayout) (position : Nat) : Option SqlType :=
  (layout.columns[position]?).map LayoutColumn.type

/-- The position that stores a property, among the given columns of which the first stands at the
given position. Where several of them store it, the last one counts. -/
def positionFrom? (key : PropertyKey) (first : Nat) : List LayoutColumn → Option Nat
  | [] => none
  | column :: rest =>
      (positionFrom? key (first + 1) rest).or (if column.key = key then some first else none)

/-- The position that stores a property. -/
def position? (layout : RowLayout) (key : PropertyKey) : Option Nat :=
  positionFrom? key 0 layout.columns

end RowLayout

/-! ## Views -/

/-- The values of a row with their layout. -/
structure RowView where
  layout : RowLayout
  values : List SqlValue

/-- A property to be read, at a type. -/
structure PropertyRead where
  key : PropertyKey
  type : ValueType
deriving DecidableEq, Repr

namespace PropertyRead

/-- The reading of the same property with the absent value admitted. -/
def asOptional (read : PropertyRead) : PropertyRead := ⟨read.key, ⟨read.type.scalar, true⟩⟩

end PropertyRead

namespace RowView

/-- The positions of a row that have a value, with their values. -/
def cells (view : RowView) : List (LayoutColumn × SqlValue) :=
  view.layout.columns.zip view.values

/-- The position that stores a property, with its value, if there are both. -/
def cell? (view : RowView) (key : PropertyKey) : Option (LayoutColumn × SqlValue) := do
  let position ← view.layout.position? key
  let column ← view.layout.columns[position]?
  let value ← view.values[position]?
  return (column, value)

/-- The position that stores a property, with its value. -/
def cell (view : RowView) (key : PropertyKey) : Except Error (LayoutColumn × SqlValue) :=
  expect (.rowAccess key) (view.cell? key)

/-- The value of a property. -/
def get (view : RowView) (read : PropertyRead) : Except Error SqlValue := do
  let (column, value) ← view.cell read.key
  (read.type.read value).mapError fun error => .decode column.reference (.value error)

/-- The values of several properties, in order. -/
def getAll (view : RowView) (reads : List PropertyRead) : Except Error (List SqlValue) :=
  reads.mapM view.get

/-- The row as it is shown to a programmer: the columns that have a value, with their values. -/
def display (view : RowView) : String :=
  "\x7b" ++ ", ".intercalate (view.cells.map fun cell =>
    Escaped.text cell.1.reference.qualifiedName ++ ": " ++ cell.2.display) ++ "\x7d"

end RowView

/-! ## Cursors -/

/-- A row of a database answers for the value at a position, asked for at a type, with the value or
the reason why it cannot be read. -/
abbrev RawRow := Nat → SqlType → Except String SqlValue

/-- The outcome of a computation that reads a row. -/
structure Reading (α : Type) where
  /-- The positions that were read, with the types they were asked for at, in order. -/
  reads : List (Nat × SqlType)
  result : Except Error α

namespace RowLayout

/-- Reads the given columns of a row, of which the first stands at the given position. -/
def decodeFrom (row : RawRow) (position : Nat) : List LayoutColumn → Reading (List SqlValue)
  | [] => ⟨[], .ok []⟩
  | column :: rest =>
      match row position column.type with
      | .error message =>
          ⟨[(position, column.type)], .error (.decode column.reference (.unreadable message))⟩
      | .ok value =>
          let later := decodeFrom row (position + 1) rest
          ⟨(position, column.type) :: later.reads, later.result.map (value :: ·)⟩

/-- Reads every position of a row. -/
def decode (layout : RowLayout) (row : RawRow) : Reading (List SqlValue) :=
  decodeFrom row 0 layout.columns

/-- The result that a projection makes of a row. -/
def project {α : Type} (layout : RowLayout) (projection : RowView → Except Error α)
    (row : RawRow) : Reading α :=
  let decoded := layout.decode row
  ⟨decoded.reads, decoded.result.bind fun values => projection ⟨layout, values⟩⟩

end RowLayout

/-- The rows that are still to be drawn, and what to make of each. -/
structure Cursor (α : Type) where
  rows : List RawRow
  layout : RowLayout
  projection : RowView → Except Error α

namespace Cursor

/-- The number of rows that are still to be drawn. -/
def remaining {α : Type} (cursor : Cursor α) : Nat := cursor.rows.length

/-- Draws the next row: what becomes of it, and the cursor behind it. -/
def next? {α : Type} (cursor : Cursor α) : Option (Reading α × Cursor α) :=
  match cursor.rows with
  | [] => none
  | row :: rest =>
      some (cursor.layout.project cursor.projection row,
        ⟨rest, cursor.layout, cursor.projection⟩)

/-- Draws up to the given number of rows. -/
def draw {α : Type} : Nat → Cursor α → List (Reading α)
  | 0, _ => []
  | count + 1, cursor =>
      match cursor.next? with
      | none => []
      | some (reading, rest) => reading :: rest.draw count

end Cursor

end TableMapping
