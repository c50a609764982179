import TableMapping.Execution

/-!
# Insertion of records

The statements that insert records. A serial property without a value is left out, so that the
database numbers the row. Records in a row that leave out the same columns share one statement. A
record that leaves out every column has a statement of its own.
-/

namespace TableMapping

/-- The columns that a record gives values to, with the values. -/
abbrev InsertedRow := List (Column × SqlValue)

namespace InsertedRow

/-- The columns of a row. -/
def columns (row : InsertedRow) : List Column := row.map Prod.fst

/-- The values of a row. -/
def values (row : InsertedRow) : List SqlValue := row.map Prod.snd

end InsertedRow

namespace Table

/-- The values that a record gives to the listed columns. The number of the record is reported with
a value that is missing. -/
def insertedRow (table : Table) (number : Nat) (record : Record) :
    List Column → Except Error InsertedRow
  | [] => .ok []
  | column :: rest =>
      let value := record column.property.name
      if value = .null ∧ column.type = .serial then
        insertedRow table number record rest
      else do
        ensure (value = .null → column.nullable = true)
          (.validation (.missingValue number (table.reference column)))
        return (column, value) :: (← insertedRow table number record rest)

/-- The values that records give to the columns of the table, the first of them with the given
number. -/
def insertedRows (table : Table) (number : Nat) : List Record → Except Error (List InsertedRow)
  | [] => .ok []
  | record :: rest =>
      return (← table.insertedRow number record table.columns) ::
        (← insertedRows table (number + 1) rest)

end Table

/-- Rows that give values to the same columns. -/
structure RowGroup where
  columns : List Column
  rows : List (List SqlValue)
deriving DecidableEq

namespace RowGroup

/-- The groups with one more row in front. It joins the first group if it gives values to the same
columns, and to any at all. -/
def add (row : InsertedRow) : List RowGroup → List RowGroup
  | [] => [⟨row.columns, [row.values]⟩]
  | group :: rest =>
      if row.columns = group.columns ∧ row.columns ≠ [] then
        ⟨group.columns, row.values :: group.rows⟩ :: rest
      else
        ⟨row.columns, [row.values]⟩ :: group :: rest

/-- The rows in order, grouped with their neighbours. -/
def collect (rows : List InsertedRow) : List RowGroup := rows.foldr add []

/-- The insertion of a group of rows into a table. -/
def insert (table : Table) (group : RowGroup) : Insert :=
  ⟨table.name, group.columns.map Column.name, group.rows⟩

end RowGroup

/-- The insertion of records into the table of their type. -/
structure Insertion where
  record : RecordType
  records : List Record

namespace Insertion

/-- The insertions that the records call for, in order. -/
def trees (registry : Registry) (insertion : Insertion) : Except Error (List Insert) := do
  let table ← registry.requested insertion.record
  ensure (insertion.records ≠ []) (.validation (.nothingToInsert table.name))
  let rows ← table.insertedRows 0 insertion.records
  return (RowGroup.collect rows).map (RowGroup.insert table)

/-- The statements that insert the records. -/
def compile (registry : Registry) (insertion : Insertion) :
    Except Error (List CompiledStatement) := do
  let trees ← insertion.trees registry
  trees.mapM fun tree => (Statement.insert tree).write registry.dialect

/-- Inserts the records. The result is the number of inserted rows. -/
def execute (registry : Registry) (insertion : Insertion) (backend : Backend) : Run UInt64 :=
  backend.executeAll (insertion.compile registry)

end Insertion

end TableMapping
