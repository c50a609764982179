import TableMapping.Statement.Compiled

/-!
# Statements without empty parts

A statement is filled if no list is empty that its text needs an item of, and if the values of
each row go with the columns. The text of such a statement falls short of none of its parts.
-/

namespace TableMapping

/-- A key has columns, and a foreign key refers to some. -/
def TableConstraint.Filled : TableConstraint → Prop
  | primaryKey _ columns => columns ≠ []
  | foreignKey _ columns _ references => columns ≠ [] ∧ references ≠ []

/-- The creation of a table has columns, and so does each key. -/
structure CreateTable.Filled (create : CreateTable) : Prop where
  columns_ne_nil : create.columns ≠ []
  constraints_filled : ∀ constraint ∈ create.constraints, constraint.Filled

/-- An insertion has rows, each with a value for every column. Without columns, it has one row. -/
structure Insert.Filled (insert : Insert) : Prop where
  rows_ne_nil : insert.rows ≠ []
  rows_eq_of_no_columns : insert.columns = [] → insert.rows = [[]]
  lengths_eq : ∀ row ∈ insert.rows, row.length = insert.columns.length

theorem Insert.Filled.fault?_eq_none {insert : Insert} (filled : insert.Filled) :
    insert.fault? = none := by
  rw [fault?, if_neg filled.rows_ne_nil]
  split
  · rename_i no_columns
    exact if_pos (filled.rows_eq_of_no_columns no_columns)
  · refine List.findSome?_eq_none_iff.mpr fun (row, index) member => ?_
    exact if_pos (filled.lengths_eq row (List.fst_mem_of_mem_zipIdx member))

/-- Every join has a pair of columns that must be equal. -/
def Join.AllFilled (joins : List Join) : Prop := ∀ join ∈ joins, join.on ≠ []

/-- No list is empty that the text of the statement needs an item of. -/
def Statement.Filled : Statement → Prop
  | createTable tree => tree.Filled
  | insert tree => tree.Filled
  | select tree => tree.columns ≠ [] ∧ Join.AllFilled tree.joins
  | update tree => tree.assignments ≠ [] ∧ Join.AllFilled tree.joins
  | delete tree => Join.AllFilled tree.joins

end TableMapping
