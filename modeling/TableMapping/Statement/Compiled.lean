import TableMapping.Statement.Wording

/-!
# Compiled statements

The text of a statement for one dialect with the values of its parameters, and the faults for which
a statement has none. A fault is looked for before anything is written, in the order in which the
parts of the statement stand.
-/

namespace TableMapping

/-- The reasons why a statement has no text. -/
inductive StatementFault
  /-- A column has a type that the dialect lacks. -/
  | unsupportedType (column : ColumnRef) (type : SqlType) (dialect : Dialect)
  /-- An insertion has no rows. -/
  | noRows (table : String)
  /-- An insertion without columns has something else than one empty row. -/
  | defaultRow
  /-- A row has not as many values as there are columns. -/
  | rowLength (row values columns : Nat)
  /-- A query selects no columns. -/
  | noColumns
  /-- An update assigns nothing. -/
  | noAssignments (table : String)
  /-- A column is compared with the absent value. -/
  | nullComparison (column : ColumnRef)
deriving DecidableEq, Repr

namespace StatementFault

/-- The wording of a fault. -/
def message : StatementFault → String
  | unsupportedType column type dialect =>
      "column `" ++ column.qualifiedName ++ "`: " ++ type.name ++ " is not supported by " ++
        dialect.name
  | noRows table => "INSERT into `" ++ table ++ "` requires at least one row"
  | defaultRow => "DEFAULT VALUES inserts exactly one row without values"
  | rowLength row values columns =>
      "INSERT row " ++ toString row ++ " has " ++ toString values ++ " values for " ++
        toString columns ++ " columns"
  | noColumns => "SELECT requires at least one column"
  | noAssignments table => "UPDATE of `" ++ table ++ "` requires at least one assignment"
  | nullComparison column => "cannot compare `" ++ column.qualifiedName ++ "` with NULL"

end StatementFault

namespace Atom

/-- The fault of an atomic condition. -/
def fault? : Atom → Option StatementFault
  | .test (.compare column _ .null) => some (.nullComparison column)
  | _ => none

end Atom

namespace Condition

/-- The fault of a condition: the one of its leftmost faulty part. -/
def fault? : Condition → Option StatementFault
  | .atom atom => atom.fault?
  | .node _ left right => (fault? left).or (fault? right)

/-- The fault of a filter. -/
def filterFault? (filter : Option Condition) : Option StatementFault := filter.bind fault?

end Condition

namespace CreateTable

/-- The fault of the creation of a table: the first column of a type that the dialect lacks. -/
def fault? (dialect : Dialect) (create : CreateTable) : Option StatementFault :=
  create.columns.findSome? fun column =>
    if dialect.supports column.type then
      none
    else
      some (.unsupportedType ⟨create.table, column.name⟩ column.type dialect)

end CreateTable

namespace Insert

/-- The fault of an insertion: the first row that has not as many values as there are columns, or
rows that cannot be inserted without columns. -/
def fault? (insert : Insert) : Option StatementFault :=
  if insert.rows = [] then
    some (.noRows insert.table)
  else if insert.columns = [] then
    if insert.rows = [[]] then none else some .defaultRow
  else
    insert.rows.zipIdx.findSome? fun (row, index) =>
      if row.length = insert.columns.length then
        none
      else
        some (.rowLength index row.length insert.columns.length)

/-- An insertion that can be written has rows, each with a value for every column. -/
theorem fault?_eq_none {insert : Insert} (sound : insert.fault? = none) :
    insert.rows ≠ [] ∧ (insert.columns = [] → insert.rows = [[]]) ∧
      ∀ row ∈ insert.rows, row.length = insert.columns.length := by
  unfold fault? at sound
  split at sound
  · cases sound
  · rename_i listed
    split at sound
    · rename_i no_columns
      split at sound
      · rename_i single
        simp [no_columns, single]
      · cases sound
    · rename_i columns
      refine ⟨listed, fun none => absurd none columns, fun row member => ?_⟩
      obtain ⟨index, bound, rfl⟩ := List.getElem_of_mem member
      have checked := List.findSome?_eq_none_iff.mp sound (insert.rows[index], index)
        (List.mem_zipIdx_iff_getElem?.mpr (List.getElem?_eq_getElem bound))
      simpa using checked

end Insert

namespace Statement

/-- The first fault of a statement. -/
def fault? (dialect : Dialect) : Statement → Option StatementFault
  | .createTable tree => tree.fault? dialect
  | .insert tree => tree.fault?
  | .select tree =>
      if tree.columns = [] then some .noColumns else Condition.filterFault? tree.filter
  | .update tree =>
      if tree.assignments = [] then
        some (.noAssignments tree.table)
      else
        Condition.filterFault? tree.filter
  | .delete tree => Condition.filterFault? tree.filter

end Statement

/-- The text of a statement with the values of its parameters. -/
structure CompiledStatement where
  text : String
  parameters : List SqlValue
deriving DecidableEq

namespace CompiledStatement

/-- The text of a list of tokens with the values of its parameters as the database takes them. -/
def ofTokens (dialect : Dialect) (tokens : List Token) : CompiledStatement :=
  ⟨String.ofList (Token.text dialect 1 tokens), (Token.values tokens).map dialect.bind⟩

end CompiledStatement

namespace Statement

/-- The text of a statement for a dialect, or its first fault. -/
def compile (dialect : Dialect) (statement : Statement) :
    Except StatementFault CompiledStatement :=
  match statement.fault? dialect with
  | some fault => .error fault
  | none => .ok (CompiledStatement.ofTokens dialect (statement.tokens dialect))

theorem compile_eq_ok {dialect : Dialect} {statement : Statement} {compiled : CompiledStatement} :
    statement.compile dialect = .ok compiled ↔
      statement.fault? dialect = none ∧
        CompiledStatement.ofTokens dialect (statement.tokens dialect) = compiled := by
  unfold compile
  cases statement.fault? dialect <;> simp

theorem compile_eq_error {dialect : Dialect} {statement : Statement} {fault : StatementFault} :
    statement.compile dialect = .error fault ↔ statement.fault? dialect = some fault := by
  unfold compile
  cases statement.fault? dialect <;> simp

end Statement

end TableMapping
