import TableMapping.SqlType
import TableMapping.SqlValue

/-!
# Statements

The statements that are written for a database, as trees. A tree need not make sense as a
statement: which ones do not is said beside their text form.
-/

namespace TableMapping

/-- The name of a column together with the name of its table. -/
structure ColumnRef where
  /-- The name of the table. -/
  table : String
  /-- The name of the column. -/
  column : String
deriving DecidableEq, Repr

namespace ColumnRef

/-- The two names joined by a point. -/
def qualifiedName (reference : ColumnRef) : String :=
  reference.table ++ "." ++ reference.column

end ColumnRef

/-- The comparisons of a column with a value. -/
inductive Comparison
  | eq
  | notEq
  | lt
  | le
  | gt
  | ge
  /-- Match with a pattern. -/
  | like
deriving DecidableEq, Repr

/-- The ways to combine two formulas. -/
inductive Connective
  | and
  | or
deriving DecidableEq, Repr

/-- A combination of atomic formulas. -/
inductive Formula (α : Type)
  | atom (formula : α)
  | node (connective : Connective) (left right : Formula α)
deriving DecidableEq, Repr

namespace Formula

/-- The atomic formulas, from left to right. -/
def atoms {α : Type} : Formula α → List α
  | atom formula => [formula]
  | node _ left right => left.atoms ++ right.atoms

/-- The formula with each atomic formula replaced, from left to right, up to the first that cannot
be. -/
def traverse {α β ε : Type} (replace : α → Except ε β) : Formula α → Except ε (Formula β)
  | atom formula => return atom (← replace formula)
  | node connective left right =>
      return node connective (← left.traverse replace) (← right.traverse replace)

end Formula

/-- A test of one column, which is named by a `χ`. -/
inductive Test (χ : Type)
  | compare (column : χ) (comparison : Comparison) (value : SqlValue)
  | isNull (column : χ)
  | isNotNull (column : χ)
deriving DecidableEq

/-- The atomic conditions. -/
inductive Atom
  | test (test : Test ColumnRef)
  /-- Two columns have the same value. -/
  | columnsEqual (left right : ColumnRef)
deriving DecidableEq

/-- A condition on rows. -/
abbrev Condition := Formula Atom

/-- The ways to join a table. -/
inductive JoinKind
  | inner
  /-- Rows without a partner are kept, with every column of the joined table absent. -/
  | leftOuter
deriving DecidableEq, Repr

/-- A table joined to the ones before it. -/
structure Join where
  kind : JoinKind
  /-- The name of the joined table. -/
  table : String
  /-- The pairs of columns that must be equal. -/
  on : List (ColumnRef × ColumnRef)
deriving DecidableEq, Repr

/-- A column of a table to be created. -/
structure ColumnDefinition where
  name : String
  type : SqlType
  nullable : Bool
deriving DecidableEq, Repr

/-- A key of a table to be created. -/
inductive TableConstraint
  | primaryKey (name : String) (columns : List String)
  | foreignKey (name : String) (columns : List String) (table : String)
      (references : List String)
deriving DecidableEq, Repr

/-- The creation of a table that does not exist yet. -/
structure CreateTable where
  table : String
  columns : List ColumnDefinition
  constraints : List TableConstraint
deriving DecidableEq, Repr

/-- The insertion of rows. -/
structure Insert where
  table : String
  /-- The columns that are given values. Without any, the database makes up a whole row. -/
  columns : List String
  /-- The values of each row, in the order of the columns. -/
  rows : List (List SqlValue)
deriving DecidableEq

/-- A query for rows. -/
structure Select where
  columns : List ColumnRef
  /-- The first table. -/
  source : String
  joins : List Join
  filter : Option Condition
deriving DecidableEq

/-- The change of columns of the rows that a filter admits. -/
structure Update where
  table : String
  /-- The columns that are changed, with their new values. -/
  assignments : List (String × SqlValue)
  joins : List Join
  filter : Option Condition
deriving DecidableEq

/-- The removal of the rows that a filter admits. -/
structure Delete where
  table : String
  joins : List Join
  filter : Option Condition
deriving DecidableEq

/-- A statement. -/
inductive Statement
  | createTable (statement : CreateTable)
  | insert (statement : Insert)
  | select (statement : Select)
  | update (statement : Update)
  | delete (statement : Delete)
deriving DecidableEq

end TableMapping
