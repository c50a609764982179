import TableMapping.Schema.Registry
import TableMapping.Statement.Compiled

/-!
# Errors

The reasons why a request against a registry has no result: it is not mapped, it is refused, or its
execution goes wrong.
-/

namespace TableMapping

/-- The reasons why a request is refused before anything is executed. -/
inductive ValidationFault
  /-- The statement has no text. -/
  | statement (fault : StatementFault)
  /-- The record type has no table. -/
  | unmappedRecord (record : RecordType)
  /-- A foreign key of the table refers to a record type without a table. -/
  | unmappedReference (table : String)
  /-- No column of the table stores the property. -/
  | unknownColumn (key : PropertyKey) (table : String)
  /-- There is no record to insert. -/
  | nothingToInsert (table : String)
  /-- A record has no value for a column that must have one. -/
  | missingValue (row : Nat) (column : ColumnRef)
  /-- The table to be joined is part of the statement already. -/
  | alreadyJoined (table : String)
  /-- The column to join on is neither one of the statement nor one of the joined table. -/
  | unrelatedColumn (key : PropertyKey) (table : String)
  /-- No table of the statement stores the property. -/
  | outOfScope (key : PropertyKey)
  /-- A column that always has a value is tested for being without one. -/
  | needlessNullTest (column : ColumnRef)
  /-- A column that must have a value is assigned the absent one. -/
  | nullAssignment (column : ColumnRef)
deriving DecidableEq, Repr

namespace ValidationFault

/-- The wording of a fault. -/
def message : ValidationFault → String
  | statement fault => fault.message
  | unmappedRecord record => "type `" ++ record.name ++ "` is not mapped to a table"
  | unmappedReference table =>
      "foreign key of `" ++ table ++ "` references an unmapped table"
  | unknownColumn key table =>
      "property `" ++ key.qualifiedName ++ "` is not a column of `" ++ table ++ "`"
  | nothingToInsert table => "nothing to insert into `" ++ table ++ "`"
  | missingValue row column =>
      "row " ++ toString row ++ ": column `" ++ column.qualifiedName ++ "` requires a value"
  | alreadyJoined table => "table `" ++ table ++ "` is already part of the statement"
  | unrelatedColumn key table =>
      "column `" ++ key.qualifiedName ++ "` belongs neither to the statement nor to `" ++
        table ++ "`"
  | outOfScope key =>
      "column `" ++ key.qualifiedName ++ "` does not belong to a table of the statement"
  | needlessNullTest column =>
      "column `" ++ column.qualifiedName ++ "` is NOT NULL and cannot be compared with NULL"
  | nullAssignment column =>
      "column `" ++ column.qualifiedName ++ "` cannot be set to NULL"

end ValidationFault

/-- The reasons why the value of a column cannot be used. -/
inductive CellFault
  /-- The database does not hand out the value. -/
  | unreadable (message : String)
  /-- The value is not one of the type of the property. -/
  | value (error : ValueError)
deriving DecidableEq, Repr

namespace CellFault

/-- The wording of a fault. -/
def message : CellFault → String
  | unreadable message => message
  | value error => error.message

end CellFault

/-- The reasons why a request has no result. -/
inductive Error
  /-- Something is not mapped as the request needs it. -/
  | mapping (fault : MappingFault)
  /-- The request is refused. -/
  | validation (fault : ValidationFault)
  /-- A query that should have one row has another number of them. -/
  | cardinality (rows : Nat)
  /-- A row does not have the column of a property. -/
  | rowAccess (key : PropertyKey)
  /-- The value of a column cannot be used. -/
  | decode (column : ColumnRef) (fault : CellFault)
  /-- The database fails to execute a statement. -/
  | execution (statement : String) (message : String)
deriving DecidableEq, Repr

namespace Error

/-- The wording of an error. -/
def message : Error → String
  | mapping fault => MappingFault.heading ++ fault.message
  | validation fault => "validation error: " ++ fault.message
  | cardinality rows => "expected exactly one row, query returned " ++ toString rows
  | rowAccess key =>
      "row access error: column `" ++ key.qualifiedName ++
        "` is not part of the selected columns"
  | decode column fault =>
      "cannot decode column `" ++ column.qualifiedName ++ "`: " ++ fault.message
  | execution statement message => "failed to execute `" ++ statement ++ "`: " ++ message

end Error

namespace Statement

/-- The text of a statement for a dialect, or the error of its first fault. -/
def write (dialect : Dialect) (statement : Statement) : Except Error CompiledStatement :=
  (statement.compile dialect).mapError fun fault => .validation (.statement fault)

end Statement

namespace Registry

/-- The table of a record type that a request is about. -/
def requested (registry : Registry) (record : RecordType) : Except Error Table :=
  expect (.validation (.unmappedRecord record)) (registry.table? record)

end Registry

end TableMapping
