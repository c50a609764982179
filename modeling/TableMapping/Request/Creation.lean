import TableMapping.Execution

/-!
# Creation of tables

The statements that create the tables of a registry. A key without a name is named for its table:
a primary key after `PK_`, a foreign key after `FK_` with the table it refers to, and with a number
from the second key of the table to the same target on.
-/

namespace TableMapping

namespace Table

/-- The name of the column that stores a property of the record type. -/
def columnName (table : Table) (property : String) : Except Error String :=
  expect (.validation (.unknownColumn (table.key property) table.name))
    ((table.columnOf? property).map Column.name)

/-- The name of the primary key of a table. -/
def primaryKeyName (table : Table) (key : PrimaryKey) : String :=
  key.name.getD ("PK_" ++ table.name)

/-- The name of a foreign key of a table, which is the one with the given number among those with
the same target. -/
def foreignKeyName (table target : Table) (key : ForeignKey) (number : Nat) : String :=
  key.name.getD ("FK_" ++ table.name ++ "_" ++ target.name ++
    if number = 1 then "" else "_" ++ toString number)

/-- The primary key of a table as it is created. -/
def primaryKeyConstraint (table : Table) (key : PrimaryKey) : Except Error TableConstraint :=
  return .primaryKey (table.primaryKeyName key) (← key.columns.mapM table.columnName)

/-- A foreign key of a table as it is created, after the given ones. -/
def foreignKeyConstraint (registry : Registry) (table : Table) (earlier : List ForeignKey)
    (key : ForeignKey) : Except Error TableConstraint := do
  let target ← expect (.validation (.unmappedReference table.name)) (registry.table? key.target)
  let number := 1 + earlier.countP fun other => other.target = key.target
  return .foreignKey (table.foreignKeyName target key number)
    (← key.columns.mapM table.columnName) target.name
    (← key.references.mapM target.columnName)

/-- The foreign keys of a table as they are created, after the given ones. -/
def foreignKeyConstraints (registry : Registry) (table : Table) (earlier : List ForeignKey) :
    List ForeignKey → Except Error (List TableConstraint)
  | [] => .ok []
  | key :: rest =>
      return (← table.foreignKeyConstraint registry earlier key) ::
        (← foreignKeyConstraints registry table (earlier ++ [key]) rest)

/-- The creation that a table calls for. -/
def tree (registry : Registry) (table : Table) : Except Error CreateTable := do
  let primary ← table.primaryKey.toList.mapM table.primaryKeyConstraint
  let foreign ← table.foreignKeyConstraints registry [] table.foreignKeys
  return ⟨table.name, table.columns.map fun column => ⟨column.name, column.type, column.nullable⟩,
    primary ++ foreign⟩

/-- The statement that creates a table. -/
def compileCreation (registry : Registry) (table : Table) : Except Error CompiledStatement := do
  let tree ← table.tree registry
  (Statement.createTable tree).write registry.dialect

end Table

namespace Registry

/-- The statement that creates the table of a record type. -/
def compileCreation (registry : Registry) (record : RecordType) :
    Except Error CompiledStatement := do
  let table ← registry.requested record
  table.compileCreation registry

/-- The statements that create all tables, in the order of their declaration. -/
def compileAllCreations (registry : Registry) : Except Error (List CompiledStatement) :=
  registry.tables.mapM (Table.compileCreation registry)

/-- Creates the table of a record type. -/
def create (registry : Registry) (record : RecordType) (backend : Backend) : Run Unit :=
  (backend.executeOne (registry.compileCreation record)).map fun _ => ()

/-- Creates all tables, in the order of their declaration. -/
def createAll (registry : Registry) (backend : Backend) : Run Unit :=
  (backend.executeAll registry.compileAllCreations).map fun _ => ()

end Registry

end TableMapping
