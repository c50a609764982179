import TableMapping.Check
import TableMapping.Schema.Declaration
import TableMapping.Schema.Fault

/-!
# Registries

The tables that are mapped for one dialect, in the order in which they were declared. A declared
table joins a registry only if every part of its declaration holds up against the tables that are
there already. The first fault is the one reported, in this order: the names, the columns, the
primary key, the serial columns, the foreign keys of columns, and those of the table.
-/

namespace TableMapping

/-- The tables that are mapped for a dialect, in the order of their declaration. -/
structure Registry where
  dialect : Dialect
  tables : List Table
deriving DecidableEq, Repr

namespace Registry

/-- The registry without tables. -/
def empty (dialect : Dialect) : Registry := ⟨dialect, []⟩

/-- The registry with one more table behind the others. -/
def add (registry : Registry) (table : Table) : Registry :=
  ⟨registry.dialect, registry.tables ++ [table]⟩

/-- The table that stores the records of a record type. -/
def table? (registry : Registry) (record : RecordType) : Option Table :=
  registry.tables.find? fun table => table.record = record

/-- The columns of all tables, each with its table behind the property that it stores. -/
def columns (registry : Registry) : List (PropertyKey × Table × Column) :=
  registry.tables.flatMap fun table =>
    table.columns.map fun column => (table.key column.property.name, table, column)

/-- The table and the column that store a property. -/
def column? (registry : Registry) (key : PropertyKey) : Option (Table × Column) :=
  (registry.columns.find? fun entry => entry.1 = key).map Prod.snd

/-- The table that stores the records of a record type, or the fault that there is none. -/
def table (registry : Registry) (record : RecordType) : Except MappingFault Table :=
  expect (.unmappedRecord record) (registry.table? record)

/-- The table and the column that store a property, or the fault that there are none. -/
def column (registry : Registry) (key : PropertyKey) : Except MappingFault (Table × Column) :=
  expect (.unmappedProperty key) (registry.column? key)

end Registry

namespace TableDeclaration

/-! ## Names and columns -/

/-- Neither the record type nor the name of the table is in use. -/
def checkNames (declaration : TableDeclaration) (registry : Registry) :
    Except MappingFault Unit :=
  match registry.table? declaration.record with
  | some table => .error (.recordMapped declaration.record table.name)
  | none =>
      ensure (∀ table ∈ registry.tables, table.name ≠ declaration.name)
        (.tableNameUsed declaration.name)

/-- A column goes with the ones before it. -/
def checkColumn (dialect : Dialect) (table : String) (earlier : List Column) (column : Column) :
    Except MappingFault Unit := do
  ensure (dialect.supports column.type = true)
    (.unsupportedType ⟨table, column.name⟩ column.type dialect)
  ensure (∀ other ∈ earlier, other.name ≠ column.name) (.columnRepeated column.name table)
  ensure (∀ other ∈ earlier, other.property.name ≠ column.property.name)
    (.propertyRepeated column.property.name table)

/-- Each of the columns goes with the ones before it. -/
def checkColumns (dialect : Dialect) (table : String) (earlier : List Column) :
    List Column → Except MappingFault Unit
  | [] => .ok ()
  | column :: rest => do
      checkColumn dialect table earlier column
      checkColumns dialect table (earlier ++ [column]) rest

/-! ## The primary key -/

/-- The column that stores a property. -/
def columnOf? (declaration : TableDeclaration) (property : String) : Option Column :=
  declaration.columnList.find? fun column => column.property.name = property

/-- A column with the table, as a statement names it. -/
def reference (declaration : TableDeclaration) (column : Column) : ColumnRef :=
  ⟨declaration.name, column.name⟩

/-- Each property of a primary key is stored in a column that always has a value, and none occurs
among the ones before it. -/
def checkKeyColumns (declaration : TableDeclaration) (earlier : List String) :
    List String → Except MappingFault Unit
  | [] => .ok ()
  | property :: rest => do
      let column ← expect (.unknownKeyColumn declaration.name property)
        (declaration.columnOf? property)
      ensure (column.nullable = false) (.nullableKeyColumn (declaration.reference column))
      ensure (property ∉ earlier) (.keyColumnRepeated (declaration.reference column))
      checkKeyColumns declaration (earlier ++ [property]) rest

/-- The primary key, if one is declared. It is declared on a column or on the table, but only
once. -/
def resolvePrimaryKey (declaration : TableDeclaration) :
    Except MappingFault (Option PrimaryKey) :=
  match declaration.markedKeys, declaration.primaryKey with
  | [], none => .ok none
  | [key], none => .ok (some key)
  | [], some key => do
      ensure (key.columns ≠ []) (.emptyPrimaryKey declaration.name)
      declaration.checkKeyColumns [] key.columns
      return some ⟨key.name, .ofList key.columns⟩
  | _, _ => .error (.severalPrimaryKeys declaration.name)

/-- The property is the one of the only column of the primary key. -/
def isWholeKey (key : Option PrimaryKey) (property : String) : Bool :=
  key.any fun key => key.columns = [property]

/-- Where the number of a row is an alias of the primary key, each serial column is the whole
primary key. -/
def checkSerials (declaration : TableDeclaration) (dialect : Dialect) (key : Option PrimaryKey) :
    Except MappingFault Unit :=
  if dialect.autoIncrement = .rowIdAlias then
    declaration.columnList.forM fun column =>
      ensure (column.type = .serial → isWholeKey key column.property.name = true)
        (.serialNotKey (declaration.reference column) dialect)
  else
    .ok ()

/-! ## Foreign keys -/

/-- The table that a foreign key refers to. -/
def target (declaration : TableDeclaration) (registry : Registry) (record : RecordType) :
    Except MappingFault Table :=
  expect (.unmappedTarget declaration.name record) (registry.table? record)

/-- A column can refer to the column of another table that stores the given property. -/
def checkReference (declaration : TableDeclaration) (column : Column) (target : Table)
    (property : String) : Except MappingFault Unit := do
  let referred ← expect (.unknownReferredColumn property target.name) (target.columnOf? property)
  ensure (column.type.keyCompatible referred.type = true)
    (.incompatibleTypes (declaration.reference column) column.type (target.reference referred)
      referred.type)

/-- The foreign key that is declared on a column: it refers to the only column of the primary key
of its target. -/
def resolveMarked (declaration : TableDeclaration) (registry : Registry)
    (marked : Column × ForeignKeyMark) : Except MappingFault ForeignKey := do
  let (column, mark) := marked
  let target ← declaration.target registry mark.target
  let key ← expect (.targetWithoutKey target.name (declaration.reference column))
    target.primaryKey
  match key.columns with
  | [property] =>
      declaration.checkReference column target property
      return ⟨mark.name, mark.target, .single (column.property.name, property)⟩
  | _ => throw (.targetWithCompositeKey target.name (declaration.reference column))

/-- A pair of properties is stored in columns of which the one can refer to the other. -/
def checkPair (declaration : TableDeclaration) (target : Table) (pair : String × String) :
    Except MappingFault Unit := do
  let column ← expect (.unknownReferringColumn declaration.name pair.1)
    (declaration.columnOf? pair.1)
  declaration.checkReference column target pair.2

/-- The foreign key that is declared on the table. -/
def resolveForeignKey (declaration : TableDeclaration) (registry : Registry)
    (key : ForeignKeyDeclaration) : Except MappingFault ForeignKey := do
  let target ← declaration.target registry key.target
  ensure (key.columns ≠ [] ∧ key.columns.length = key.references.length)
    (.unpaired declaration.name target.name)
  let pairs := key.columns.zip key.references
  pairs.forM (declaration.checkPair target)
  return ⟨key.name, key.target, .ofList pairs⟩

/-! ## The whole table -/

/-- The table that a declaration adds to a registry, or its first fault. -/
def resolve (declaration : TableDeclaration) (registry : Registry) : Except MappingFault Table := do
  declaration.checkNames registry
  ensure (declaration.columns ≠ []) (.noColumn declaration.name)
  checkColumns registry.dialect declaration.name [] declaration.columnList
  let primaryKey ← declaration.resolvePrimaryKey
  declaration.checkSerials registry.dialect primaryKey
  let marked ← declaration.markedReferences.mapM (declaration.resolveMarked registry)
  let declared ← declaration.foreignKeys.mapM (declaration.resolveForeignKey registry)
  return ⟨declaration.record, declaration.name, declaration.columnList, primaryKey,
    marked ++ declared⟩

end TableDeclaration

end TableMapping
