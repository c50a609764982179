import TableMapping.Schema.Table

/-!
# Declarations of tables

What is said of a table before it is known whether the table can be mapped. A column may be marked
as the primary key, unless it may be without a value, and as a foreign key to the primary key of
another table. Keys of several columns are declared on the table.
-/

namespace TableMapping

/-- The mark of a column that is the primary key. -/
structure PrimaryKeyMark where
  name : Option String
deriving DecidableEq, Repr

/-- The mark of a column that refers to the primary key of a table. -/
structure ForeignKeyMark where
  target : RecordType
  name : Option String
deriving DecidableEq, Repr

/-- The declaration of a column. -/
structure ColumnDeclaration where
  column : Column
  primaryKey : Option PrimaryKeyMark
  foreignKey : Option ForeignKeyMark
  /-- A column that may be without a value is not the primary key. -/
  keyable : primaryKey.isSome = true → column.nullable = false
deriving DecidableEq, Repr

namespace ColumnDeclaration

/-- The column that stores a property under the name of the property, without keys. -/
def of (property : Property) (type : SqlType) (storable : property.type.storable type = true) :
    ColumnDeclaration where
  column := ⟨property, property.name, type, storable⟩
  primaryKey := none
  foreignKey := none
  keyable := nofun

/-- The declaration with another name for the column. -/
def named (declaration : ColumnDeclaration) (name : String) : ColumnDeclaration where
  column := ⟨declaration.column.property, name, declaration.column.type,
    declaration.column.storable⟩
  primaryKey := declaration.primaryKey
  foreignKey := declaration.foreignKey
  keyable := declaration.keyable

/-- The declaration with the column marked as the primary key. -/
def asPrimaryKey (declaration : ColumnDeclaration) (name : Option String)
    (keyable : declaration.column.nullable = false) : ColumnDeclaration where
  column := declaration.column
  primaryKey := some ⟨name⟩
  foreignKey := declaration.foreignKey
  keyable := fun _ => keyable

/-- The declaration with the column marked as a foreign key. -/
def asForeignKey (declaration : ColumnDeclaration) (target : RecordType) (name : Option String) :
    ColumnDeclaration where
  column := declaration.column
  primaryKey := declaration.primaryKey
  foreignKey := some ⟨target, name⟩
  keyable := declaration.keyable

end ColumnDeclaration

/-- The declaration of a primary key on a table. -/
structure PrimaryKeyDeclaration where
  name : Option String
  /-- The properties of its columns. -/
  columns : List String
deriving DecidableEq, Repr

/-- The declaration of a foreign key on a table. -/
structure ForeignKeyDeclaration where
  name : Option String
  target : RecordType
  /-- The properties of its columns. -/
  columns : List String
  /-- The properties of the target that they refer to, in the same order. -/
  references : List String
deriving DecidableEq, Repr

/-- The declaration of a table. -/
structure TableDeclaration where
  record : RecordType
  name : String
  columns : List ColumnDeclaration
  /-- The primary key that is declared on the table. -/
  primaryKey : Option PrimaryKeyDeclaration
  /-- The foreign keys that are declared on the table. -/
  foreignKeys : List ForeignKeyDeclaration
deriving DecidableEq, Repr

namespace TableDeclaration

/-- The columns that are declared. -/
def columnList (declaration : TableDeclaration) : List Column :=
  declaration.columns.map ColumnDeclaration.column

/-- The primary keys that are declared on columns. -/
def markedKeys (declaration : TableDeclaration) : List PrimaryKey :=
  declaration.columns.filterMap fun marked =>
    marked.primaryKey.map fun mark => ⟨mark.name, .single marked.column.property.name⟩

/-- The foreign keys that are declared on columns, each with its column. -/
def markedReferences (declaration : TableDeclaration) : List (Column × ForeignKeyMark) :=
  declaration.columns.filterMap fun marked => marked.foreignKey.map (marked.column, ·)

end TableDeclaration

end TableMapping
