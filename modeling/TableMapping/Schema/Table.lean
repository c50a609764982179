import TableMapping.Schema.Property
import TableMapping.Statement.Basic

/-!
# Mapped tables

A table stores the records of one record type: each of its columns stores one property. Keys name
the properties of their columns.
-/

namespace TableMapping

/-- A column of a table. -/
structure Column where
  /-- The property that the column stores. -/
  property : Property
  name : String
  type : SqlType
  /-- The column can store the values of the property. -/
  storable : property.type.storable type = true
deriving DecidableEq, Repr

namespace Column

/-- The column may be without a value. A serial column never is, since the database gives it one. -/
def nullable (column : Column) : Bool := column.type ≠ .serial && column.property.type.optional

end Column

/-- The parts of a key, one for each of its columns: a single one, or several in order. -/
inductive KeyParts (α : Type)
  | single (part : α)
  | composite (parts : List α)
deriving DecidableEq, Repr

namespace KeyParts

variable {α : Type}

/-- The parts in order. -/
def toList : KeyParts α → List α
  | single part => [part]
  | composite parts => parts

/-- The form of a key with the given parts: one part alone is single. -/
def ofList : List α → KeyParts α
  | [part] => single part
  | parts => composite parts

/-- The key has a single part. -/
def isSingle : KeyParts α → Bool
  | single _ => true
  | composite _ => false

@[simp]
theorem toList_ofList (parts : List α) : (ofList parts).toList = parts := by
  rcases parts with - | ⟨part, - | ⟨next, rest⟩⟩ <;> rfl

@[simp]
theorem isSingle_ofList {parts : List α} : (ofList parts).isSingle = true ↔ parts.length = 1 := by
  rcases parts with - | ⟨part, - | ⟨next, rest⟩⟩ <;> simp [ofList, isSingle]

end KeyParts

/-- A primary key. -/
structure PrimaryKey where
  name : Option String
  /-- The properties of its columns. -/
  parts : KeyParts String
deriving DecidableEq, Repr

namespace PrimaryKey

/-- The properties of the columns of a primary key. -/
def columns (key : PrimaryKey) : List String := key.parts.toList

end PrimaryKey

/-- A foreign key. -/
structure ForeignKey where
  name : Option String
  /-- The record type of the table that is referred to. -/
  target : RecordType
  /-- The properties of its columns, each with the property of the target that it refers to. -/
  parts : KeyParts (String × String)
deriving DecidableEq, Repr

namespace ForeignKey

/-- The properties of the columns of a foreign key, each with the property that it refers to. -/
def pairs (key : ForeignKey) : List (String × String) := key.parts.toList

/-- The properties of the columns of a foreign key. -/
def columns (key : ForeignKey) : List String := key.pairs.map Prod.fst

/-- The properties that a foreign key refers to. -/
def references (key : ForeignKey) : List String := key.pairs.map Prod.snd

end ForeignKey

/-- A table that stores the records of a record type. -/
structure Table where
  record : RecordType
  name : String
  columns : List Column
  primaryKey : Option PrimaryKey
  foreignKeys : List ForeignKey
deriving DecidableEq, Repr

namespace Table

/-- The property of the record type with the given name, among those of all record types. -/
def key (table : Table) (property : String) : PropertyKey := ⟨table.record, property⟩

/-- The column with its table, as a statement names it. -/
def reference (table : Table) (column : Column) : ColumnRef := ⟨table.name, column.name⟩

/-- The column that stores a property of the record type. -/
def columnOf? (table : Table) (property : String) : Option Column :=
  table.columns.find? fun column => column.property.name = property

/-- The column that stores a property, if the table has one. -/
def column? (table : Table) (key : PropertyKey) : Option Column :=
  if key.record = table.record then table.columnOf? key.name else none

/-- The values of the columns for a record. -/
def values (table : Table) (record : Record) : List SqlValue :=
  table.columns.map fun column => record column.property.name

end Table

end TableMapping
