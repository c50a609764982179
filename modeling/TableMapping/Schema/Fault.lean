import TableMapping.Dialect.Basic
import TableMapping.Schema.Table

/-!
# Faults of mappings

The reasons why a table cannot be mapped, and why something is not mapped at all.
-/

namespace TableMapping

/-- The reasons why a mapping is wrong or missing. -/
inductive MappingFault
  /-- The record type has a table already. -/
  | recordMapped (record : RecordType) (table : String)
  /-- Another table has the name. -/
  | tableNameUsed (table : String)
  /-- The table has no column. -/
  | noColumn (table : String)
  /-- The dialect lacks the type of a column. -/
  | unsupportedType (column : ColumnRef) (type : SqlType) (dialect : Dialect)
  /-- Two columns have one name. -/
  | columnRepeated (column table : String)
  /-- Two columns store one property. -/
  | propertyRepeated (property table : String)
  /-- More than one primary key is declared. -/
  | severalPrimaryKeys (table : String)
  /-- The primary key has no column. -/
  | emptyPrimaryKey (table : String)
  /-- The primary key uses a property that no column stores. -/
  | unknownKeyColumn (table property : String)
  /-- The primary key uses a column that may be without a value. -/
  | nullableKeyColumn (column : ColumnRef)
  /-- The primary key uses a column twice. -/
  | keyColumnRepeated (column : ColumnRef)
  /-- A serial column is not the whole primary key, as the dialect wants it to be. -/
  | serialNotKey (column : ColumnRef) (dialect : Dialect)
  /-- A foreign key refers to a record type without a table. -/
  | unmappedTarget (table : String) (target : RecordType)
  /-- A column refers to a table without a primary key. -/
  | targetWithoutKey (target : String) (column : ColumnRef)
  /-- A column refers to a table whose primary key has more than one column. -/
  | targetWithCompositeKey (target : String) (column : ColumnRef)
  /-- A foreign key does not pair its columns with columns of the target. -/
  | unpaired (table target : String)
  /-- A foreign key uses a property that no column stores. -/
  | unknownReferringColumn (table property : String)
  /-- A foreign key refers to a property that no column of the target stores. -/
  | unknownReferredColumn (property target : String)
  /-- A column refers to one whose type does not go with its own. -/
  | incompatibleTypes (column : ColumnRef) (type : SqlType) (referred : ColumnRef)
      (referredType : SqlType)
  /-- A table declared before this one was refused. -/
  | earlierFailure (first : MappingFault)
  /-- The record type has no table. -/
  | unmappedRecord (record : RecordType)
  /-- No column stores the property. -/
  | unmappedProperty (key : PropertyKey)
  /-- No foreign key through the property connects the table to a statement. -/
  | noLink (key : PropertyKey) (table : String)
deriving DecidableEq, Repr

namespace MappingFault

/-- What stands before the wording of a fault when it is reported. -/
def heading : String := "mapping error: "

/-- The wording of a fault. -/
def message : MappingFault → String
  | recordMapped record table =>
      "type `" ++ record.name ++ "` is already mapped to table `" ++ table ++ "`"
  | tableNameUsed table => "table name `" ++ table ++ "` is already used"
  | noColumn table => "table `" ++ table ++ "` declares no column"
  | unsupportedType column type dialect =>
      "column `" ++ column.qualifiedName ++ "`: " ++ type.name ++ " is not supported by " ++
        dialect.name
  | columnRepeated column table =>
      "column name `" ++ column ++ "` is declared twice in table `" ++ table ++ "`"
  | propertyRepeated property table =>
      "property `" ++ property ++ "` is mapped twice in table `" ++ table ++ "`"
  | severalPrimaryKeys table => "table `" ++ table ++ "` declares more than one primary key"
  | emptyPrimaryKey table => "primary key of table `" ++ table ++ "` has no column"
  | unknownKeyColumn table property =>
      "primary key of table `" ++ table ++ "` uses `" ++ property ++
        "`, which is not a column of the table"
  | nullableKeyColumn column =>
      "nullable column `" ++ column.qualifiedName ++ "` cannot be part of a primary key"
  | keyColumnRepeated column =>
      "column `" ++ column.qualifiedName ++ "` appears twice in the primary key"
  | serialNotKey column dialect =>
      "serial column `" ++ column.qualifiedName ++
        "` must be the single-column primary key on " ++ dialect.name
  | unmappedTarget table target =>
      "foreign key of `" ++ table ++ "` references `" ++ target.name ++
        "`, which is not a mapped table"
  | targetWithoutKey target column =>
      "table `" ++ target ++ "` referenced by `" ++ column.qualifiedName ++
        "` has no primary key"
  | targetWithCompositeKey target column =>
      "table `" ++ target ++ "` referenced by `" ++ column.qualifiedName ++
        "` has a composite primary key; declare the foreign key on the table instead"
  | unpaired table target =>
      "foreign key of `" ++ table ++ "` to `" ++ target ++
        "` must pair the same, non-zero, number of local and referenced columns"
  | unknownReferringColumn table property =>
      "foreign key of `" ++ table ++ "` uses `" ++ property ++
        "`, which is not a column of the table"
  | unknownReferredColumn property target =>
      "foreign key references `" ++ property ++ "`, which is not a column of `" ++ target ++ "`"
  | incompatibleTypes column type referred referredType =>
      "foreign key column `" ++ column.qualifiedName ++ "` (" ++ type.name ++
        ") cannot reference `" ++ referred.qualifiedName ++ "` (" ++ referredType.name ++ ")"
  | earlierFailure first =>
      "an earlier table declaration failed: " ++ heading ++ first.message
  | unmappedRecord record => "type `" ++ record.name ++ "` is not mapped to a table"
  | unmappedProperty key =>
      "property `" ++ key.name ++ "` of `" ++ key.record.name ++ "` is not mapped to a column"
  | noLink key table =>
      "no foreign key through `" ++ key.qualifiedName ++ "` links `" ++ table ++
        "` to the statement"

end MappingFault

end TableMapping
