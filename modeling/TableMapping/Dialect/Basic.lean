import TableMapping.SqlType
import TableMapping.SqlValue
import TableMapping.Text.Numeral

/-!
# Dialects

The databases that statements are written for, and where they differ: the storage types they have,
how they number serial columns, how parameters are marked, and which values they can be given.
-/

namespace TableMapping

/-- The databases that statements can be written for. -/
inductive Dialect
  | h2
  | postgresql
  | sqlite
deriving DecidableEq, Repr

/-- The ways in which a database numbers the rows of a serial column. -/
inductive AutoIncrement
  /-- A storage type of its own. -/
  | serialType
  /-- A keyword after the storage type. -/
  | keyword
  /-- The integer primary key is the number of the row. -/
  | rowIdAlias
deriving DecidableEq, Repr

namespace Dialect

/-- The name of a dialect. -/
def name : Dialect → String
  | h2 => "h2"
  | postgresql => "postgresql"
  | sqlite => "sqlite"

/-- The storage type of a type of column, if the dialect has one. -/
def storageType? : Dialect → SqlType → Option StorageType
  | h2, .varchar => some .varchar
  | h2, .text => none
  | h2, .boolean => some .boolean
  | h2, .integer => some .integer
  | h2, .serial => some .integerAutoIncrement
  | h2, .uuid => some .uuid
  | h2, .date => some .date
  | h2, .time => some .time
  | h2, .timeWithFraction => some .timeNanosecond
  | h2, .dateTime => some .dateTime
  | h2, .timestamp => some .timestamp
  | h2, .timestampWithTimeZone => some .timestampWithTimeZone
  | postgresql, .varchar => some .varchar
  | postgresql, .text => some .text
  | postgresql, .boolean => some .boolean
  | postgresql, .integer => some .integer
  | postgresql, .serial => some .serial
  | postgresql, .uuid => some .uuid
  | postgresql, .date => some .date
  | postgresql, .time => some .time
  | postgresql, .timeWithFraction => some .timeMicrosecond
  | postgresql, .dateTime => none
  | postgresql, .timestamp => some .timestamp
  | postgresql, .timestampWithTimeZone => some .timestampWithTimeZone
  | sqlite, .varchar => some .varchar
  | sqlite, .boolean | sqlite, .integer | sqlite, .serial => some .integer
  | sqlite, _ => some .text

/-- The dialect has columns of the given type. -/
def supports (dialect : Dialect) (type : SqlType) : Bool := (dialect.storageType? type).isSome

/-- How the dialect numbers the rows of a serial column. -/
def autoIncrement : Dialect → AutoIncrement
  | h2 => .keyword
  | postgresql => .serialType
  | sqlite => .rowIdAlias

/-- The dialect has no native types for identifiers, dates and times, and stores their text
forms. -/
def storesTemporalAsText : Dialect → Bool
  | sqlite => true
  | h2 | postgresql => false

/-- The mark of the parameter with the given number, counted from 1. -/
def placeholder : Dialect → Nat → List Char
  | postgresql, number => '$' :: Decimal.digits number
  | h2, _ | sqlite, _ => ['?']

/-- The form in which a value is handed to the database. -/
def bind (dialect : Dialect) (value : SqlValue) : SqlValue :=
  if dialect.storesTemporalAsText then
    match value with
    | .bool value => .int (if value then 1 else 0)
    | value => value.textForm
  else
    value

@[simp]
theorem bind_eq_null {dialect : Dialect} {value : SqlValue} :
    dialect.bind value = .null ↔ value = .null := by
  unfold bind
  split
  · cases value <;> simp [SqlValue.textForm]
  · rfl

end Dialect

end TableMapping
