/-!
# Column types

The types that a column can be declared with, and when a column of one type may refer to a column
of another. A column is declared to a database under a storage type, which may be the same for
several types.
-/

namespace TableMapping

/-- The types of columns. -/
inductive SqlType
  | varchar
  | text
  | boolean
  | integer
  /-- An integer that the database numbers by itself. -/
  | serial
  | uuid
  | date
  | time
  | timeWithFraction
  | dateTime
  | timestamp
  | timestampWithTimeZone
deriving DecidableEq, Repr

namespace SqlType

/-- Every type of column, in the order in which they are listed. -/
def all : List SqlType :=
  [varchar, text, boolean, integer, serial, uuid, date, time, timeWithFraction, dateTime,
    timestamp, timestampWithTimeZone]

theorem mem_all (type : SqlType) : type ∈ all := by
  cases type <;> decide

/-- The name of a type. -/
def name : SqlType → String
  | varchar => "VARCHAR"
  | text => "TEXT"
  | boolean => "BOOLEAN"
  | integer => "INTEGER"
  | serial => "SERIAL"
  | uuid => "UUID"
  | date => "DATE"
  | time => "TIME"
  | timeWithFraction => "TIME_WITH_FRACTION"
  | dateTime => "DATETIME"
  | timestamp => "TIMESTAMP"
  | timestampWithTimeZone => "TIMESTAMP_WITH_TIMEZONE"

/-- The type whose values a key of this type holds: types with the same key domain can refer to
each other. -/
def keyDomain : SqlType → SqlType
  | varchar | text => text
  | integer | serial => integer
  | time | timeWithFraction => time
  | dateTime | timestamp => timestamp
  | other => other

/-- A column of this type can refer to a column of the other type. -/
def keyCompatible (type other : SqlType) : Bool := type.keyDomain = other.keyDomain

theorem keyCompatible_comm {type other : SqlType} :
    type.keyCompatible other = true ↔ other.keyCompatible type = true := by
  simp [keyCompatible, eq_comm]

end SqlType

/-! ## Storage types -/

/-- The types that a database is told to store a column with. -/
inductive StorageType
  | varchar
  | text
  | boolean
  | integer
  | integerAutoIncrement
  | serial
  | uuid
  | date
  | time
  | timeNanosecond
  | timeMicrosecond
  | dateTime
  | timestamp
  | timestampWithTimeZone
deriving DecidableEq, Repr

namespace StorageType

/-- The spelling of a storage type. -/
def spelling : StorageType → String
  | varchar => "VARCHAR"
  | text => "TEXT"
  | boolean => "BOOLEAN"
  | integer => "INTEGER"
  | integerAutoIncrement => "INTEGER AUTO_INCREMENT"
  | serial => "SERIAL"
  | uuid => "UUID"
  | date => "DATE"
  | time => "TIME"
  | timeNanosecond => "TIME(9)"
  | timeMicrosecond => "TIME(6)"
  | dateTime => "DATETIME"
  | timestamp => "TIMESTAMP"
  | timestampWithTimeZone => "TIMESTAMP WITH TIME ZONE"

end StorageType

end TableMapping
