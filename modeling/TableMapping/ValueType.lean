import TableMapping.SqlType
import TableMapping.SqlValue
import TableMapping.Uuid

/-!
# Types of properties

The types that a property of a record can have. The value of a property is kept as the SQL value
that stands for it, so a type is a rule for which SQL values it has and how a value that comes from
a database is read as one of them.
-/

namespace TableMapping

/-- The types of properties that are always present. -/
inductive Scalar
  | string
  /-- A string whose empty value stands for an absent one. -/
  | code
  | bool
  | int32
  | uuid
  | date
  | time
  | dateTime
  | timestamp
deriving DecidableEq, Repr

/-- The types of properties. -/
structure ValueType where
  /-- The type of a value that is present. -/
  scalar : Scalar
  /-- The value may be absent. -/
  optional : Bool
deriving DecidableEq, Repr

namespace Scalar

/-- The name under which a type is expected. -/
def name : Scalar → String
  | string | code => "String"
  | bool => "bool"
  | int32 => "i32"
  | uuid => "Uuid"
  | date => "NaiveDate"
  | time => "NaiveTime"
  | dateTime => "NaiveDateTime"
  | timestamp => "DateTime<FixedOffset>"

end Scalar

/-- The reasons why a value of the right kind is not a value of a type. -/
inductive InvalidValue
  /-- The text is no date or time. -/
  | calendar (fault : CalendarFault)
  /-- The text is no UUID. -/
  | uuid (fault : UuidFault)
  /-- The number is above the greatest one of the type. -/
  | tooLarge
  /-- The number is below the least one of the type. -/
  | tooSmall
deriving DecidableEq, Repr

namespace InvalidValue

/-- The wording of a reason. -/
def message : InvalidValue → String
  | calendar fault => fault.message
  | uuid fault => fault.message
  | tooLarge => "number too large to fit in target type"
  | tooSmall => "number too small to fit in target type"

end InvalidValue

/-- The reasons why an SQL value cannot be read at a type. -/
inductive ValueError
  /-- The value is absent, but the type has no absent value. -/
  | unexpectedNull (expected : Scalar)
  /-- The value is of a kind that the type cannot be read from. -/
  | mismatch (expected : Scalar) (found : SqlValue.Kind)
  /-- The value is of the right kind, but is not one of the type. -/
  | invalid (expected : Scalar) (input : String) (reason : InvalidValue)
deriving DecidableEq, Repr

namespace ValueError

/-- The error for a value of a kind that a type cannot be read from. -/
def unexpected (expected : Scalar) (value : SqlValue) : ValueError :=
  if value.isNull then unexpectedNull expected else mismatch expected value.kind

/-- The wording of an error. -/
def message : ValueError → String
  | unexpectedNull expected => "unexpected NULL for non-nullable " ++ expected.name
  | mismatch expected found => "expected " ++ expected.name ++ ", found " ++ found.name
  | invalid expected input reason =>
      "invalid " ++ expected.name ++ " value `" ++ input ++ "`: " ++ reason.message

end ValueError

namespace Scalar

/-- The SQL value that stands for a code. -/
def codeForm (code : String) : SqlValue := if code = "" then .null else .text code

/-- Reads a number that fits in 32 bits. -/
def readInt32 (value : Int64) : Except ValueError SqlValue :=
  if value.toInt < -2147483648 then
    .error (.invalid .int32 (String.ofList (Decimal.signed value.toInt)) .tooSmall)
  else if 2147483647 < value.toInt then
    .error (.invalid .int32 (String.ofList (Decimal.signed value.toInt)) .tooLarge)
  else
    .ok (.int value)

/-- The value that was read from a text, or the error that the text is not one of the type. -/
def ofText {α β : Type} (expected : Scalar) (input : String) (form : α → SqlValue)
    (reason : β → InvalidValue) : Except β α → Except ValueError SqlValue
  | .ok value => .ok (form value)
  | .error fault => .error (.invalid expected input (reason fault))

/-- Reads an SQL value at a type. A boolean may come as a number, and a type without a native form
in every database as its text form. -/
def read : Scalar → SqlValue → Except ValueError SqlValue
  | string, .text value => .ok (.text value)
  | code, .text value => .ok (codeForm value)
  | bool, .bool value => .ok (.bool value)
  | bool, .int value => .ok (.bool (value ≠ 0))
  | int32, .int value => readInt32 value
  | uuid, .uuid value => .ok (.uuid value)
  | uuid, .text input => ofText uuid input .uuid .uuid (Uuid.read input.toList)
  | date, .date value => .ok (.date value)
  | date, .text input => ofText date input .date .calendar (Date.read input.toList)
  | time, .time value => .ok (.time value)
  | time, .text input => ofText time input .time .calendar (TimeOfDay.read input.toList)
  | dateTime, .dateTime value => .ok (.dateTime value)
  | dateTime, .text input => ofText dateTime input .dateTime .calendar (DateTime.read input.toList)
  | timestamp, .timestamp value => .ok (.timestamp value)
  | timestamp, .text input =>
      ofText timestamp input .timestamp .calendar (OffsetDateTime.read input.toList)
  | expected, value => .error (ValueError.unexpected expected value)

/-- The SQL value stands for a value of the type. -/
def admits : Scalar → SqlValue → Bool
  | string, .text _ => true
  | code, .text value => value ≠ ""
  | code, .null => true
  | bool, .bool _ => true
  | int32, .int value => -2147483648 ≤ value.toInt && value.toInt ≤ 2147483647
  | uuid, .uuid _ => true
  | date, .date _ => true
  | time, .time _ => true
  | dateTime, .dateTime _ => true
  | timestamp, .timestamp _ => true
  | _, _ => false

/-- The types of columns that can store the values of a type. -/
def storedAs : Scalar → List SqlType
  | string | code => [.varchar, .text]
  | bool => [.boolean]
  | int32 => [.integer]
  | uuid => [.uuid]
  | date => [.date]
  | time => [.time, .timeWithFraction]
  | dateTime => [.dateTime, .timestamp]
  | timestamp => [.timestampWithTimeZone]

end Scalar

namespace ValueType

/-- Reads an SQL value at a type: an optional type also has the absent value. -/
def read (type : ValueType) (value : SqlValue) : Except ValueError SqlValue :=
  if type.optional && value.isNull then .ok .null else type.scalar.read value

/-- The SQL value stands for a value of the type. -/
def admits (type : ValueType) (value : SqlValue) : Bool :=
  type.optional && value.isNull || type.scalar.admits value

/-- A column of the given type can store the values of the type. A serial column stores an
optional number, since a record that is not stored yet has none. -/
def storable (type : ValueType) (column : SqlType) : Bool :=
  if column = .serial then
    type.scalar = .int32 && type.optional
  else
    type.scalar.storedAs.contains column

end ValueType

end TableMapping
