import TableMapping.Calendar.OffsetDateTime
import TableMapping.Text.Quoted
import TableMapping.Uuid

/-!
# Values in SQL

The values that statements carry and rows hold, with the text form in which a database without
native types for them stores identifiers, dates and times.
-/

namespace TableMapping

/-- A value of a statement or a row. -/
inductive SqlValue
  /-- The absent value. -/
  | null
  | bool (value : Bool)
  | int (value : Int64)
  | text (value : String)
  | uuid (value : Uuid)
  | date (value : Date)
  | time (value : TimeOfDay)
  | dateTime (value : DateTime)
  | timestamp (value : OffsetDateTime)
deriving DecidableEq

namespace SqlValue

/-- The value is absent. -/
def isNull : SqlValue → Bool
  | null => true
  | _ => false

/-- The kinds of values. -/
inductive Kind
  | null
  | bool
  | int
  | text
  | uuid
  | date
  | time
  | dateTime
  | timestamp
deriving DecidableEq, Repr

/-- The name of a kind. -/
def Kind.name : Kind → String
  | .null => "NULL"
  | .bool => "boolean"
  | .int => "integer"
  | .text => "text"
  | .uuid => "uuid"
  | .date => "date"
  | .time => "time"
  | .dateTime => "datetime"
  | .timestamp => "timestamp with time zone"

/-- The kind of a value. -/
def kind : SqlValue → Kind
  | null => .null
  | bool _ => .bool
  | int _ => .int
  | text _ => .text
  | uuid _ => .uuid
  | date _ => .date
  | time _ => .time
  | dateTime _ => .dateTime
  | timestamp _ => .timestamp

/-- The value with identifiers, dates and times in their text form. -/
def textForm : SqlValue → SqlValue
  | uuid value => text (String.ofList value.text)
  | date value => text (String.ofList value.text)
  | time value => text (String.ofList value.text)
  | dateTime value => text (String.ofList value.text)
  | timestamp value => text (String.ofList value.text)
  | null => null
  | bool value => bool value
  | int value => int value
  | text value => text value

/-- A value as it is shown to a programmer: its kind with its text in parentheses. Unlike the text
form, this loses nothing of an offset. -/
def display : SqlValue → String
  | null => "Null"
  | bool value => "Bool(" ++ (if value then "true" else "false") ++ ")"
  | int value => "Int(" ++ String.ofList (Decimal.signed value.toInt) ++ ")"
  | text value => "Text(" ++ Escaped.text value ++ ")"
  | uuid value => "Uuid(" ++ String.ofList value.text ++ ")"
  | date value => "Date(" ++ String.ofList value.text ++ ")"
  | time value => "Time(" ++ String.ofList value.text ++ ")"
  | dateTime value => "DateTime(" ++ String.ofList value.text ++ ")"
  | timestamp value => "TimestampTz(" ++ String.ofList value.display ++ ")"

@[simp]
theorem isNull_iff {value : SqlValue} : value.isNull = true ↔ value = null := by
  cases value <;> simp [isNull]

@[simp]
theorem textForm_eq_null {value : SqlValue} : value.textForm = null ↔ value = null := by
  cases value <;> simp [textForm]

end SqlValue

end TableMapping
