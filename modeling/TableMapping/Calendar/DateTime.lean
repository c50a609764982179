import TableMapping.Calendar.Date
import TableMapping.Calendar.TimeOfDay

/-!
# Dates with a time

A date and a time of day without an offset. The text form joins the two with a `T`; a text with
blanks, or nothing, in place of the `T` is read as well.
-/

namespace TableMapping

/-- A time of day on a date. -/
structure DateTime where
  /-- The date. -/
  date : Date
  /-- The time of day. -/
  time : TimeOfDay
deriving DecidableEq, Repr

namespace DateTime

/-- The date and time with the given fields, if the calendar has them. -/
def ofFields? (date : Int × Nat × Nat) (time : Nat × Nat × Nat × Nat) : Option DateTime :=
  match Date.ofFields? date.1 date.2.1 date.2.2,
      TimeOfDay.ofClock? time.1 time.2.1 time.2.2.1 time.2.2.2 with
  | some date, some time => some ⟨date, time⟩
  | _, _ => none

/-- The text form of a date and time. -/
def text (moment : DateTime) : List Char :=
  moment.date.text ++ 'T' :: moment.time.text

/-- Reads a date and a time with the given separator between them. -/
def readWith (separator : CalendarReader Unit) (text : List Char) :
    Except CalendarFault DateTime := do
  let reader : CalendarReader ((Int × Nat × Nat) × (Nat × Nat × Nat × Nat)) := do
    let date ← Date.fieldReader
    separator
    let time ← TimeOfDay.fieldReader
    return (date, time)
  let (date, time) ← reader.whole text
  expect CalendarFault.outOfRange (ofFields? date time)

/-- Reads a date and time, joined by a `T` or else by any blanks. A text that has neither form is
refused for what keeps it from the second. -/
def read (text : List Char) : Except CalendarFault DateTime :=
  match readWith (CalendarReader.literal 'T') text with
  | .ok moment => .ok moment
  | .error _ => readWith CalendarReader.blanks text

end DateTime

end TableMapping
