import TableMapping.Calendar.Reader

/-!
# Dates

Days of the proleptic Gregorian calendar, in which year 0 exists, and their text form: year,
month and day joined by hyphens. A year from 0 to 9999 has four digits, and any other year a sign
and at least four.
-/

namespace TableMapping

/-- A year is a leap year if 4 divides it, except that of the centuries only every fourth is. -/
def isLeapYear (year : Int) : Bool :=
  year % 4 = 0 && (year % 100 ≠ 0 || year % 400 = 0)

/-- The number of days of a month. -/
def daysInMonth (year : Int) (month : Nat) : Nat :=
  if month = 2 then
    if isLeapYear year then 29 else 28
  else if month = 4 ∨ month = 6 ∨ month = 9 ∨ month = 11 then 30 else 31

/-- A day of the calendar. -/
structure Date where
  /-- The year, negative before year 0. -/
  year : Int
  /-- The month, counted from 1. -/
  month : Nat
  /-- The day of the month, counted from 1. -/
  day : Nat
  /-- The years of the calendar. -/
  year_range : -262143 ≤ year ∧ year ≤ 262142
  /-- A year has twelve months. -/
  month_range : 1 ≤ month ∧ month ≤ 12
  /-- The month has the day. -/
  day_range : 1 ≤ day ∧ day ≤ daysInMonth year month
deriving DecidableEq, Repr

namespace Date

/-- The day with the given year, month and day, if the calendar has it. -/
def ofFields? (year : Int) (month day : Nat) : Option Date :=
  if valid : (-262143 ≤ year ∧ year ≤ 262142) ∧ (1 ≤ month ∧ month ≤ 12) ∧
      (1 ≤ day ∧ day ≤ daysInMonth year month) then
    some ⟨year, month, day, valid.1, valid.2.1, valid.2.2⟩
  else
    none

@[simp]
theorem ofFields?_fields (date : Date) :
    ofFields? date.year date.month date.day = some date := by
  simp [ofFields?, date.year_range, date.month_range, date.day_range]

/-- The text of a year: four digits from 0 to 9999, otherwise a sign and at least four digits. -/
def yearText (year : Int) : List Char :=
  if year < 0 then
    '-' :: Decimal.padded 4 year.natAbs
  else if year ≤ 9999 then
    Decimal.padded 4 year.natAbs
  else
    '+' :: Decimal.padded 4 year.natAbs

/-- The text form of a date. -/
def text (date : Date) : List Char :=
  yearText date.year ++ '-' :: Decimal.padded 2 date.month ++
    '-' :: Decimal.padded 2 date.day

/-- Reads a whole number: any number of digits after a sign, else at most four. -/
def signedReader : CalendarReader Int := fun
  | '-' :: text => do
      let (run, rest) ← CalendarReader.digitRun text.length text
      return (-(Decimal.value run : Int), rest)
  | '+' :: text => do
      let (run, rest) ← CalendarReader.digitRun text.length text
      return ((Decimal.value run : Int), rest)
  | text => do
      let (run, rest) ← CalendarReader.digitRun 4 text
      return ((Decimal.value run : Int), rest)

/-- Reads a year after any blanks. Years beyond 32 bits are refused on the spot, before it is known
whether the calendar has the date. -/
def yearReader : CalendarReader Int := do
  CalendarReader.blanks
  let year ← signedReader
  ensure (-2147483648 ≤ year ∧ year ≤ 2147483647) CalendarFault.outOfRange
  return year

/-- Reads the year, month and day of a date, which together may still be no day of the calendar. -/
def fieldReader : CalendarReader (Int × Nat × Nat) := do
  let year ← yearReader
  CalendarReader.literal '-'
  let month ← CalendarReader.field 1 12
  CalendarReader.literal '-'
  let day ← CalendarReader.field 1 31
  return (year, month, day)

/-- Reads the text form of a date. -/
def read (text : List Char) : Except CalendarFault Date := do
  let (year, month, day) ← fieldReader.whole text
  expect CalendarFault.outOfRange (ofFields? year month day)

end Date

end TableMapping
