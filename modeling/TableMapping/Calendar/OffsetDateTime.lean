import TableMapping.Calendar.DateTime
import TableMapping.Text.Character

/-!
# Dates with a time and an offset

A date and time as a local clock shows it, together with the offset of that clock from UTC. The
text form is the one of RFC 3339, except that it is written for every year: the local date and
time, then the offset in hours and minutes, rounded to the nearest minute. The displayed form is
exact: an offset that is not a whole number of minutes shows its seconds as well. The reader is
stricter than the ones for local dates and times: each number has its full width.
-/

namespace TableMapping

/-- The seconds of one day. -/
def secondsPerDay : Nat := 86400

/-- A local date and time with its offset from UTC. -/
structure OffsetDateTime where
  /-- The date and time that the local clock shows. -/
  civil : DateTime
  /-- The seconds by which the local clock is ahead of UTC. -/
  offset : Int
  /-- The offset is less than a day in either direction. -/
  offset_range : -(secondsPerDay : Int) < offset ∧ offset < secondsPerDay
deriving DecidableEq, Repr

namespace OffsetDateTime

/-- The local date and time with the given offset, if it is less than a day. -/
def ofOffset? (civil : DateTime) (offset : Int) : Option OffsetDateTime :=
  if valid : -(secondsPerDay : Int) < offset ∧ offset < secondsPerDay then
    some ⟨civil, offset, valid⟩
  else
    none

@[simp]
theorem ofOffset?_offset (moment : OffsetDateTime) :
    ofOffset? moment.civil moment.offset = some moment := by
  simp [ofOffset?, moment.offset_range]

/-- The hours and minutes of a number of minutes. -/
def minuteText (minutes : Nat) : List Char :=
  Decimal.padded 2 (minutes / 60) ++ ':' :: Decimal.padded 2 (minutes % 60)

/-- The sign of an offset. No offset counts as ahead of UTC. -/
def offsetSign (offset : Int) : Char := if offset < 0 then '-' else '+'

/-- The text of an offset: its sign, then hours and minutes, rounded to the nearest minute. -/
def offsetText (offset : Int) : List Char :=
  offsetSign offset :: minuteText ((offset.natAbs + 30) / 60)

/-- The exact text of an offset: its sign, then hours and minutes, then the seconds that remain,
if there are any. -/
def exactOffsetText (offset : Int) : List Char :=
  let second := offset.natAbs % 60
  offsetSign offset :: (minuteText (offset.natAbs / 60) ++
    if second = 0 then [] else ':' :: Decimal.padded 2 second)

/-- The text form of a local date and time with its offset. -/
def text (moment : OffsetDateTime) : List Char :=
  moment.civil.text ++ offsetText moment.offset

/-- The local date and time with its exact offset, as it is shown to a programmer. -/
def display (moment : OffsetDateTime) : List Char :=
  moment.civil.text ++ exactOffsetText moment.offset

/-- Reads exactly `width` digits. -/
def digitsReader : Nat → CalendarReader (List Char)
  | 0 => pure []
  | width + 1 => fun
      | [] => .error .invalid
      | digit :: text =>
          if digit.isDigit then do
            let (run, rest) ← digitsReader width text
            return (digit :: run, rest)
          else
            .error .invalid

/-- Reads one of the given characters. -/
def separatorReader (allowed : List Char) : CalendarReader Unit := fun
  | [] => .error .invalid
  | next :: rest => if next ∈ allowed then .ok ((), rest) else .error .invalid

/-- Reads a date of full width, which the calendar must have. -/
def dateReader : CalendarReader Date := do
  let year ← digitsReader 4
  separatorReader ['-']
  let month ← digitsReader 2
  separatorReader ['-']
  let day ← digitsReader 2
  expect CalendarFault.outOfRange
    (Date.ofFields? (Decimal.value year) (Decimal.value month) (Decimal.value day))

/-- Reads a time of full width, with a fraction if a point follows. -/
def timeReader : CalendarReader TimeOfDay := do
  let hour ← digitsReader 2
  separatorReader [':']
  let minute ← digitsReader 2
  separatorReader [':']
  let second ← digitsReader 2
  let nanosecond ← CalendarReader.fraction
  expect CalendarFault.outOfRange (TimeOfDay.ofClock? (Decimal.value hour) (Decimal.value minute)
    (Decimal.value second) nanosecond)

/-- Reads the two digits of the hours of an offset. A single ASCII character is too short for
them. -/
def offsetHourReader : CalendarReader Nat := fun
  | [] => .error .tooShort
  | [last] => .error (if last.toNat < 128 then .tooShort else .invalid)
  | tens :: ones :: rest =>
      if tens.isDigit && ones.isDigit then
        .ok (Decimal.value [tens, ones], rest)
      else
        .error .invalid

/-- Reads the two digits of the minutes of an offset, which are less than 60. -/
def offsetMinuteReader : CalendarReader Nat := fun text => do
  let (minute, rest) ← offsetHourReader text
  ensure (minute < 60) CalendarFault.outOfRange
  return (minute, rest)

/-- Reads the hours and minutes of an offset, in seconds. -/
def offsetClockReader : CalendarReader Int := do
  let hour ← offsetHourReader
  CalendarReader.literal ':'
  let minute ← offsetMinuteReader
  return ((hour * 3600 + minute * 60 : Nat) : Int)

/-- Reads an offset: the letter Z, or a sign with hours and minutes. The minus sign may be the
hyphen or the mathematical one. -/
def offsetReader : CalendarReader Int := fun
  | [] => .error .tooShort
  | sign :: text =>
      if sign = 'Z' ∨ sign = 'z' then
        .ok (0, text)
      else if sign = '+' then
        offsetClockReader text
      else if sign = '-' ∨ sign = '\u2212' then do
        let (offset, rest) ← offsetClockReader text
        return (-offset, rest)
      else
        .error .invalid

/-- The number of bytes below which a text cannot hold a date and a time. -/
def shortestLength : Nat := 19

/-- Reads a text that is long enough: the date, one of three separators, the time and the
offset. -/
def fieldReader : CalendarReader (Date × TimeOfDay × Int) := do
  let date ← dateReader
  separatorReader ['T', 't', ' ']
  let time ← timeReader
  let offset ← offsetReader
  return (date, time, offset)

/-- Reads the text form of a local date and time with its offset. -/
def read (text : List Char) : Except CalendarFault OffsetDateTime :=
  if byteLength text < shortestLength then
    .error .tooShort
  else do
    let (date, time, offset) ← fieldReader.whole text
    expect CalendarFault.outOfRange (ofOffset? ⟨date, time⟩ offset)

end OffsetDateTime

end TableMapping
