import TableMapping.Calendar.Reader

/-!
# Times of day

Times of day to the nanosecond, leap seconds included, and their text form: hours, minutes and
seconds joined by colons, then the fraction of the second in the fewest of 0, 3, 6 or 9 digits
that are exact. A leap second is held as the second that it follows, with a nanosecond count of
10^9 or more, and its text form has the second after, which is 60 at the end of a minute. It may
follow any second, since a clock may be ahead of UTC by seconds, but only one at the end of a minute
can be given by its fields or read.
-/

namespace TableMapping

/-- The nanoseconds of one second. -/
def nanosecondsPerSecond : Nat := 1000000000

/-- A time of day. -/
structure TimeOfDay where
  /-- The hour. -/
  hour : Nat
  /-- The minute. -/
  minute : Nat
  /-- The second. -/
  second : Nat
  /-- The nanoseconds since the start of the second, past one second within a leap second. -/
  nanosecond : Nat
  /-- A day has 24 hours. -/
  hour_range : hour < 24
  /-- An hour has 60 minutes. -/
  minute_range : minute < 60
  /-- A minute has 60 seconds, apart from a leap second. -/
  second_range : second < 60
  /-- A leap second is one second long. -/
  nanosecond_range : nanosecond < 2 * nanosecondsPerSecond
deriving DecidableEq, Repr

namespace TimeOfDay

/-- The time with the given hour, minute, second and nanoseconds, if a day has it. A leap second is
one only at the end of a minute. -/
def ofFields? (hour minute second nanosecond : Nat) : Option TimeOfDay :=
  if valid : (hour < 24 ∧ minute < 60 ∧ second < 60 ∧ nanosecond < 2 * nanosecondsPerSecond) ∧
      (nanosecondsPerSecond ≤ nanosecond → second = 59) then
    some ⟨hour, minute, second, nanosecond, valid.1.1, valid.1.2.1, valid.1.2.2.1, valid.1.2.2.2⟩
  else
    none

/-- The time as a clock shows it: second 60 is the leap second after second 59. -/
def ofClock? (hour minute second nanosecond : Nat) : Option TimeOfDay :=
  if second = 60 then
    ofFields? hour minute 59 (nanosecond + nanosecondsPerSecond)
  else
    ofFields? hour minute second nanosecond

/-- The time lies within a leap second. -/
def isLeap (time : TimeOfDay) : Bool := nanosecondsPerSecond ≤ time.nanosecond

/-- The second that a clock shows: within a leap second, the one after the second that it
follows. -/
def clockSecond (time : TimeOfDay) : Nat := time.second + if time.isLeap then 1 else 0

/-- The nanoseconds since the start of the second that a clock shows. -/
def clockNanosecond (time : TimeOfDay) : Nat := time.nanosecond % nanosecondsPerSecond

/-- The text of a fraction of a second: a point and the fewest of 3, 6 or 9 digits that are exact,
or nothing if there is no fraction. -/
def fractionText (nanosecond : Nat) : List Char :=
  if nanosecond = 0 then
    []
  else if nanosecond % 1000000 = 0 then
    '.' :: Decimal.padded 3 (nanosecond / 1000000)
  else if nanosecond % 1000 = 0 then
    '.' :: Decimal.padded 6 (nanosecond / 1000)
  else
    '.' :: Decimal.padded 9 nanosecond

/-- The text form of a time. -/
def text (time : TimeOfDay) : List Char :=
  Decimal.padded 2 time.hour ++ ':' :: Decimal.padded 2 time.minute ++
    ':' :: Decimal.padded 2 time.clockSecond ++ fractionText time.clockNanosecond

/-- Reads the hour, minute, second and nanoseconds of a time. -/
def fieldReader : CalendarReader (Nat × Nat × Nat × Nat) := do
  let hour ← CalendarReader.field 0 23
  CalendarReader.literal ':'
  let minute ← CalendarReader.field 0 59
  CalendarReader.literal ':'
  let second ← CalendarReader.field 0 60
  let nanosecond ← CalendarReader.fraction
  return (hour, minute, second, nanosecond)

/-- Reads the text form of a time. -/
def read (text : List Char) : Except CalendarFault TimeOfDay := do
  let (hour, minute, second, nanosecond) ← fieldReader.whole text
  expect CalendarFault.outOfRange (ofClock? hour minute second nanosecond)

end TimeOfDay

end TableMapping
