import TableMapping.Check
import TableMapping.Text.Character
import TableMapping.Text.Numeral

/-!
# Reading calendar texts

A reader takes what it recognises from the front of a text. The first fault met, from left to
right, is the one reported.
-/

namespace TableMapping

/-- The reasons why a text is not a date or a time. -/
inductive CalendarFault
  /-- The text ends before it is complete. -/
  | tooShort
  /-- Something follows the complete text. -/
  | tooLong
  /-- A character stands where the format has another one. -/
  | invalid
  /-- A number has a value that its field cannot take. -/
  | outOfRange
deriving DecidableEq, Repr

namespace CalendarFault

/-- The wording of a fault. -/
def message : CalendarFault → String
  | .tooShort => "premature end of input"
  | .tooLong => "trailing input"
  | .invalid => "input contains invalid characters"
  | .outOfRange => "input is out of range"

end CalendarFault

/-- A function from a text to what stands at its front and the rest. -/
abbrev CalendarReader (α : Type) := StateT (List Char) (Except CalendarFault) α

namespace CalendarReader

/-- Reads the given character. -/
def literal (expected : Char) : CalendarReader Unit := fun
  | [] => .error .tooShort
  | next :: rest => if next = expected then .ok ((), rest) else .error .invalid

/-- Reads any number of blanks. -/
def blanks : CalendarReader Unit := fun text => .ok ((), skipBlanks text)

/-- Reads the longest run of digits, at most `limit` of them and at least one. -/
def digitRun (limit : Nat) : CalendarReader (List Char) := fun text =>
  match text, (text.take limit).takeWhile Char.isDigit with
  | [], _ => .error .tooShort
  | _ :: _, [] => .error .invalid
  | text, run => .ok (run, text.drop run.length)

/-- Reads a number of one to `limit` digits that lies between `low` and `high`. -/
def bounded (limit low high : Nat) : CalendarReader Nat := do
  let number := Decimal.value (← digitRun limit)
  ensure (low ≤ number ∧ number ≤ high) CalendarFault.outOfRange
  return number

/-- Reads a number of one or two digits between `low` and `high`, after any blanks. -/
def field (low high : Nat) : CalendarReader Nat := do
  blanks
  bounded 2 low high

/-- Reads the fraction of a second, if a point stands at the front, as nanoseconds. The first nine
digits count, and any more are skipped. -/
def fraction : CalendarReader Nat := fun
  | '.' :: text => do
      let (run, rest) ← digitRun 9 text
      return (Decimal.value run * Nat.pow 10 (9 - run.length), rest.dropWhile Char.isDigit)
  | text => .ok (0, text)

/-- Reads a whole text: nothing may follow what the reader takes. -/
def whole {α : Type} (reader : CalendarReader α) (text : List Char) : Except CalendarFault α := do
  match ← reader text with
  | (value, []) => return value
  | (_, _ :: _) => throw .tooLong

end CalendarReader

end TableMapping
