import TableMapping.Dialect.Identifier

/-!
# Lexemes

How the text of a statement is cut into lexemes, from left to right and each as long as possible.
A run between double quotes is one lexeme, in which two quotes stand for one. The marks of
parameters are lexemes of their own wherever they stand outside such a run. A scan is a run of a
machine that holds the lexeme under construction, so that a text can be scanned piece by piece.
-/

namespace TableMapping

/-- The lexemes of statements. -/
inductive Lexeme
  /-- A bare word. -/
  | word (letters : List Char)
  /-- A run between quotes, with doubled quotes read as one. -/
  | quoted (content : List Char)
  /-- A run after a quote that the text does not close. -/
  | unclosed (content : List Char)
  | number (digits : List Char)
  /-- The mark of a parameter: a question mark or a dollar sign, with the digits behind it. -/
  | mark (spelling : List Char)
  | symbol (character : Char)
deriving DecidableEq

namespace Lexeme

/-- The lexeme under construction. -/
inductive Pending
  /-- There is none. -/
  | gap
  | word (letters : List Char)
  | number (digits : List Char)
  | mark (spelling : List Char)
  /-- A quoted run is open. -/
  | quoted (content : List Char)
  /-- A quoted run ends here, unless another quote follows. -/
  | closing (content : List Char)
deriving DecidableEq

namespace Pending

/-- The lexeme that stands if the text ends here. -/
def finish : Pending → List Lexeme
  | gap => []
  | word letters => [.word letters]
  | number digits => [.number digits]
  | mark spelling => [.mark spelling]
  | quoted content => [.unclosed content]
  | closing content => [.quoted content]

/-- The lexeme with one more character, if it goes on with it. -/
def extend? : Pending → Char → Option Pending
  | gap, _ => none
  | word letters, next =>
      if Dialect.continuesWord next then some (word (letters ++ [next])) else none
  | number digits, next => if next.isDigit then some (number (digits ++ [next])) else none
  | mark spelling, next => if next.isDigit then some (mark (spelling ++ [next])) else none
  | quoted content, next =>
      if next = '"' then some (closing content) else some (quoted (content ++ [next]))
  | closing content, next => if next = '"' then some (quoted (content ++ ['"'])) else none

/-- No quoted run is open. -/
def isClosed : Pending → Bool
  | quoted _ => false
  | _ => true

end Pending

/-- What a character makes if no lexeme goes on with it: the lexemes it completes and the one it
begins. -/
def start (next : Char) : List Lexeme × Pending :=
  if Dialect.startsWord next then ([], .word [next])
  else if next.isDigit then ([], .number [next])
  else if next = '"' then ([], .quoted [])
  else if next = '?' ∨ next = '$' then ([], .mark [next])
  else if next.isWhitespace then ([], .gap)
  else ([.symbol next], .gap)

/-- One step of a scan: the lexemes that a character completes, and the one under construction
behind it. -/
def step (pending : Pending) (next : Char) : List Lexeme × Pending :=
  match pending.extend? next with
  | some longer => ([], longer)
  | none => (pending.finish ++ (start next).1, (start next).2)

/-- A scan of a text: the lexemes that it completes, and the one under construction at its end. -/
def run : Pending → List Char → List Lexeme × Pending
  | pending, [] => ([], pending)
  | pending, next :: rest =>
      let (done, after) := step pending next
      let (later, last) := run after rest
      (done ++ later, last)

/-- The lexemes of a text that follows the given one under construction. -/
def lexFrom (pending : Pending) (text : List Char) : List Lexeme :=
  (run pending text).1 ++ (run pending text).2.finish

/-- The lexemes of a text. -/
def lex (text : List Char) : List Lexeme := lexFrom .gap text

/-! ## Scanning piece by piece -/

@[simp]
theorem run_nil (pending : Pending) : run pending [] = ([], pending) := rfl

theorem run_append (pending : Pending) (left right : List Char) :
    run pending (left ++ right) =
      ((run pending left).1 ++ (run (run pending left).2 right).1,
        (run (run pending left).2 right).2) := by
  induction left generalizing pending with
  | nil => simp
  | cons next rest ih => simp [run, ih (step pending next).2, List.append_assoc]

/-- The text does not go on with the lexeme under construction. -/
def Stops (pending : Pending) (text : List Char) : Prop :=
  ∀ next ∈ text.head?, pending.extend? next = none

theorem stops_nil (pending : Pending) : Stops pending [] := by
  simp [Stops]

theorem stops_gap (text : List Char) : Stops .gap text := by
  simp [Stops, Pending.extend?]

theorem lexFrom_of_stops {pending : Pending} {text : List Char} (stops : Stops pending text) :
    lexFrom pending text = pending.finish ++ lex text := by
  cases text with
  | nil => simp [lex, lexFrom, Pending.finish]
  | cons next rest =>
      have stopped : pending.extend? next = none := stops next rfl
      have stepped : step pending next = (pending.finish ++ (start next).1, (start next).2) := by
        simp [step, stopped]
      have begun : step .gap next = ((start next).1, (start next).2) := by
        simp [step, Pending.extend?, Pending.finish]
      simp [lex, lexFrom, run, stepped, begun, List.append_assoc]

/-- Lexemes do not run across the border of two texts if the second does not go on with what the
first leaves under construction. -/
theorem lex_append {left right : List Char} (stops : Stops (run .gap left).2 right) :
    lex (left ++ right) = lex left ++ lex right := by
  have rest := lexFrom_of_stops stops
  simp only [lex, lexFrom] at rest ⊢
  rw [run_append]
  simp only [List.append_assoc, rest]

/-! ## Words and quoted runs -/

/-- The character goes on with no lexeme but an open quoted run. -/
def separates (next : Char) : Bool := !Dialect.continuesWord next && next ≠ '"'

theorem extend?_of_separates {pending : Pending} {next : Char}
    (closed : pending.isClosed = true) (separator : separates next = true) :
    pending.extend? next = none := by
  have other : Dialect.continuesWord next = false ∧ next ≠ '"' := by
    simpa [separates] using separator
  have digit : next.isDigit = false := by
    have word := other.1
    simp only [Dialect.continuesWord, Char.isAlphanum, Bool.or_eq_false_iff] at word
    exact word.1.2
  cases pending <;> simp_all [Pending.extend?, Pending.isClosed]

theorem stops_of_separates {pending : Pending} {next : Char} {rest : List Char}
    (closed : pending.isClosed = true) (separator : separates next = true) :
    Stops pending (next :: rest) := by
  intro first member
  obtain rfl : next = first := by simpa using member
  exact extend?_of_separates closed separator

theorem run_word (letters more : List Char) (continues : more.all Dialect.continuesWord = true) :
    run (.word letters) more = ([], .word (letters ++ more)) := by
  induction more generalizing letters with
  | nil => simp
  | cons next rest ih =>
      simp only [List.all_cons, Bool.and_eq_true] at continues
      have stepped : step (.word letters) next = ([], .word (letters ++ [next])) := by
        simp [step, Pending.extend?, continues.1]
      simp [run, stepped, ih _ continues.2]

theorem run_isWord {letters : List Char} (shape : Dialect.isWord letters = true) :
    run .gap letters = ([], .word letters) := by
  cases letters with
  | nil => simp [Dialect.isWord] at shape
  | cons first rest =>
      simp only [Dialect.isWord, Bool.and_eq_true] at shape
      have stepped : step .gap first = ([], .word [first]) := by
        simp [step, Pending.extend?, Pending.finish, start, shape.1]
      simp [run, stepped, run_word _ _ shape.2]

theorem run_doubled (content more : List Char) :
    run (.quoted content) (Quoted.doubled '"' more) = ([], .quoted (content ++ more)) := by
  induction more generalizing content with
  | nil => simp [Quoted.doubled]
  | cons next rest ih =>
      by_cases quote : next = '"'
      · simp [Quoted.doubled, quote, run, step, Pending.extend?, ih]
      · simp [Quoted.doubled, quote, run, step, Pending.extend?, ih]

theorem run_enclose (content : List Char) :
    run .gap (Quoted.enclose '"' content) = ([], .closing content) := by
  have opened : step .gap '"' = ([], .quoted []) := by decide
  have closed : run (.quoted content) ['"'] = ([], .closing content) := by
    simp [run, step, Pending.extend?]
  rw [Quoted.enclose, run, opened]
  simp [run_append, run_doubled, closed]

end Lexeme

namespace Dialect

/-- The lexeme that an identifier is written as. -/
def identifierLexeme (dialect : Dialect) (name : List Char) : Lexeme :=
  if isWord name && !dialect.isReserved name then .word name else .quoted name

/-- An identifier is one lexeme, whatever its name is. -/
theorem run_identifier (dialect : Dialect) (name : List Char) :
    (Lexeme.run .gap (dialect.identifier name)).1 = [] ∧
      (Lexeme.run .gap (dialect.identifier name)).2.finish = [dialect.identifierLexeme name] ∧
      (Lexeme.run .gap (dialect.identifier name)).2.isClosed = true := by
  unfold identifier identifierLexeme
  split
  · rename_i bare
    have shape : isWord name = true := (Bool.and_eq_true_iff.mp bare).1
    simp [Lexeme.run_isWord shape, Lexeme.Pending.finish, Lexeme.Pending.isClosed]
  · simp [identifierQuote, Lexeme.run_enclose, Lexeme.Pending.finish, Lexeme.Pending.isClosed]

end Dialect

end TableMapping
