import TableMapping.Proofs.Reading.Lexeme
import TableMapping.Statement.Token

/-!
# Spelled tokens

The text of a list of tokens falls apart into the lexemes of the tokens: what stands between two
tokens keeps the lexemes of the one from running into those of the other. In particular the marks
of parameters in a text are those of its parameter tokens, whatever the identifiers are.
-/

namespace TableMapping

namespace Lexeme

theorem run_mark (spelling more : List Char) (digits : ∀ next ∈ more, next.isDigit = true) :
    run (.mark spelling) more = ([], .mark (spelling ++ more)) := by
  induction more generalizing spelling with
  | nil => simp
  | cons next rest ih =>
      have stepped : step (.mark spelling) next = ([], .mark (spelling ++ [next])) := by
        simp [step, Pending.extend?, digits next List.mem_cons_self]
      simp [run, stepped, ih _ fun later member => digits later (List.mem_cons_of_mem next member)]

theorem run_placeholder (dialect : Dialect) (number : Nat) :
    run .gap (dialect.placeholder number) = ([], .mark (dialect.placeholder number)) := by
  cases dialect with
  | postgresql =>
      have opened : step .gap '$' = ([], .mark ['$']) := by decide
      have digits : ∀ next ∈ Decimal.digits number, next.isDigit = true := fun next member =>
        Nat.isDigit_of_mem_toDigits (by decide) (by decide) member
      simp [Dialect.placeholder, run, opened, run_mark _ _ digits]
  | h2 => rfl
  | sqlite => rfl

/-- The marks of parameters among lexemes. -/
def marks (lexemes : List Lexeme) : List (List Char) :=
  lexemes.filterMap fun
    | mark spelling => some spelling
    | _ => none

@[simp]
theorem marks_append (left right : List Lexeme) :
    marks (left ++ right) = marks left ++ marks right :=
  List.filterMap_append

end Lexeme

namespace Token

open Lexeme (lex run)

/-- The lexemes of a token, given the number of the next parameter. -/
def lexemes (dialect : Dialect) (number : Nat) (token : Token) : List Lexeme :=
  lex (token.spelling dialect number)

/-- The lexemes of a list of tokens, given the number of the next parameter. -/
def allLexemes (dialect : Dialect) (number : Nat) : List Token → List Lexeme
  | [] => []
  | token :: rest =>
      token.lexemes dialect number ++ allLexemes dialect (number + (values [token]).length) rest

theorem isClosed_spelling (dialect : Dialect) (number : Nat) (token : Token) :
    (run .gap (token.spelling dialect number)).2.isClosed = true := by
  cases token with
  | keyword word => cases word <;> rfl
  | storage type => cases type <;> rfl
  | identifier name => exact (dialect.run_identifier name.toList).2.2
  | parameter value => rw [spelling, Lexeme.run_placeholder]; rfl
  | comparison operator => cases operator <;> rfl
  | one | point | comma | opening | closing => rfl

theorem run_spelling_of_hugsNext (dialect : Dialect) (number : Nat) {token : Token}
    (hugs : token.hugsNext = true) : (run .gap (token.spelling dialect number)).2 = .gap := by
  cases token with
  | point | opening => rfl
  | keyword | storage | identifier | parameter | comparison | one | comma | closing =>
      simp [hugsNext] at hugs

theorem spelling_of_hugsPrevious (dialect : Dialect) (number : Nat) {token : Token}
    (hugs : token.hugsPrevious = true) :
    ∃ next, token.spelling dialect number = [next] ∧ Lexeme.separates next = true := by
  cases token with
  | point => exact ⟨'.', rfl, by decide⟩
  | comma => exact ⟨',', rfl, by decide⟩
  | closing => exact ⟨')', rfl, by decide⟩
  | keyword | storage | identifier | parameter | comparison | one | opening =>
      simp [hugsPrevious] at hugs

/-- What follows a token in a text does not go on with its last lexeme. -/
theorem stops_spelling (dialect : Dialect) (number next : Nat) (token : Token)
    (rest : List Token) :
    Lexeme.Stops (run .gap (token.spelling dialect number)).2
      (token.gap rest ++ text dialect next rest) := by
  have closed := isClosed_spelling dialect number token
  cases rest with
  | nil => exact Lexeme.stops_nil _
  | cons follower rest =>
      by_cases spaced : (token.hugsNext || follower.hugsPrevious) = true
      · simp only [gap, spaced, if_true, List.nil_append]
        rcases Bool.or_eq_true_iff.mp spaced with hugs | hugs
        · rw [run_spelling_of_hugsNext dialect number hugs]
          exact Lexeme.stops_gap _
        · obtain ⟨first, spelled, separator⟩ := spelling_of_hugsPrevious dialect next hugs
          rw [text, spelled]
          exact Lexeme.stops_of_separates closed separator
      · rw [gap, if_neg spaced]
        exact Lexeme.stops_of_separates closed (by decide)

theorem lex_gap_append (token : Token) (rest : List Token) (text : List Char) :
    lex (token.gap rest ++ text) = lex text := by
  have blank : token.gap rest = [] ∨ token.gap rest = [' '] := by
    cases rest with
    | nil => exact Or.inl rfl
    | cons follower rest =>
        by_cases hugs : (token.hugsNext || follower.hugsPrevious) = true
        · exact Or.inl (if_pos hugs)
        · exact Or.inr (if_neg hugs)
  rcases blank with none | one
  · rw [none, List.nil_append]
  · have spaced : Lexeme.Stops (run .gap [' ']).2 text := Lexeme.stops_gap text
    rw [one, Lexeme.lex_append spaced]
    rfl

/-- The lexemes of a text are those of its tokens, one token after the other. -/
theorem lex_text (dialect : Dialect) (number : Nat) (tokens : List Token) :
    lex (text dialect number tokens) = allLexemes dialect number tokens := by
  induction tokens generalizing number with
  | nil => rfl
  | cons token rest ih =>
      rw [text, allLexemes, List.append_assoc,
        Lexeme.lex_append (stops_spelling dialect number _ token rest), lex_gap_append, ih, lexemes]

/-! ## Single tokens -/

theorem lexemes_identifier (dialect : Dialect) (number : Nat) (name : String) :
    lexemes dialect number (identifier name) = [dialect.identifierLexeme name.toList] := by
  obtain ⟨done, last, -⟩ := dialect.run_identifier name.toList
  simp [lexemes, spelling, lex, Lexeme.lexFrom, done, last]

theorem lexemes_parameter (dialect : Dialect) (number : Nat) (value : SqlValue) :
    lexemes dialect number (parameter value) = [.mark (dialect.placeholder number)] := by
  simp [lexemes, spelling, lex, Lexeme.lexFrom, Lexeme.run_placeholder, Lexeme.Pending.finish]

theorem marks_lexemes (dialect : Dialect) (number : Nat) (token : Token) :
    Lexeme.marks (token.lexemes dialect number) =
      (List.range' number (values [token]).length).map dialect.placeholder := by
  cases token with
  | keyword word => cases word <;> rfl
  | storage type => cases type <;> rfl
  | identifier name =>
      rw [lexemes_identifier, Dialect.identifierLexeme]
      split <;> rfl
  | parameter value => rw [lexemes_parameter]; rfl
  | comparison operator => cases operator <;> rfl
  | one | point | comma | opening | closing => rfl

/-- The marks in a text are those of consecutive parameters, one for each value. -/
theorem marks_lex_text (dialect : Dialect) (number : Nat) (tokens : List Token) :
    Lexeme.marks (lex (text dialect number tokens)) =
      (List.range' number (values tokens).length).map dialect.placeholder := by
  rw [lex_text]
  induction tokens generalizing number with
  | nil => rfl
  | cons token rest ih =>
      have counted : (values (token :: rest)).length =
          (values [token]).length + (values rest).length := by
        rw [← List.length_append, ← values_append, List.singleton_append]
      rw [allLexemes, Lexeme.marks_append, marks_lexemes, ih, counted, ← List.map_append,
        List.range'_append_1]

end Token

end TableMapping
