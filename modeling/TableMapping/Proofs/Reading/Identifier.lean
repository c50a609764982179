import TableMapping.Proofs.Dialect.Identifier

/-!
# Identifiers that are read back

Whatever a name is made of, the identifier that is written for it is read as one lexeme that stands
for this name, and what follows is read as if it stood alone, provided that it goes on neither with
a word nor with a quoted run. A name is written without quotes exactly if it has the form of a plain
word and is none of the words that the dialect reserves, in whatever case.
-/

namespace TableMapping

/-! ## Plain words -/

/-- The character is an ASCII letter or an underscore. -/
def BeginsPlainWord (character : Char) : Prop :=
  'A' ≤ character ∧ character ≤ 'Z' ∨ 'a' ≤ character ∧ character ≤ 'z' ∨ character = '_'

/-- The character is an ASCII letter, an ASCII digit or an underscore. -/
def ContinuesPlainWord (character : Char) : Prop :=
  BeginsPlainWord character ∨ '0' ≤ character ∧ character ≤ '9'

instance (character : Char) : Decidable (BeginsPlainWord character) :=
  inferInstanceAs (Decidable (_ ∨ _ ∨ _))

instance (character : Char) : Decidable (ContinuesPlainWord character) :=
  inferInstanceAs (Decidable (_ ∨ _))

/-- The name is a character that begins a plain word with others behind it that continue one. -/
def PlainWord (name : List Char) : Prop :=
  ∃ first rest, name = first :: rest ∧ BeginsPlainWord first ∧
    ∀ next ∈ rest, ContinuesPlainWord next

namespace Dialect

theorem startsWord_iff {character : Char} :
    startsWord character = true ↔ BeginsPlainWord character := by
  rw [startsWord, Bool.or_eq_true, isAlpha_iff, decide_eq_true_eq, or_assoc]
  exact Iff.rfl

theorem continuesWord_iff {character : Char} :
    continuesWord character = true ↔ ContinuesPlainWord character := by
  have spelled : continuesWord character = (startsWord character || character.isDigit) := by
    simp only [continuesWord, startsWord, Char.isAlphanum]
    rw [Bool.or_assoc, Bool.or_assoc, Bool.or_comm character.isDigit]
  rw [spelled, Bool.or_eq_true, startsWord_iff, isDigit_iff]
  exact Iff.rfl

theorem isWord_iff {name : List Char} : isWord name = true ↔ PlainWord name := by
  cases name with
  | nil =>
      refine iff_of_false Bool.false_ne_true ?_
      rintro ⟨first, rest, impossible, -⟩
      cases impossible
  | cons first rest =>
      simp only [isWord, PlainWord, Bool.and_eq_true, List.all_eq_true, startsWord_iff,
        continuesWord_iff, List.cons.injEq]
      constructor
      · rintro ⟨begins, continues⟩
        exact ⟨first, rest, ⟨rfl, rfl⟩, begins, continues⟩
      · rintro ⟨_, _, ⟨rfl, rfl⟩, begins, continues⟩
        exact ⟨begins, continues⟩

/-! ## Reserved words -/

theorem folded_of_mem_reserved (dialect : Dialect) :
    ∀ word ∈ dialect.reserved, folded word.toList = word.toList := by
  cases dialect <;> decide

/-- The name is one of the reserved words but for the case of its letters. -/
def Reserves (dialect : Dialect) (name : List Char) : Prop :=
  ∃ word ∈ dialect.reserved, folded word.toList = folded name

instance (dialect : Dialect) (name : List Char) : Decidable (dialect.Reserves name) :=
  inferInstanceAs (Decidable (∃ word ∈ dialect.reserved, _))

theorem isReserved_iff {dialect : Dialect} {name : List Char} :
    dialect.isReserved name = true ↔ dialect.Reserves name := by
  rw [isReserved, List.contains_iff_mem]
  constructor
  · intro listed
    refine ⟨_, listed, ?_⟩
    rw [folded_of_mem_reserved dialect _ listed, String.toList_ofList]
    rfl
  · rintro ⟨word, listed, same⟩
    rw [folded_of_mem_reserved dialect word listed] at same
    have spelled : String.ofList (folded name) = word := by
      rw [← same, String.ofList_toList]
    exact spelled ▸ listed

/-! ## Bare and quoted identifiers -/

variable {dialect : Dialect} {name : List Char}

theorem writesBare_iff : dialect.WritesBare name ↔ PlainWord name ∧ ¬dialect.Reserves name := by
  rw [WritesBare, isWord_iff, ← Bool.not_eq_true, isReserved_iff]

theorem head?_identifier_ne_quote_iff :
    (dialect.identifier name).head? ≠ some '"' ↔ dialect.WritesBare name := by
  by_cases bare : dialect.WritesBare name
  · refine iff_of_true ?_ bare
    rw [identifier_of_bare bare]
    obtain ⟨first, rest, rfl, begins, -⟩ := isWord_iff.mp bare.1
    intro quote
    obtain rfl := Option.some.inj quote
    revert begins
    decide
  · refine iff_of_false ?_ bare
    rw [identifier_of_not_bare bare]
    exact fun different => different rfl

end Dialect

/-! ## Lexemes that stand for names -/

namespace Lexeme

/-- The name that a lexeme stands for in a dialect. A bare word stands for itself unless it is
reserved, and a quoted run stands for what is between its quotes. -/
def name? (dialect : Dialect) : Lexeme → Option (List Char)
  | word letters => if dialect.Reserves letters then none else some letters
  | quoted content => some content
  | unclosed _ | number _ | mark _ | symbol _ => none

end Lexeme

/-- The text goes on neither with a word nor with a quoted run. -/
def EndsIdentifier (text : List Char) : Prop :=
  ∀ next ∈ text.head?, next ≠ '"' ∧ ¬ContinuesPlainWord next

namespace Dialect

variable {dialect : Dialect} {name rest : List Char}

theorem name?_identifierLexeme :
    (dialect.identifierLexeme name).name? dialect = some name := by
  unfold identifierLexeme
  split
  · rename_i bare
    have unreserved : ¬dialect.Reserves name := by
      rw [← isReserved_iff]
      simpa using (Bool.and_eq_true_iff.mp bare).2
    exact if_neg unreserved
  · rfl

theorem lex_identifier_append (ends : EndsIdentifier rest) :
    Lexeme.lex (dialect.identifier name ++ rest) =
      dialect.identifierLexeme name :: Lexeme.lex rest := by
  obtain ⟨completed, pending, closed⟩ := dialect.run_identifier name
  have alone : Lexeme.lex (dialect.identifier name) = [dialect.identifierLexeme name] := by
    rw [Lexeme.lex, Lexeme.lexFrom, completed, pending, List.nil_append]
  have stops : Lexeme.Stops (Lexeme.run .gap (dialect.identifier name)).2 rest := by
    intro next first
    obtain ⟨unquoted, no_word⟩ := ends next first
    refine Lexeme.extend?_of_separates closed ?_
    rw [← continuesWord_iff, Bool.not_eq_true] at no_word
    simp [Lexeme.separates, no_word, unquoted]
  rw [Lexeme.lex_append stops, alone]
  rfl

end Dialect

/-- Whatever a name is made of, its identifier in front of a text that goes on neither with a word
nor with a quoted run is read as one lexeme that stands for the name. So different names have
different identifiers. An identifier is without quotes only if it is the name itself, which then has
the form of a plain word and is no reserved word in whatever case, and otherwise it is the name
between quotes. -/
theorem identifiers_read_back (dialect : Dialect) :
    (∀ name rest : List Char, EndsIdentifier rest →
      ∃ lexeme, Lexeme.lex (dialect.identifier name ++ rest) = lexeme :: Lexeme.lex rest ∧
        lexeme.name? dialect = some name) ∧
      (∀ name other : List Char, name ≠ other →
        dialect.identifier name ≠ dialect.identifier other) ∧
      ∀ name : List Char,
        ((dialect.identifier name).head? ≠ some '"' ↔
          PlainWord name ∧ ¬dialect.Reserves name) ∧
        ((dialect.identifier name).head? ≠ some '"' → dialect.identifier name = name) ∧
        ((dialect.identifier name).head? = some '"' →
          dialect.identifier name = Quoted.enclose '"' name) := by
  refine ⟨fun name rest ends => ?_, fun name other => ?_, fun name => ⟨?_, ?_, ?_⟩⟩
  · exact ⟨_, Dialect.lex_identifier_append ends, Dialect.name?_identifierLexeme⟩
  · exact mt fun same => dialect.identifier_injective same
  · exact Dialect.head?_identifier_ne_quote_iff.trans Dialect.writesBare_iff
  · intro unquoted
    exact Dialect.identifier_of_bare (Dialect.head?_identifier_ne_quote_iff.mp unquoted)
  · intro quoted
    refine Dialect.identifier_of_not_bare fun bare => ?_
    exact Dialect.head?_identifier_ne_quote_iff.mpr bare quoted

/-- A name that is reserved in another case and one that is nothing but a quote are read back in
front of what may stand behind them. -/
theorem hostile_identifiers_read_back :
    (∃ lexeme, Lexeme.lex (Dialect.postgresql.identifier "oRdEr".toList ++ ", b".toList) =
        lexeme :: Lexeme.lex ", b".toList ∧
      lexeme.name? .postgresql = some "oRdEr".toList) ∧
      ∃ lexeme, Lexeme.lex (Dialect.sqlite.identifier "\"".toList ++ ".b".toList) =
          lexeme :: Lexeme.lex ".b".toList ∧
        lexeme.name? .sqlite = some "\"".toList := by
  constructor
  · refine (identifiers_read_back .postgresql).1 _ _ fun next first => ?_
    obtain rfl : ',' = next := Option.some.inj first
    decide
  · refine (identifiers_read_back .sqlite).1 _ _ fun next first => ?_
    obtain rfl : '.' = next := Option.some.inj first
    decide

end TableMapping
