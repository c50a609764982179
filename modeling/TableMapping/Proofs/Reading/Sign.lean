import TableMapping.Proofs.Statement.Parameters

/-!
# Signs

What the lexemes of a compiled statement stand for: a bare word is a keyword if the dialect
reserves it and a name if not, a quoted run is a name, and the mark of a parameter stands for the
value of the parameter. Every compiled statement can be read so, and its signs are those of its
tokens.
-/

namespace TableMapping

/-- What a lexeme stands for. -/
inductive Sign
  /-- A reserved word, in lower case. -/
  | keyword (word : String)
  | name (name : String)
  | number (digits : List Char)
  | value (value : SqlValue)
  | symbol (character : Char)
deriving DecidableEq

namespace Sign

/-- What a bare word stands for. -/
def ofWord (dialect : Dialect) (letters : List Char) : Sign :=
  if dialect.isReserved letters then
    keyword (String.ofList (letters.map Char.toLower))
  else
    name (String.ofList letters)

/-- What a lexeme stands for by itself. The mark of a parameter does not stand for anything by
itself. -/
def ofLexeme? (dialect : Dialect) : Lexeme → Option Sign
  | .word letters => some (ofWord dialect letters)
  | .quoted content => some (name (String.ofList content))
  | .number digits => some (number digits)
  | .symbol character => some (symbol character)
  | .mark _ | .unclosed _ => none

/-- The position of the parameter with the given mark, behind the given number of marks: a numbered
mark names it, and any other mark means the next one. -/
def position? (seen : Nat) : List Char → Option Nat
  | ['?'] => some seen
  | '$' :: digit :: digits => some (Decimal.value (digit :: digits) - 1)
  | _ => none

/-- What lexemes stand for behind the given number of marks of parameters. -/
def read (dialect : Dialect) (parameters : List SqlValue) (seen : Nat) :
    List Lexeme → Option (List Sign)
  | [] => some []
  | .mark spelling :: rest => do
      let position ← position? seen spelling
      let bound ← parameters[position]?
      return value bound :: (← read dialect parameters (seen + 1) rest)
  | lexeme :: rest => do
      return (← ofLexeme? dialect lexeme) :: (← read dialect parameters seen rest)

theorem position?_placeholder (dialect : Dialect) (seen : Nat) :
    position? seen (dialect.placeholder (seen + 1)) = some seen := by
  cases dialect with
  | postgresql =>
      have number := Decimal.value_digits (seen + 1)
      cases digits : Decimal.digits (seen + 1) with
      | nil => simp [digits, Decimal.value] at number
      | cons digit digits' =>
          rw [digits] at number
          simp [Dialect.placeholder, digits, position?, number]
  | h2 | sqlite => rfl

/-- Lexemes that stand for something by themselves do so wherever they stand. -/
theorem read_append_of_mapM {dialect : Dialect} {lexemes : List Lexeme} {signs : List Sign}
    (plain : lexemes.mapM (ofLexeme? dialect) = some signs) (parameters : List SqlValue)
    (seen : Nat) (rest : List Lexeme) :
    read dialect parameters seen (lexemes ++ rest) =
      (read dialect parameters seen rest).map (signs ++ ·) := by
  induction lexemes generalizing signs with
  | nil =>
      obtain rfl : [] = signs := by simpa using plain
      simp
  | cons lexeme lexemes ih =>
      obtain ⟨sign, stands, signs', plain', rfl⟩ :
          ∃ sign, ofLexeme? dialect lexeme = some sign ∧ ∃ signs',
            lexemes.mapM (ofLexeme? dialect) = some signs' ∧ sign :: signs' = signs := by
        simpa [List.mapM_cons, Option.bind_eq_some_iff] using plain
      have unmarked : ∀ spelling, lexeme = .mark spelling → False := by
        rintro spelling rfl
        simp [ofLexeme?] at stands
      rw [List.cons_append, read.eq_3 _ _ _ _ _ unmarked, stands, ih plain']
      cases read dialect parameters seen rest <;> rfl

/-- What a lexeme stands for in every dialect, as far as that is known from the words that all of
them reserve. -/
def common? : Lexeme → Option Sign
  | .word letters =>
      if Dialect.commonReserved.contains (String.ofList (letters.map Char.toLower)) then
        some (keyword (String.ofList (letters.map Char.toLower)))
      else
        none
  | .number digits => some (number digits)
  | .symbol character => some (symbol character)
  | .quoted _ | .mark _ | .unclosed _ => none

theorem ofLexeme?_of_common? {lexeme : Lexeme} {sign : Sign} (common : common? lexeme = some sign)
    (dialect : Dialect) : ofLexeme? dialect lexeme = some sign := by
  cases lexeme with
  | word letters =>
      simp only [common?, Option.ite_none_right_eq_some] at common
      obtain ⟨shared, same⟩ := common
      obtain rfl := Option.some.inj same
      have reserved : dialect.isReserved letters = true := by
        simp only [Dialect.isReserved, Dialect.reserved, List.contains_append, shared,
          Bool.true_or]
      simp [ofLexeme?, ofWord, reserved]
  | number | symbol => exact common
  | quoted | mark | unclosed => simp [common?] at common

theorem mapM_ofLexeme?_of_common? {lexemes : List Lexeme} {signs : List Sign}
    (common : lexemes.mapM common? = some signs) (dialect : Dialect) :
    lexemes.mapM (ofLexeme? dialect) = some signs := by
  induction lexemes generalizing signs with
  | nil => simpa using common
  | cons lexeme lexemes ih =>
      obtain ⟨sign, stands, signs', plain, rfl⟩ :
          ∃ sign, common? lexeme = some sign ∧ ∃ signs',
            lexemes.mapM common? = some signs' ∧ sign :: signs' = signs := by
        simpa [List.mapM_cons, Option.bind_eq_some_iff] using common
      rw [List.mapM_cons, ofLexeme?_of_common? stands dialect, ih plain]
      rfl

end Sign

/-! ## Keywords and operators -/

namespace Keyword

/-- What the words of a keyword stand for. Not every word of a keyword is reserved. -/
def signs : Keyword → List Sign
  | createTable => [.keyword "create", .keyword "table", .name "IF", .keyword "not",
      .keyword "exists"]
  | notNull => [.keyword "not", .keyword "null"]
  | constraint => [.keyword "constraint"]
  | primaryKey => [.keyword "primary", .name "KEY"]
  | foreignKey => [.keyword "foreign", .name "KEY"]
  | references => [.keyword "references"]
  | insertInto => [.keyword "insert", .keyword "into"]
  | defaultValues => [.keyword "default", .keyword "values"]
  | values => [.keyword "values"]
  | select => [.keyword "select"]
  | source => [.keyword "from"]
  | innerJoin => [.keyword "inner", .keyword "join"]
  | leftOuterJoin => [.keyword "left", .keyword "outer", .keyword "join"]
  | on => [.keyword "on"]
  | filter => [.keyword "where"]
  | filterExists => [.keyword "where", .keyword "exists"]
  | and => [.keyword "and"]
  | or => [.keyword "or"]
  | isNull => [.keyword "is", .keyword "null"]
  | isNotNull => [.keyword "is", .keyword "not", .keyword "null"]
  | update => [.keyword "update"]
  | set => [.keyword "set"]
  | deleteFrom => [.keyword "delete", .keyword "from"]

theorem mapM_spelling (dialect : Dialect) (word : Keyword) :
    (Lexeme.lex word.spelling.toList).mapM (Sign.ofLexeme? dialect) = some word.signs := by
  cases word with
  | createTable | primaryKey | foreignKey => cases dialect <;> rfl
  | _ => exact Sign.mapM_ofLexeme?_of_common? rfl dialect

end Keyword

namespace Comparison

/-- What the spelling of a comparison stands for. -/
def signs : Comparison → List Sign
  | eq => [.symbol '=']
  | notEq => [.symbol '<', .symbol '>']
  | lt => [.symbol '<']
  | le => [.symbol '<', .symbol '=']
  | gt => [.symbol '>']
  | ge => [.symbol '>', .symbol '=']
  | like => [.keyword "like"]

theorem mapM_spelling (dialect : Dialect) (operator : Comparison) :
    (Lexeme.lex operator.spelling.toList).mapM (Sign.ofLexeme? dialect) = some operator.signs := by
  cases operator <;> exact Sign.mapM_ofLexeme?_of_common? rfl dialect

end Comparison

namespace StorageType

/-- What the words of a storage type stand for. -/
def signs (dialect : Dialect) (type : StorageType) : List Sign :=
  (Lexeme.lex type.spelling.toList).filterMap (Sign.ofLexeme? dialect)

theorem mapM_spelling (dialect : Dialect) (type : StorageType) :
    (Lexeme.lex type.spelling.toList).mapM (Sign.ofLexeme? dialect) =
      some (type.signs dialect) := by
  cases type <;> rfl

end StorageType

/-! ## Tokens -/

namespace Token

/-- What the lexemes of a token stand for. -/
def signs (dialect : Dialect) : Token → List Sign
  | keyword word => word.signs
  | storage type => type.signs dialect
  | identifier name => [.name name]
  | parameter value => [.value (dialect.bind value)]
  | comparison operator => operator.signs
  | one => [.number ['1']]
  | point => [.symbol '.']
  | comma => [.symbol ',']
  | opening => [.symbol '(']
  | closing => [.symbol ')']

/-- What the lexemes of a list of tokens stand for. -/
def allSigns (dialect : Dialect) (tokens : List Token) : List Sign :=
  tokens.flatMap (signs dialect)

@[simp]
theorem allSigns_nil (dialect : Dialect) : allSigns dialect [] = [] := rfl

@[simp]
theorem allSigns_cons (dialect : Dialect) (token : Token) (rest : List Token) :
    allSigns dialect (token :: rest) = token.signs dialect ++ allSigns dialect rest := rfl

@[simp]
theorem allSigns_append (dialect : Dialect) (before after : List Token) :
    allSigns dialect (before ++ after) = allSigns dialect before ++ allSigns dialect after :=
  List.flatMap_append

theorem mem_allSigns_listing {dialect : Dialect} {items : List (List Token)} {sign : Sign}
    (member : sign ∈ allSigns dialect (listing items)) :
    sign = .symbol ',' ∨ ∃ item ∈ items, sign ∈ allSigns dialect item := by
  induction items with
  | nil => simp [listing] at member
  | cons item rest ih =>
      cases rest with
      | nil => exact Or.inr ⟨item, List.mem_cons_self, member⟩
      | cons next rest =>
          simp only [listing, allSigns_append, allSigns_cons, signs, List.mem_append,
            List.mem_singleton] at member
          rcases member with own | comma | later
          · exact Or.inr ⟨item, List.mem_cons_self, own⟩
          · exact Or.inl comma
          · rcases ih later with comma | ⟨other, listed, inside⟩
            · exact Or.inl comma
            · exact Or.inr ⟨other, List.mem_cons_of_mem item listed, inside⟩

/-- Every token but a parameter stands for something by itself. -/
theorem mapM_ofLexeme? (dialect : Dialect) (number : Nat) {token : Token}
    (plain : token.value? = none) :
    (token.lexemes dialect number).mapM (Sign.ofLexeme? dialect) = some (token.signs dialect) := by
  cases token with
  | keyword word => exact word.mapM_spelling dialect
  | storage type => exact type.mapM_spelling dialect
  | identifier name =>
      have stands : Sign.ofLexeme? dialect (dialect.identifierLexeme name.toList) =
          some (.name name) := by
        unfold Dialect.identifierLexeme
        split
        · rename_i bare
          have free : dialect.isReserved name.toList = false := by
            simpa using (Bool.and_eq_true_iff.mp bare).2
          simp [Sign.ofLexeme?, Sign.ofWord, free]
        · simp [Sign.ofLexeme?]
      rw [lexemes_identifier, List.mapM_cons, stands]
      rfl
  | parameter value => simp [value?] at plain
  | comparison operator => exact operator.mapM_spelling dialect
  | one | point | comma | opening | closing => rfl

/-- The lexemes of tokens stand for the signs of the tokens if the parameters are the values of the
tokens in the form in which the database takes them. -/
theorem read_allLexemes (dialect : Dialect) (before : List SqlValue) (tokens : List Token) :
    Sign.read dialect (before ++ (values tokens).map dialect.bind) before.length
        (allLexemes dialect (before.length + 1) tokens) =
      some (allSigns dialect tokens) := by
  induction tokens generalizing before with
  | nil => rfl
  | cons token rest ih =>
      cases found : token.value? with
      | none =>
          have same : values (token :: rest) = values rest := by simp [values_cons, found]
          have unnumbered : (values [token]).length = 0 := by simp [values_cons, found]
          rw [allLexemes, same, unnumbered,
            Sign.read_append_of_mapM (mapM_ofLexeme? dialect _ found), Nat.add_zero, ih]
          rfl
      | some value =>
          obtain rfl : token = parameter value := by
            cases token <;> simp_all [value?]
          have rest_read := ih (before ++ [dialect.bind value])
          simp only [List.append_assoc, List.singleton_append, List.length_append,
            List.length_singleton] at rest_read
          have numbered : (values [parameter value]).length = 1 := rfl
          rw [allLexemes, lexemes_parameter, numbered, List.singleton_append, Sign.read,
            Sign.position?_placeholder]
          simp [values_cons, value?, signs, allSigns_cons, rest_read]

end Token

namespace CompiledStatement

/-- What the lexemes of a compiled statement stand for. -/
def signs? (dialect : Dialect) (compiled : CompiledStatement) : Option (List Sign) :=
  Sign.read dialect compiled.parameters 0 (Lexeme.lex compiled.text.toList)

/-- A compiled statement reads as the signs of its tokens. -/
theorem signs?_ofTokens (dialect : Dialect) (tokens : List Token) :
    (ofTokens dialect tokens).signs? dialect = some (Token.allSigns dialect tokens) := by
  rw [signs?, ofTokens, String.toList_ofList, Token.lex_text]
  exact Token.read_allLexemes dialect [] tokens

end CompiledStatement

end TableMapping
