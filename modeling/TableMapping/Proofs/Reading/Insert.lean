import TableMapping.Proofs.Reading.Sign

/-!
# Reading of insertions

What the text of an insertion says of the rows that it adds: the table, the columns that are given
values, and the values of each row as the database is handed them.
-/

namespace TableMapping

namespace Insert

/-! ## Reading -/

/-- The names up to a closing parenthesis, and the signs behind it. -/
def names? : List Sign → Option (List String × List Sign)
  | .name name :: .symbol ')' :: rest => some ([name], rest)
  | .name name :: .symbol ',' :: rest =>
      (names? rest).map fun (names, rest) => (name :: names, rest)
  | _ => none

/-- The first row with one more value in front. -/
def prepend (value : SqlValue) : List (List SqlValue) → Option (List (List SqlValue))
  | [] => none
  | row :: rows => some ((value :: row) :: rows)

/-- The rows of values, of which the first begins behind its parenthesis. -/
def rows? : List Sign → Option (List (List SqlValue))
  | [.value value, .symbol ')'] => some [[value]]
  | .value value :: .symbol ',' :: rest => (rows? rest).bind (prepend value)
  | .value value :: .symbol ')' :: .symbol ',' :: .symbol '(' :: rest =>
      (rows? rest).map ([value] :: ·)
  | _ => none

/-- The insertion that signs stand for. Without columns it adds one row. -/
def ofSigns? : List Sign → Option Insert
  | [.keyword "insert", .keyword "into", .name table, .keyword "default", .keyword "values"] =>
      some ⟨table, [], [[]]⟩
  | .keyword "insert" :: .keyword "into" :: .name table :: .symbol '(' :: rest =>
      match names? rest with
      | some (columns, .keyword "values" :: .symbol '(' :: rest) =>
          (rows? rest).map (⟨table, columns, ·⟩)
      | _ => none
  | _ => none

/-- The insertion with its values in the form in which they are handed to the database. -/
def bound (dialect : Dialect) (insert : Insert) : Insert :=
  ⟨insert.table, insert.columns, insert.rows.map (List.map dialect.bind)⟩

end Insert

/-- The insertion that a compiled statement asks for. -/
def CompiledStatement.insert? (dialect : Dialect) (compiled : CompiledStatement) :
    Option Insert :=
  (compiled.signs? dialect).bind Insert.ofSigns?

/-! ## Reading of written insertions -/

namespace Insert

theorem names?_listing (dialect : Dialect) {names : List String} (present : names ≠ [])
    (rest : List Sign) :
    names? (Token.allSigns dialect (Token.listing (names.map fun name => [.identifier name])) ++
        .symbol ')' :: rest) = some (names, rest) := by
  induction names with
  | nil => exact absurd rfl present
  | cons name names ih =>
      cases names with
      | nil => rfl
      | cons next later =>
          have listed := ih (List.cons_ne_nil next later)
          rw [List.map_cons] at listed
          simp [Token.listing, Token.signs, names?, listed]

theorem rows?_row (dialect : Dialect) {rest : List Sign} {later : List (List SqlValue)}
    (ends : ∀ value, rows? (.value value :: .symbol ')' :: rest) = some ([value] :: later))
    {row : List SqlValue} (present : row ≠ []) :
    rows? (Token.allSigns dialect (Token.listing (row.map fun value => [.parameter value])) ++
        .symbol ')' :: rest) = some (row.map dialect.bind :: later) := by
  induction row with
  | nil => exact absurd rfl present
  | cons value row ih =>
      cases row with
      | nil => exact ends (dialect.bind value)
      | cons next others =>
          have read := ih (List.cons_ne_nil next others)
          rw [List.map_cons] at read
          simp [Token.listing, Token.signs, rows?, read, prepend]

/-- The values of rows are read from behind the first parenthesis. -/
theorem rows?_listing (dialect : Dialect) {rows : List (List SqlValue)} (listed : rows ≠ [])
    (present : ∀ row ∈ rows, row ≠ []) :
    ∃ rest, Token.allSigns dialect (Token.listing (rows.map rowTokens)) = .symbol '(' :: rest ∧
      rows? rest = some (rows.map (List.map dialect.bind)) := by
  induction rows with
  | nil => exact absurd rfl listed
  | cons row rows ih =>
      have row_present := present row List.mem_cons_self
      cases rows with
      | nil =>
          have ends (value : SqlValue) : rows? [.value value, .symbol ')'] = some [[value]] := rfl
          refine ⟨_, ?_, rows?_row dialect ends row_present⟩
          simp [Token.listing, rowTokens, Token.enclosed, Token.signs]
      | cons next others =>
          obtain ⟨rest, shape, read⟩ := ih (List.cons_ne_nil next others)
            fun other member => present other (List.mem_cons_of_mem row member)
          have ends (value : SqlValue) :
              rows? (.value value :: .symbol ')' :: .symbol ',' :: .symbol '(' :: rest) =
                some ([value] :: (next :: others).map (List.map dialect.bind)) := by
            rw [rows?, read, Option.map_some]
          refine ⟨_, ?_, rows?_row dialect ends row_present⟩
          have row_tokens : rowTokens row =
              Token.enclosed (Token.listing (row.map fun value => [.parameter value])) := rfl
          rw [List.map_cons] at shape
          simp [Token.listing, row_tokens, Token.enclosed, Token.signs, shape]

theorem ofSigns?_tokens (dialect : Dialect) {insert : Insert} (sound : insert.fault? = none) :
    ofSigns? (Token.allSigns dialect insert.tokens) = some (insert.bound dialect) := by
  obtain ⟨listed, single, lengths⟩ := fault?_eq_none sound
  by_cases columns : insert.columns = []
  · have rows := single columns
    simp [tokens, bound, columns, rows, Token.signs, Keyword.signs, ofSigns?]
  · have present : ∀ row ∈ insert.rows, row ≠ [] := by
      rintro row member rfl
      exact columns (List.eq_nil_of_length_eq_zero (lengths [] member).symm)
    obtain ⟨rest, shape, rows⟩ := rows?_listing dialect listed present
    have names := names?_listing dialect columns (.keyword "values" :: .symbol '(' :: rest)
    have signs : Token.allSigns dialect insert.tokens =
        .keyword "insert" :: .keyword "into" :: .name insert.table :: .symbol '(' ::
          (Token.allSigns dialect (Token.listing
              (insert.columns.map fun name => [.identifier name])) ++
            .symbol ')' :: .keyword "values" :: .symbol '(' :: rest) := by
      simp [tokens, columns, Token.names, Token.enclosed, Token.signs, Keyword.signs, shape]
    rw [signs, ofSigns?, names]
    simp only [rows, Option.map_some, bound]

/-- The text of an insertion is read as the insertion. -/
theorem insert?_compile {dialect : Dialect} {insert : Insert} {compiled : CompiledStatement}
    (compiles : (Statement.insert insert).compile dialect = .ok compiled) :
    compiled.insert? dialect = some (insert.bound dialect) := by
  obtain ⟨sound, rfl⟩ := Statement.compile_eq_ok.mp compiles
  rw [CompiledStatement.insert?, CompiledStatement.signs?_ofTokens]
  exact ofSigns?_tokens dialect sound

end Insert

end TableMapping
