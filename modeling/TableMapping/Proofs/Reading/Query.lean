import TableMapping.Proofs.Reading.Condition
import TableMapping.Statement.Compiled

/-!
# Reading of statements on rows

What the text of a query says of the rows that it returns, and what the text of an update or a
removal says of the rows that it changes: the tables, how each is joined to the ones before it, and
the conditions. A text is cut into clauses at the keywords that begin one.
-/

namespace TableMapping

/-! ## Clauses -/

namespace Sign

/-- The keywords that begin a clause of a query. -/
def clauseKeywords : List String := ["select", "from", "inner", "left", "where"]

/-- The signs in front of the first clause, and each clause: the keyword that begins it and the
signs behind the keyword. -/
def clauses : List Sign → List Sign × List (String × List Sign)
  | [] => ([], [])
  | .keyword word :: rest =>
      if clauseKeywords.contains word then
        ([], (word, (clauses rest).1) :: (clauses rest).2)
      else
        (.keyword word :: (clauses rest).1, (clauses rest).2)
  | sign :: rest => (sign :: (clauses rest).1, (clauses rest).2)

/-- No clause begins among the signs. -/
def InClause (signs : List Sign) : Prop := ∀ word ∈ clauseKeywords, .keyword word ∉ signs

theorem inClause_cons {sign : Sign} {rest : List Sign} :
    InClause (sign :: rest) ↔
      (∀ word ∈ clauseKeywords, sign ≠ .keyword word) ∧ InClause rest := by
  simp only [InClause, List.mem_cons, not_or, ne_comm, forall_and]

theorem clauses_append {before : List Sign} (inside : InClause before) (after : List Sign) :
    clauses (before ++ after) = (before ++ (clauses after).1, (clauses after).2) := by
  induction before with
  | nil => rfl
  | cons sign rest ih =>
      have rest_inside : InClause rest := fun word clause member =>
        inside word clause (List.mem_cons_of_mem sign member)
      cases sign with
      | keyword word =>
          have other : clauseKeywords.contains word = false := by
            refine Bool.eq_false_iff.mpr fun clause => ?_
            exact inside word (by simpa using clause) List.mem_cons_self
          simp only [List.cons_append, clauses, other, ih rest_inside]
          rfl
      | name | number | value | symbol => simp only [List.cons_append, clauses, ih rest_inside]

theorem clauses_keyword {word : String} (clause : word ∈ clauseKeywords) (rest : List Sign) :
    clauses (.keyword word :: rest) = ([], (word, (clauses rest).1) :: (clauses rest).2) := by
  have found : clauseKeywords.contains word = true := by simpa using clause
  rw [clauses, if_pos found]

theorem clauses_clause {word : String} (clause : word ∈ clauseKeywords) {signs rest : List Sign}
    (inside : InClause signs) {later : List (String × List Sign)}
    (ends : clauses rest = ([], later)) :
    clauses (.keyword word :: (signs ++ rest)) = ([], (word, signs) :: later) := by
  rw [clauses_keyword clause, clauses_append inside, ends, List.append_nil]

end Sign

/-! ## Queries -/

/-- The condition of a join as it is read. -/
structure JoinClause where
  kind : JoinKind
  /-- The name of the joined table. -/
  table : String
  /-- The condition on which rows are partners, if there is one. -/
  on : Option Condition
deriving DecidableEq

/-- The rows that a query returns. -/
structure Query where
  /-- The first table. -/
  source : String
  joins : List JoinClause
  filter : Option Condition
deriving DecidableEq

namespace JoinClause

/-- The condition that the signs behind the table of a join stand for. -/
def on? : List Sign → Option (Option Condition)
  | [] => some none
  | .keyword "on" :: signs => (Condition.ofSigns? signs).map some
  | _ => none

/-- The join that a clause stands for. -/
def ofClause? : String × List Sign → Option JoinClause
  | ("inner", .keyword "join" :: .name table :: rest) => (on? rest).map (⟨.inner, table, ·⟩)
  | ("left", .keyword "outer" :: .keyword "join" :: .name table :: rest) =>
      (on? rest).map (⟨.leftOuter, table, ·⟩)
  | _ => none

end JoinClause

namespace Query

/-- The joins and the filter that clauses stand for. -/
def joinsAndFilter? : List (String × List Sign) → Option (List JoinClause × Option Condition)
  | [] => some ([], none)
  | [("where", signs)] => (Condition.ofSigns? signs).map fun condition => ([], some condition)
  | clause :: rest => do
      let join ← JoinClause.ofClause? clause
      let (joins, filter) ← joinsAndFilter? rest
      return (join :: joins, filter)

/-- The query that signs stand for. -/
def ofSigns? (signs : List Sign) : Option Query :=
  match Sign.clauses signs with
  | ([], ("select", _) :: ("from", [.name source]) :: rest) =>
      (joinsAndFilter? rest).map fun (joins, filter) => ⟨source, joins, filter⟩
  | _ => none

end Query

/-- The rows that a statement changes. -/
inductive RowFilter
  | all
  /-- The rows that satisfy a condition. -/
  | condition (condition : Condition)
  /-- The rows for which a query returns any row. -/
  | exists (query : Query)
deriving DecidableEq

namespace RowFilter

/-- The filter that signs stand for. -/
def ofSigns? : List Sign → Option RowFilter
  | [] => some all
  | .keyword "where" :: .keyword "exists" :: .symbol '(' :: rest =>
      if rest.getLast? = some (.symbol ')') then
        (Query.ofSigns? rest.dropLast).map RowFilter.exists
      else
        none
  | .keyword "where" :: rest => (Condition.ofSigns? rest).map condition
  | _ => none

end RowFilter

/-- What a statement does with which rows. -/
inductive RowStatement
  /-- It returns the rows of a query. -/
  | select (query : Query)
  /-- It changes rows of a table. -/
  | change (table : String) (filter : RowFilter)
deriving DecidableEq

namespace RowStatement

/-- The statement that signs stand for. -/
def ofSigns? : List Sign → Option RowStatement
  | .keyword "update" :: .name table :: .keyword "set" :: rest =>
      (RowFilter.ofSigns? (rest.dropWhile (· ≠ .keyword "where"))).map (change table)
  | .keyword "delete" :: .keyword "from" :: .name table :: rest =>
      (RowFilter.ofSigns? rest).map (change table)
  | signs => (Query.ofSigns? signs).map select

/-- The condition of the only `WHERE` with one: that of the subquery, if there is a subquery. -/
def condition? : RowStatement → Option Condition
  | select query => query.filter
  | change _ .all => none
  | change _ (.condition condition) => some condition
  | change _ (.exists query) => query.filter

end RowStatement

/-- What a compiled statement does with which rows. -/
def CompiledStatement.rowStatement? (dialect : Dialect) (compiled : CompiledStatement) :
    Option RowStatement :=
  (compiled.signs? dialect).bind RowStatement.ofSigns?

/-! ## Reading of written statements -/

namespace Condition

/-- The condition as it is read from its text. -/
def reading (dialect : Dialect) (condition : Condition) : Condition :=
  (condition.bound dialect).leftAssociated

@[simp]
theorem atoms_reading (dialect : Dialect) (condition : Condition) :
    (condition.reading dialect).atoms = condition.atoms.map (Atom.bound dialect) := by
  simp [reading, bound]

theorem keyword_of_mem {dialect : Dialect} {condition : Condition} {word : String}
    (member : .keyword word ∈ Token.allSigns dialect (tokens condition)) :
    word ∈ ["and", "or", "is", "not", "null", "like"] := by
  induction condition with
  | atom atom =>
      cases atom with
      | columnsEqual left right =>
          simp [tokens, Atom.tokens, ColumnRef.tokens, Token.signs, Comparison.signs] at member
      | test test =>
          cases test with
          | compare column comparison value =>
              have own : .keyword word ∈ comparison.signs := by
                simpa [tokens, Atom.tokens, ColumnRef.tokens, Token.signs] using member
              cases comparison <;> simp_all [Comparison.signs]
          | isNull column =>
              have own : word = "is" ∨ word = "null" := by
                simpa [tokens, Atom.tokens, ColumnRef.tokens, Token.signs, Keyword.signs]
                  using member
              rcases own with rfl | rfl <;> decide
          | isNotNull column =>
              have own : word = "is" ∨ word = "not" ∨ word = "null" := by
                simpa [tokens, Atom.tokens, ColumnRef.tokens, Token.signs, Keyword.signs]
                  using member
              rcases own with rfl | rfl | rfl <;> decide
  | node connective left right left_ih right_ih =>
      have operand {side : Condition}
          (ih : .keyword word ∈ Token.allSigns dialect (tokens side) →
            word ∈ ["and", "or", "is", "not", "null", "like"])
          (member : .keyword word ∈ Token.allSigns dialect (operandTokens connective side)) :
          word ∈ ["and", "or", "is", "not", "null", "like"] := by
        unfold operandTokens at member
        split at member
        · exact ih (by simpa [Token.enclosed, Token.signs] using member)
        · exact ih member
      rw [tokens_node, Token.allSigns_append, Token.allSigns_cons] at member
      rcases List.mem_append.mp member with in_left | later
      · exact operand left_ih in_left
      · rcases List.mem_append.mp later with own | in_right
        · revert own
          cases connective <;>
            simp +contextual [Token.signs, Connective.keyword, Keyword.signs]
        · exact operand right_ih in_right

theorem inClause_tokens (dialect : Dialect) (condition : Condition) :
    Sign.InClause (Token.allSigns dialect (tokens condition)) := by
  intro word clause member
  have own := keyword_of_mem member
  revert clause own
  simp only [Sign.clauseKeywords, List.mem_cons, List.not_mem_nil, or_false]
  rintro (rfl | rfl | rfl | rfl | rfl) <;> decide

theorem clauses_filterTokens (dialect : Dialect) (filter : Option Condition) :
    Sign.clauses (Token.allSigns dialect (filterTokens filter)) =
      ([], filter.toList.map fun condition =>
        ("where", Token.allSigns dialect (tokens condition))) := by
  cases filter with
  | none => rfl
  | some condition =>
      have clause : "where" ∈ Sign.clauseKeywords := by decide
      have ends : Sign.clauses [] = ([], []) := rfl
      simpa [filterTokens, Token.signs, Keyword.signs] using
        Sign.clauses_clause clause (inClause_tokens dialect condition) ends

end Condition

namespace Join

/-- The join as it is read from its text. -/
def reading (dialect : Dialect) (join : Join) : JoinClause :=
  ⟨join.kind, join.table, join.condition?.map (Condition.reading dialect)⟩

/-- The signs behind the table of a join. -/
def onSigns (dialect : Dialect) (join : Join) : List Sign :=
  match join.condition? with
  | none => []
  | some condition => .keyword "on" :: Token.allSigns dialect condition.tokens

/-- The clause of a join. -/
def clause (dialect : Dialect) (join : Join) : String × List Sign :=
  match join.kind with
  | .inner => ("inner", .keyword "join" :: .name join.table :: join.onSigns dialect)
  | .leftOuter =>
      ("left", .keyword "outer" :: .keyword "join" :: .name join.table :: join.onSigns dialect)

theorem ofClause?_clause (dialect : Dialect) (join : Join) :
    JoinClause.ofClause? (join.clause dialect) = some (join.reading dialect) := by
  have on : JoinClause.on? (join.onSigns dialect) =
      some (join.condition?.map (Condition.reading dialect)) := by
    cases found : join.condition? <;>
      simp [onSigns, found, JoinClause.on?, Condition.ofSigns?_tokens, Condition.reading]
  cases kind : join.kind <;> simp [clause, reading, kind, JoinClause.ofClause?, on]

theorem inClause_onSigns (dialect : Dialect) (join : Join) :
    Sign.InClause (join.onSigns dialect) := by
  cases found : join.condition? with
  | none => simp [onSigns, found, Sign.InClause]
  | some condition =>
      have on : ∀ word ∈ Sign.clauseKeywords, Sign.keyword "on" ≠ .keyword word := by decide
      simpa [onSigns, found] using
        Sign.inClause_cons.mpr ⟨on, Condition.inClause_tokens dialect condition⟩

/-- The clause of a join ends with the tokens of the join. -/
theorem clauses_tokens (dialect : Dialect) (join : Join) {rest : List Sign}
    {later : List (String × List Sign)} (ends : Sign.clauses rest = ([], later)) :
    Sign.clauses (Token.allSigns dialect join.tokens ++ rest) =
      ([], join.clause dialect :: later) := by
  have shape : Token.allSigns dialect join.tokens =
      join.kind.keyword.signs ++ .name join.table :: join.onSigns dialect := by
    cases found : join.condition? <;> simp [tokens, onSigns, found, Token.signs, Keyword.signs]
  have named : Sign.InClause (.name join.table :: join.onSigns dialect) :=
    Sign.inClause_cons.mpr ⟨by simp, join.inClause_onSigns dialect⟩
  have joined : Sign.InClause (.keyword "join" :: .name join.table :: join.onSigns dialect) :=
    Sign.inClause_cons.mpr ⟨by decide, named⟩
  rw [shape]
  cases kind : join.kind with
  | inner =>
      have inner : "inner" ∈ Sign.clauseKeywords := by decide
      simpa [clause, kind, JoinKind.keyword, Keyword.signs] using
        Sign.clauses_clause inner joined ends
  | leftOuter =>
      have left : "left" ∈ Sign.clauseKeywords := by decide
      have outer : Sign.InClause (.keyword "outer" :: .keyword "join" :: .name join.table ::
          join.onSigns dialect) := Sign.inClause_cons.mpr ⟨by decide, joined⟩
      simpa [clause, kind, JoinKind.keyword, Keyword.signs] using
        Sign.clauses_clause left outer ends

theorem clauses_flatMap_tokens (dialect : Dialect) (joins : List Join) {rest : List Sign}
    {later : List (String × List Sign)} (ends : Sign.clauses rest = ([], later)) :
    Sign.clauses (Token.allSigns dialect (joins.flatMap tokens) ++ rest) =
      ([], joins.map (clause dialect) ++ later) := by
  induction joins with
  | nil => exact ends
  | cons join joins ih =>
      simp only [List.flatMap_cons, Token.allSigns_append, List.append_assoc, List.map_cons,
        List.cons_append]
      exact join.clauses_tokens dialect ih

end Join

namespace Query

theorem joinsAndFilter?_clauses (dialect : Dialect) (joins : List Join)
    (filter : Option Condition) :
    joinsAndFilter? (joins.map (Join.clause dialect) ++ filter.toList.map fun condition =>
        ("where", Token.allSigns dialect condition.tokens)) =
      some (joins.map (Join.reading dialect), filter.map (Condition.reading dialect)) := by
  induction joins with
  | nil =>
      cases filter with
      | none => rfl
      | some condition =>
          simp [joinsAndFilter?, Condition.ofSigns?_tokens, Condition.reading]
  | cons join joins ih =>
      have other : ∀ signs, join.clause dialect ≠ ("where", signs) := by
        intro signs
        cases kind : join.kind <;> simp [Join.clause, kind]
      rw [List.map_cons, List.cons_append, joinsAndFilter?.eq_3, Join.ofClause?_clause, ih]
      · rfl
      · exact fun signs same => absurd same (other signs)

/-- The clauses of a query, whatever stands behind its first keyword. -/
theorem clauses_tokens (dialect : Dialect) {columns : List Token}
    (inside : Sign.InClause (Token.allSigns dialect columns)) (source : String)
    (joins : List Join) (filter : Option Condition) :
    Sign.clauses (Token.allSigns dialect (.keyword .select :: (columns ++
        [.keyword .source, .identifier source] ++ joins.flatMap Join.tokens ++
        Condition.filterTokens filter))) =
      ([], ("select", Token.allSigns dialect columns) :: ("from", [.name source]) ::
        (joins.map (Join.clause dialect) ++ filter.toList.map fun condition =>
          ("where", Token.allSigns dialect condition.tokens))) := by
  have select : "select" ∈ Sign.clauseKeywords := by decide
  have source_clause : "from" ∈ Sign.clauseKeywords := by decide
  have named : Sign.InClause [.name source] :=
    Sign.inClause_cons.mpr ⟨by simp, by simp [Sign.InClause]⟩
  have rest := Join.clauses_flatMap_tokens dialect joins
    (Condition.clauses_filterTokens dialect filter)
  have whole := Sign.clauses_clause select inside (Sign.clauses_clause source_clause named rest)
  have shape : Token.allSigns dialect (.keyword .select :: (columns ++
      [.keyword .source, .identifier source] ++ joins.flatMap Join.tokens ++
      Condition.filterTokens filter)) =
    .keyword "select" :: (Token.allSigns dialect columns ++ .keyword "from" ::
      ([.name source] ++ (Token.allSigns dialect (joins.flatMap Join.tokens) ++
        Token.allSigns dialect (Condition.filterTokens filter)))) := by
    simp [Token.signs, Keyword.signs]
  rw [shape, whole]

theorem ofSigns?_tokens (dialect : Dialect) {columns : List Token}
    (inside : Sign.InClause (Token.allSigns dialect columns)) (source : String)
    (joins : List Join) (filter : Option Condition) :
    ofSigns? (Token.allSigns dialect (.keyword .select :: (columns ++
        [.keyword .source, .identifier source] ++ joins.flatMap Join.tokens ++
        Condition.filterTokens filter))) =
      some ⟨source, joins.map (Join.reading dialect),
        filter.map (Condition.reading dialect)⟩ := by
  rw [ofSigns?, clauses_tokens dialect inside]
  simp only [joinsAndFilter?_clauses]
  rfl

end Query

/-! ## Statements on rows -/

namespace RowFilter

/-- The filter of an update or a removal with the given joins, as it is read from its text. -/
def ofJoins (dialect : Dialect) (filter : Option Condition) : List Join → RowFilter
  | [] =>
      match filter with
      | none => all
      | some filter => condition (filter.reading dialect)
  | first :: rest =>
      .exists ⟨first.table, rest.map (Join.reading dialect),
        (Condition.conjunction? first.condition? filter).map (Condition.reading dialect)⟩

theorem ofSigns?_exists {signs : List Sign} {query : Query}
    (reads : Query.ofSigns? signs = some query) :
    ofSigns? (.keyword "where" :: .keyword "exists" :: .symbol '(' ::
        (signs ++ [.symbol ')'])) = some (.exists query) := by
  simp [ofSigns?, reads]

/-- The filter of an update or a removal is read from its text. -/
theorem ofSigns?_correlatedTokens (dialect : Dialect) (filter : Option Condition)
    (joins : List Join) :
    ofSigns? (Token.allSigns dialect (Join.correlatedTokens filter joins)) =
      some (ofJoins dialect filter joins) := by
  cases joins with
  | nil =>
      cases filter with
      | none => rfl
      | some filter =>
          have other : ∀ rest,
              Token.allSigns dialect filter.tokens = .keyword "exists" :: rest → False := by
            intro rest same
            have member : Sign.keyword "exists" ∈ Token.allSigns dialect filter.tokens := by
              simp [same]
            exact absurd (Condition.keyword_of_mem member) (by decide)
          simp only [Join.correlatedTokens, Condition.filterTokens, Token.allSigns_cons,
            Token.signs, Keyword.signs, List.singleton_append]
          rw [ofSigns?.eq_3, Condition.ofSigns?_tokens]
          · rfl
          · exact fun rest same => other _ same
  | cons first rest =>
      have one : Sign.InClause (Token.allSigns dialect [.one]) :=
        Sign.inClause_cons.mpr ⟨by simp, by simp [Sign.InClause]⟩
      have reads := Query.ofSigns?_tokens dialect one first.table rest
        (Condition.conjunction? first.condition? filter)
      have shape : Token.allSigns dialect (Join.correlatedTokens filter (first :: rest)) =
          .keyword "where" :: .keyword "exists" :: .symbol '(' ::
            (Token.allSigns dialect (.keyword .select :: ([.one] ++
              [.keyword .source, .identifier first.table] ++ rest.flatMap Join.tokens ++
              Condition.filterTokens (Condition.conjunction? first.condition? filter))) ++
            [.symbol ')']) := by
        simp [Join.correlatedTokens, Token.enclosed, Token.signs, Keyword.signs]
      rw [shape, ofSigns?_exists reads, ofJoins]

theorem dropWhile_correlatedTokens (dialect : Dialect) (filter : Option Condition)
    (joins : List Join) :
    (Token.allSigns dialect (Join.correlatedTokens filter joins)).dropWhile
        (· ≠ .keyword "where") =
      Token.allSigns dialect (Join.correlatedTokens filter joins) := by
  cases joins with
  | nil => cases filter <;> rfl
  | cons first rest => rfl

end RowFilter

namespace Select

/-- The query as it is read from its text. -/
def reading (dialect : Dialect) (select : Select) : Query :=
  ⟨select.source, select.joins.map (Join.reading dialect),
    select.filter.map (Condition.reading dialect)⟩

theorem inClause_columns (dialect : Dialect) (columns : List ColumnRef) :
    Sign.InClause (Token.allSigns dialect (Token.listing (columns.map ColumnRef.tokens))) := by
  intro word clause member
  rcases Token.mem_allSigns_listing member with comma | ⟨item, listed, inside⟩
  · simp at comma
  · obtain ⟨column, -, rfl⟩ := List.mem_map.mp listed
    simp [ColumnRef.tokens, Token.signs] at inside

theorem rowStatement?_tokens (dialect : Dialect) (select : Select) :
    RowStatement.ofSigns? (Token.allSigns dialect select.tokens) =
      some (.select (select.reading dialect)) := by
  have reads := Query.ofSigns?_tokens dialect (inClause_columns dialect select.columns)
    select.source select.joins select.filter
  have query (rest : List Sign) : RowStatement.ofSigns? (.keyword "select" :: rest) =
      (Query.ofSigns? (.keyword "select" :: rest)).map .select := rfl
  rw [tokens]
  rw [Token.allSigns_cons, Token.signs, Keyword.signs, List.singleton_append] at reads ⊢
  rw [query, reads]
  rfl

end Select

namespace Update

theorem keyword_not_mem_assignments (dialect : Dialect) (assignments : List (String × SqlValue))
    (word : String) :
    .keyword word ∉
      Token.allSigns dialect (Token.listing (assignments.map assignmentTokens)) := by
  intro member
  rcases Token.mem_allSigns_listing member with comma | ⟨item, listed, inside⟩
  · simp at comma
  · obtain ⟨assignment, -, rfl⟩ := List.mem_map.mp listed
    simp [assignmentTokens, Token.signs, Comparison.signs] at inside

theorem rowStatement?_tokens (dialect : Dialect) (update : Update) :
    RowStatement.ofSigns? (Token.allSigns dialect update.tokens) =
      some (.change update.table (RowFilter.ofJoins dialect update.filter update.joins)) := by
  have change (table : String) (rest : List Sign) :
      RowStatement.ofSigns? (.keyword "update" :: .name table :: .keyword "set" :: rest) =
        (RowFilter.ofSigns? (rest.dropWhile (· ≠ .keyword "where"))).map (.change table) := rfl
  have passed : ∀ sign ∈ Token.allSigns dialect
      (Token.listing (update.assignments.map assignmentTokens)),
      decide (sign ≠ .keyword "where") = true := by
    intro sign member
    refine decide_eq_true fun same => ?_
    exact keyword_not_mem_assignments dialect update.assignments "where" (same ▸ member)
  have shape : Token.allSigns dialect update.tokens =
      .keyword "update" :: .name update.table :: .keyword "set" ::
        (Token.allSigns dialect (Token.listing (update.assignments.map assignmentTokens)) ++
          Token.allSigns dialect (Join.correlatedTokens update.filter update.joins)) := by
    simp [tokens, Token.signs, Keyword.signs]
  rw [shape, change, List.dropWhile_append_of_pos passed,
    RowFilter.dropWhile_correlatedTokens, RowFilter.ofSigns?_correlatedTokens]
  rfl

end Update

namespace Delete

theorem rowStatement?_tokens (dialect : Dialect) (delete : Delete) :
    RowStatement.ofSigns? (Token.allSigns dialect delete.tokens) =
      some (.change delete.table (RowFilter.ofJoins dialect delete.filter delete.joins)) := by
  have change (table : String) (rest : List Sign) :
      RowStatement.ofSigns? (.keyword "delete" :: .keyword "from" :: .name table :: rest) =
        (RowFilter.ofSigns? rest).map (.change table) := rfl
  have shape : Token.allSigns dialect delete.tokens =
      .keyword "delete" :: .keyword "from" :: .name delete.table ::
        Token.allSigns dialect (Join.correlatedTokens delete.filter delete.joins) := by
    simp [tokens, Token.signs, Keyword.signs]
  rw [shape, change, RowFilter.ofSigns?_correlatedTokens]
  rfl

end Delete

namespace Statement

/-- What a statement on rows does with which rows, as it is read from its text. -/
def reading? (dialect : Dialect) : Statement → Option RowStatement
  | .select tree => some (.select (tree.reading dialect))
  | .update tree => some (.change tree.table (RowFilter.ofJoins dialect tree.filter tree.joins))
  | .delete tree => some (.change tree.table (RowFilter.ofJoins dialect tree.filter tree.joins))
  | .createTable _ | .insert _ => none

/-- The text of a statement on rows is read as the statement. -/
theorem rowStatement?_compile {dialect : Dialect} {statement : Statement}
    {compiled : CompiledStatement} (compiles : statement.compile dialect = .ok compiled)
    {row : RowStatement} (reads : statement.reading? dialect = some row) :
    compiled.rowStatement? dialect = some row := by
  obtain ⟨-, rfl⟩ := compile_eq_ok.mp compiles
  rw [CompiledStatement.rowStatement?, CompiledStatement.signs?_ofTokens, ← reads]
  cases statement with
  | select tree => exact tree.rowStatement?_tokens dialect
  | update tree => exact tree.rowStatement?_tokens dialect
  | delete tree => exact tree.rowStatement?_tokens dialect
  | createTable tree | insert tree => cases reads

end Statement

end TableMapping
