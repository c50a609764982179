import TableMapping.Proofs.Reading.Spelling
import TableMapping.Statement.Compiled

/-!
# Parameters of compiled statements

The values that stand in a statement tree, in the order in which they are written, are the
parameters of its compiled form, and the marks of parameters in its text are numbered like them.
-/

namespace TableMapping

/-! ## The values of a tree -/

namespace Atom

/-- The value that an atomic condition compares a column with. -/
def value? : Atom → Option SqlValue
  | .test (.compare _ _ value) => some value
  | .test (.isNull _) | .test (.isNotNull _) | .columnsEqual _ _ => none

end Atom

namespace Condition

/-- The values of a condition, from left to right. -/
def values (condition : Condition) : List SqlValue := condition.atoms.filterMap Atom.value?

/-- The values of a filter, if there is one. -/
def filterValues (filter : Option Condition) : List SqlValue := (filter.map values).getD []

end Condition

namespace Statement

/-- The values of a statement in the order in which they are written: rows one after the other, and
assignments before the filter. -/
def values : Statement → List SqlValue
  | .createTable _ => []
  | .insert tree => tree.rows.flatten
  | .select tree => Condition.filterValues tree.filter
  | .update tree => tree.assignments.map Prod.snd ++ Condition.filterValues tree.filter
  | .delete tree => Condition.filterValues tree.filter

end Statement

/-! ## The values of its tokens -/

namespace Token

theorem values_cons (token : Token) (rest : List Token) :
    values (token :: rest) = token.value?.toList ++ values rest := by
  cases found : token.value? <;> simp [values, found]

@[simp]
theorem values_flatMap {α : Type} (items : List α) (tokens : α → List Token) :
    values (items.flatMap tokens) = items.flatMap fun item => values (tokens item) := by
  induction items with
  | nil => rfl
  | cons item rest ih => simp [ih]

@[simp]
theorem values_listing (items : List (List Token)) :
    values (listing items) = items.flatMap values := by
  induction items with
  | nil => rfl
  | cons item rest ih =>
      cases rest with
      | nil => simp [listing]
      | cons next rest => simp [listing, values_cons, value?, ih]

@[simp]
theorem values_names (list : List String) : values (names list) = [] := by
  simp [names, List.flatMap_map, values_cons, value?]

end Token

@[simp]
theorem ColumnRef.values_tokens (reference : ColumnRef) : Token.values reference.tokens = [] := rfl

theorem Atom.values_tokens (atom : Atom) : Token.values atom.tokens = atom.value?.toList := by
  cases atom with
  | test test => cases test <;> rfl
  | columnsEqual left right => rfl

theorem Atom.fault?_eq_some_iff {atom : Atom} {fault : StatementFault} :
    atom.fault? = some fault ↔ ∃ column comparison,
      atom = .test (.compare column comparison .null) ∧ fault = .nullComparison column := by
  constructor
  · intro found
    cases atom with
    | columnsEqual left right => cases found
    | test test =>
        cases test with
        | isNull column | isNotNull column => cases found
        | compare column comparison value =>
            cases value <;> cases found
            exact ⟨column, comparison, rfl, rfl⟩
  · rintro ⟨column, comparison, rfl, rfl⟩
    rfl

theorem Atom.fault?_eq_none {atom : Atom} : atom.fault? = none ↔ atom.value? ≠ some .null := by
  cases atom with
  | columnsEqual left right => simp [fault?, value?]
  | test test =>
      cases test with
      | isNull column | isNotNull column => simp [fault?, value?]
      | compare column comparison value => cases value <;> simp [fault?, value?]

namespace Condition

@[simp]
theorem values_tokens (condition : Condition) :
    Token.values (tokens condition) = values condition := by
  induction condition with
  | atom atom =>
      rw [tokens, Atom.values_tokens]
      cases found : atom.value? <;> simp [values, Formula.atoms, found]
  | node connective left right left_ih right_ih =>
      have operand (side : Condition) (ih : Token.values (tokens side) = values side) :
          Token.values (if side.clashes connective then Token.enclosed (tokens side)
            else tokens side) = values side := by
        split <;> simp [ih]
      rw [tokens, Token.values_append, Token.values_cons, operand left left_ih,
        operand right right_ih]
      simp [values, Formula.atoms, Token.value?]

@[simp]
theorem values_filterTokens (filter : Option Condition) :
    Token.values (filterTokens filter) = filterValues filter := by
  cases filter with
  | none => rfl
  | some condition => simp [filterTokens, filterValues, Token.values_cons, Token.value?]

theorem values_ofPairs? {pairs : List (ColumnRef × ColumnRef)} {condition : Condition}
    (found : ofPairs? pairs = some condition) : values condition = [] := by
  have folded (rest : List (ColumnRef × ColumnRef)) (first : Condition)
      (none : values first = []) :
      values (rest.foldl (fun earlier pair =>
        .node .and earlier (.atom (.columnsEqual pair.1 pair.2))) first) = [] := by
    induction rest generalizing first with
    | nil => exact none
    | cons pair rest ih => exact ih _ (by simpa [values, Formula.atoms, Atom.value?] using none)
  cases pairs with
  | nil => simp [ofPairs?] at found
  | cons pair rest =>
      obtain rfl := Option.some.inj found
      exact folded rest _ rfl

theorem filterValues_conjunction? (pairs : List (ColumnRef × ColumnRef))
    (filter : Option Condition) :
    filterValues (conjunction? (ofPairs? pairs) filter) = filterValues filter := by
  cases found : ofPairs? pairs with
  | none => cases filter <;> rfl
  | some on =>
      have empty := values_ofPairs? found
      cases filter with
      | none => simpa [conjunction?, filterValues] using empty
      | some condition =>
          simp only [values] at empty
          simp [conjunction?, filterValues, values, Formula.atoms, empty]

theorem fault?_eq_findSome? (condition : Condition) :
    condition.fault? = condition.atoms.findSome? Atom.fault? := by
  induction condition with
  | atom atom => simp [fault?, Formula.atoms]
  | node connective left right left_ih right_ih =>
      rw [fault?, Formula.atoms, List.findSome?_append, left_ih, right_ih]

theorem fault?_eq_none {condition : Condition} :
    condition.fault? = none ↔ .null ∉ condition.values := by
  rw [fault?_eq_findSome?, List.findSome?_eq_none_iff, values, List.mem_filterMap]
  simp only [Atom.fault?_eq_none, not_exists, not_and, ne_eq]

theorem filterFault?_eq_none {filter : Option Condition} :
    filterFault? filter = none ↔ .null ∉ filterValues filter := by
  cases filter with
  | none => simp [filterFault?, filterValues]
  | some condition => exact fault?_eq_none

end Condition

namespace Join

@[simp]
theorem values_tokens (join : Join) : Token.values join.tokens = [] := by
  cases found : join.condition? with
  | none => simp [tokens, found, Token.values_cons, Token.value?]
  | some condition =>
      simp [tokens, found, Token.values_cons, Token.value?, Condition.values_ofPairs? found]

@[simp]
theorem values_correlatedTokens (filter : Option Condition) (joins : List Join) :
    Token.values (correlatedTokens filter joins) = Condition.filterValues filter := by
  cases joins with
  | nil => simp [correlatedTokens]
  | cons first rest =>
      simp [correlatedTokens, Token.values_cons, Token.value?, condition?,
        Condition.filterValues_conjunction?]

end Join

@[simp]
theorem ColumnDefinition.values_tokens (dialect : Dialect) (column : ColumnDefinition) :
    Token.values (column.tokens dialect) = [] := by
  cases found : dialect.storageType? column.type <;> cases required : column.nullable <;>
    simp [tokens, found, required, Token.values_cons, Token.value?]

@[simp]
theorem TableConstraint.values_tokens (constraint : TableConstraint) :
    Token.values constraint.tokens = [] := by
  cases constraint <;> simp [tokens, Token.values_cons, Token.value?]

@[simp]
theorem Insert.values_rowTokens (row : List SqlValue) : Token.values (rowTokens row) = row := by
  simp [rowTokens, List.flatMap_map, Token.values_cons, Token.value?]

namespace Statement

/-- The values of a tree are those of its tokens. -/
theorem values_tokens {dialect : Dialect} {statement : Statement}
    (sound : statement.fault? dialect = none) :
    Token.values (statement.tokens dialect) = statement.values := by
  cases statement with
  | createTable tree =>
      simp [tokens, values, CreateTable.tokens, Token.values_cons, Token.value?, List.flatMap_map]
  | insert tree =>
      by_cases whole : tree.columns = []
      · have single : tree.rows = [[]] := (Insert.fault?_eq_none sound).2.1 whole
        simp [tokens, values, Insert.tokens, Token.values_cons, Token.value?, whole, single]
      · simp [tokens, values, Insert.tokens, Token.values_cons, Token.value?, whole,
          List.flatMap_map, List.flatMap_id']
  | select tree =>
      have columns : Token.values (Token.listing (tree.columns.map ColumnRef.tokens)) = [] := by
        simp
      have joins : Token.values (tree.joins.flatMap Join.tokens) = [] := by simp
      simp [tokens, values, Select.tokens, Token.values_cons, Token.value?, columns, joins]
  | update tree =>
      have assignments :
          Token.values (Token.listing (tree.assignments.map Update.assignmentTokens)) =
            tree.assignments.map Prod.snd := by
        rw [Token.values_listing, List.flatMap_map, List.map_eq_flatMap]
        rfl
      simp [tokens, values, Update.tokens, Token.values_cons, Token.value?, assignments]
  | delete tree => simp [tokens, values, Delete.tokens, Token.values_cons, Token.value?]

end Statement

/-! ## Parameters -/

namespace Dialect

theorem kind_bind_sqlite (value : SqlValue) :
    (sqlite.bind value).kind = .null ∨ (sqlite.bind value).kind = .int ∨
      (sqlite.bind value).kind = .text := by
  cases value <;> simp [bind, storesTemporalAsText, SqlValue.textForm, SqlValue.kind]

end Dialect

namespace CompiledStatement

/-- The marks of parameters outside quoted runs, in the order of the text. -/
def marks (compiled : CompiledStatement) : List (List Char) :=
  Lexeme.marks (Lexeme.lex compiled.text.toList)

theorem length_parameters_ofTokens (dialect : Dialect) (tokens : List Token) :
    (ofTokens dialect tokens).parameters.length = (Token.values tokens).length := by
  simp [ofTokens]

theorem marks_ofTokens (dialect : Dialect) (tokens : List Token) :
    (ofTokens dialect tokens).marks =
      (List.range' 1 (ofTokens dialect tokens).parameters.length).map dialect.placeholder := by
  rw [marks, length_parameters_ofTokens, ofTokens, String.toList_ofList, Token.marks_lex_text]

end CompiledStatement

namespace Statement

/-- The parameters are the values of the tree, in the form in which the database takes them. -/
theorem parameters_of_compile {dialect : Dialect} {statement : Statement}
    {compiled : CompiledStatement} (compiles : statement.compile dialect = .ok compiled) :
    compiled.parameters = statement.values.map dialect.bind := by
  obtain ⟨sound, rfl⟩ := compile_eq_ok.mp compiles
  rw [CompiledStatement.ofTokens, values_tokens sound]

/-- The marks of parameters in the text of a statement are numbered like its parameters, and these
are the values of the tree in the order in which they are written, in the form in which the
database takes them. -/
theorem marks_match_parameters {dialect : Dialect} {statement : Statement}
    {compiled : CompiledStatement} (compiles : statement.compile dialect = .ok compiled) :
    compiled.marks = (List.range' 1 compiled.parameters.length).map dialect.placeholder ∧
      (dialect = .postgresql → compiled.marks =
        (List.range' 1 compiled.parameters.length).map fun number =>
          '$' :: Decimal.digits number) ∧
      (dialect ≠ .postgresql → compiled.marks =
        List.replicate compiled.parameters.length ['?']) ∧
      compiled.parameters = statement.values.map dialect.bind ∧
      (dialect = .sqlite → ∀ parameter ∈ compiled.parameters,
        parameter.kind = .null ∨ parameter.kind = .int ∨ parameter.kind = .text) := by
  obtain ⟨sound, rfl⟩ := compile_eq_ok.mp compiles
  have marks := CompiledStatement.marks_ofTokens dialect (statement.tokens dialect)
  have parameters : (CompiledStatement.ofTokens dialect (statement.tokens dialect)).parameters =
      statement.values.map dialect.bind := by
    rw [CompiledStatement.ofTokens, values_tokens sound]
  refine ⟨marks, ?_, ?_, parameters, ?_⟩
  · rintro rfl
    exact marks
  · intro other
    have unnumbered (number : Nat) : dialect.placeholder number = ['?'] := by
      cases dialect with
      | postgresql => exact absurd rfl other
      | h2 | sqlite => rfl
    rw [marks, funext unnumbered, List.map_const', List.length_range']
  · rintro rfl parameter member
    rw [parameters] at member
    obtain ⟨value, -, rfl⟩ := List.mem_map.mp member
    exact Dialect.kind_bind_sqlite value

/-- An update through two joined tables whose names look like marks of parameters or break out of
quotes. -/
def updateWithHostileNames : Statement :=
  .update ⟨"a?\"$1", [("$1", .bool true)],
    [⟨.inner, "?", [(⟨"a?\"$1", "\""⟩, ⟨"?", "$2 = $3"⟩)]⟩,
      ⟨.inner, "t", [(⟨"?", "$1"⟩, ⟨"t", "$2"⟩)]⟩],
    some (.atom (.test (.compare ⟨"?", "\"?\""⟩ .like (.text "$4"))))⟩

/-- The text of such an update has the marks of the two values of its tree and no others. -/
theorem marks_match_parameters_hostile_names :
    ∃ compiled, updateWithHostileNames.compile .postgresql = .ok compiled ∧
      compiled.marks = [['$', '1'], ['$', '2']] ∧
      compiled.parameters = [.bool true, .text "$4"] := by
  have compiles : updateWithHostileNames.compile .postgresql =
      .ok (CompiledStatement.ofTokens .postgresql (updateWithHostileNames.tokens .postgresql)) :=
    rfl
  have lined := marks_match_parameters compiles
  exact ⟨_, compiles, lined.1, lined.2.2.2.1⟩

end Statement

end TableMapping
