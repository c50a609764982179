import TableMapping.Proofs.Agreement
import TableMapping.Statement.Compiled

/-!
# Statements that differ in their values

Trees that are the same up to their values, as long as the same columns are compared with the absent
value, have the same fault or the same text.
-/

namespace TableMapping

/-! ## Trees -/

/-- The formulas are combined alike and have related atomic formulas. -/
inductive Formula.Related {α β : Type} (related : α → β → Prop) : Formula α → Formula β → Prop
  | atom {formula : α} {other : β} (atoms : related formula other) :
      Related related (.atom formula) (.atom other)
  | node (connective : Connective) {left right : Formula α} {other_left other_right : Formula β}
      (lefts : Related related left other_left) (rights : Related related right other_right) :
      Related related (.node connective left right) (.node connective other_left other_right)

/-- The tests are the same up to the value that a column is compared with, which is absent in both
or in none of them. -/
inductive Test.Alike {χ : Type} : Test χ → Test χ → Prop
  | compare (column : χ) (comparison : Comparison) {value other : SqlValue}
      (absent : value = .null ↔ other = .null) :
      Alike (.compare column comparison value) (.compare column comparison other)
  | isNull (column : χ) : Alike (.isNull column) (.isNull column)
  | isNotNull (column : χ) : Alike (.isNotNull column) (.isNotNull column)

/-- The atomic conditions are the same up to the value that a column is compared with. -/
inductive Atom.Alike : Atom → Atom → Prop
  | test {test other : Test ColumnRef} (alike : test.Alike other) :
      Alike (.test test) (.test other)
  | columnsEqual (left right : ColumnRef) :
      Alike (.columnsEqual left right) (.columnsEqual left right)

/-- The conditions are the same up to the values that columns are compared with. -/
abbrev Condition.Alike (condition other : Condition) : Prop :=
  Formula.Related Atom.Alike condition other

/-- The statements are the same up to their values. Only a value that a column is compared with must
be absent in both or in none of them. -/
inductive Statement.Alike : Statement → Statement → Prop
  | createTable (tree : CreateTable) : Alike (.createTable tree) (.createTable tree)
  | insert (table : String) (columns : List String) {rows others : List (List SqlValue)}
      (lengths : rows.map List.length = others.map List.length) :
      Alike (.insert ⟨table, columns, rows⟩) (.insert ⟨table, columns, others⟩)
  | select (columns : List ColumnRef) (source : String) (joins : List Join)
      {filter other : Option Condition} (filters : Option.Rel Condition.Alike filter other) :
      Alike (.select ⟨columns, source, joins, filter⟩) (.select ⟨columns, source, joins, other⟩)
  | update (table : String) {assignments others : List (String × SqlValue)} (joins : List Join)
      {filter other : Option Condition}
      (columns : assignments.map Prod.fst = others.map Prod.fst)
      (filters : Option.Rel Condition.Alike filter other) :
      Alike (.update ⟨table, assignments, joins, filter⟩) (.update ⟨table, others, joins, other⟩)
  | delete (table : String) (joins : List Join) {filter other : Option Condition}
      (filters : Option.Rel Condition.Alike filter other) :
      Alike (.delete ⟨table, joins, filter⟩) (.delete ⟨table, joins, other⟩)

/-! ## Tokens -/

namespace Token

/-- The tokens are the same, or both are parameters. -/
inductive Alike : Token → Token → Prop
  | refl (token : Token) : Alike token token
  | parameter (value other : SqlValue) : Alike (parameter value) (parameter other)

/-- The lists have alike tokens at the same places. -/
abbrev AllAlike (tokens others : List Token) : Prop := List.Forall₂ Alike tokens others

theorem allAlike_refl (tokens : List Token) : AllAlike tokens tokens :=
  List.forall₂_same.mpr fun token _ => .refl token

variable {tokens others : List Token}

theorem gap_of_alike {token other : Token} (alike : token.Alike other)
    (rest_alike : AllAlike tokens others) : token.gap tokens = other.gap others := by
  cases rest_alike with
  | nil => rfl
  | cons next _ => cases alike <;> cases next <;> rfl

theorem text_of_alike (alike : AllAlike tokens others) (dialect : Dialect) (number : Nat) :
    text dialect number tokens = text dialect number others := by
  induction alike generalizing number with
  | nil => rfl
  | cons first rest ih =>
      have gap := gap_of_alike first rest
      cases first with
      | refl token => rw [text, text, gap, ih]
      | parameter value other =>
          have rest_text := ih (number + 1)
          simpa [text, spelling, values, value?, gap] using rest_text

theorem alike_enclosed (alike : AllAlike tokens others) :
    AllAlike (enclosed tokens) (enclosed others) :=
  .cons (.refl _) (List.rel_append alike (allAlike_refl _))

theorem alike_listing {items other_items : List (List Token)}
    (alike : List.Forall₂ AllAlike items other_items) :
    AllAlike (listing items) (listing other_items) := by
  induction alike with
  | nil => exact .nil
  | cons first rest ih =>
      cases rest with
      | nil => exact first
      | cons next later => exact List.rel_append first (.cons (.refl _) ih)

end Token

/-! ## Conditions -/

namespace Formula

variable {α β : Type} {related : α → β → Prop}

theorem Related.clashes_eq {formula : Formula α} {other : Formula β}
    (alike : Related related formula other) (outer : Connective) :
    formula.clashes outer = other.clashes outer := by
  cases alike <;> rfl

theorem related_refl {kept : α → α → Prop} (reflexive : ∀ atom, kept atom atom)
    (formula : Formula α) : Related kept formula formula := by
  induction formula with
  | atom formula => exact .atom (reflexive formula)
  | node connective left right left_ih right_ih => exact .node connective left_ih right_ih

end Formula

namespace Atom

theorem alike_refl (atom : Atom) : atom.Alike atom := by
  cases atom with
  | test test =>
      cases test with
      | compare column comparison value => exact .test (.compare column comparison Iff.rfl)
      | isNull column => exact .test (.isNull column)
      | isNotNull column => exact .test (.isNotNull column)
  | columnsEqual left right => exact .columnsEqual left right

variable {atom other : Atom}

theorem Alike.tokens (alike : atom.Alike other) : Token.AllAlike atom.tokens other.tokens := by
  cases alike with
  | columnsEqual left right => exact Token.allAlike_refl _
  | test tests =>
      cases tests with
      | compare column comparison absent =>
          exact List.rel_append (Token.allAlike_refl _)
            (.cons (.refl _) (.cons (.parameter _ _) .nil))
      | isNull column | isNotNull column => exact Token.allAlike_refl _

theorem Alike.fault?_eq (alike : atom.Alike other) : atom.fault? = other.fault? := by
  cases alike with
  | columnsEqual left right => rfl
  | test tests =>
      cases tests with
      | @compare column comparison value other absent =>
          by_cases null : value = .null
          · rw [null, absent.mp null]
          · have other_null := mt absent.mpr null
            cases value <;> cases other <;> simp_all [fault?]
      | isNull column | isNotNull column => rfl

end Atom

namespace Condition

variable {condition other : Condition} {filter other_filter : Option Condition}

theorem alike_refl (condition : Condition) : condition.Alike condition :=
  Formula.related_refl Atom.alike_refl condition

theorem Alike.tokens (alike : condition.Alike other) :
    Token.AllAlike condition.tokens other.tokens := by
  induction alike with
  | atom atoms => exact atoms.tokens
  | @node connective left right other_left other_right lefts rights left_ih right_ih =>
      -- Only the connectives decide where parentheses stand.
      have operand {side other_side : Condition} (alike : side.Alike other_side)
          (ih : Token.AllAlike side.tokens other_side.tokens) :
          Token.AllAlike (if side.clashes connective then Token.enclosed side.tokens
            else side.tokens) (if other_side.clashes connective then
              Token.enclosed other_side.tokens else other_side.tokens) := by
        rw [alike.clashes_eq]
        split
        · exact Token.alike_enclosed ih
        · exact ih
      exact List.rel_append (operand lefts left_ih) (.cons (.refl _) (operand rights right_ih))

theorem Alike.fault?_eq (alike : condition.Alike other) : condition.fault? = other.fault? := by
  induction alike with
  | atom atoms => exact atoms.fault?_eq
  | node connective _ _ left_ih right_ih => rw [fault?, fault?, left_ih, right_ih]

theorem filterFault?_of_alike (alike : Option.Rel Alike filter other_filter) :
    filterFault? filter = filterFault? other_filter := by
  cases alike with
  | none => rfl
  | some conditions => exact conditions.fault?_eq

theorem alike_filterTokens (alike : Option.Rel Alike filter other_filter) :
    Token.AllAlike (filterTokens filter) (filterTokens other_filter) := by
  cases alike with
  | none => exact .nil
  | some conditions => exact .cons (.refl _) conditions.tokens

theorem alike_conjunction? (first : Option Condition)
    (alike : Option.Rel Alike filter other_filter) :
    Option.Rel Alike (conjunction? first filter) (conjunction? first other_filter) := by
  cases first with
  | none => exact alike
  | some first =>
      cases alike with
      | none => exact .some first.alike_refl
      | some conditions => exact .some (.node .and first.alike_refl conditions)

theorem alike_correlatedTokens (joins : List Join)
    (alike : Option.Rel Alike filter other_filter) :
    Token.AllAlike (Join.correlatedTokens filter joins)
      (Join.correlatedTokens other_filter joins) := by
  cases joins with
  | nil => exact alike_filterTokens alike
  | cons first rest =>
      refine .cons (.refl _) (Token.alike_enclosed ?_)
      exact List.rel_append (Token.allAlike_refl _)
        (alike_filterTokens (alike_conjunction? first.condition? alike))

end Condition

/-! ## Statements -/

namespace Insert

variable {table : String} {columns : List String} {rows others : List (List SqlValue)}

/-- The fault of a row with the given number of values at the given index, for a number of
columns. -/
def lengthFault? (columns : Nat) (row : Nat × Nat) : Option StatementFault :=
  if row.1 = columns then none else some (.rowLength row.2 row.1 columns)

theorem fault?_of_lengths (lengths : rows.map List.length = others.map List.length) :
    fault? ⟨table, columns, rows⟩ = fault? ⟨table, columns, others⟩ := by
  have listed : rows = [] ↔ others = [] := by
    rw [← List.map_eq_nil_iff (f := List.length), lengths, List.map_eq_nil_iff]
  have single (rows : List (List SqlValue)) : rows = [[]] ↔ rows.map List.length = [0] := by
    simp [List.map_eq_singleton_iff]
  simp only [fault?, listed, single, lengths]
  split
  · rfl
  split
  · rfl
  · let check : List SqlValue × Nat → Option StatementFault :=
      lengthFault? columns.length ∘ Prod.map List.length id
    change rows.zipIdx.findSome? check = others.zipIdx.findSome? check
    rw [← List.findSome?_map, ← List.findSome?_map, List.map_zipIdx, List.map_zipIdx, lengths]

theorem alike_rowTokens {row other : List SqlValue} (same : row.length = other.length) :
    Token.AllAlike (rowTokens row) (rowTokens other) := by
  refine Token.alike_enclosed (Token.alike_listing ?_)
  rw [List.forall₂_map_left_iff, List.forall₂_map_right_iff]
  refine List.forall₂_iff_zip.mpr ⟨same, fun {value other} _ => ?_⟩
  exact .cons (.parameter value other) .nil

theorem alike_tokens (lengths : rows.map List.length = others.map List.length) :
    Token.AllAlike (tokens ⟨table, columns, rows⟩) (tokens ⟨table, columns, others⟩) := by
  refine .cons (.refl _) (.cons (.refl _) ?_)
  split
  · exact Token.allAlike_refl _
  · refine List.rel_append (Token.allAlike_refl _) (.cons (.refl _) (Token.alike_listing ?_))
    rw [List.forall₂_map_left_iff, List.forall₂_map_right_iff]
    exact (forall₂_map_eq_iff.mpr lengths).imp fun _ _ => alike_rowTokens

end Insert

namespace Statement

variable {dialect : Dialect} {statement other : Statement}

theorem Alike.fault?_eq (alike : statement.Alike other) :
    statement.fault? dialect = other.fault? dialect := by
  cases alike with
  | createTable tree => rfl
  | insert table columns lengths => exact Insert.fault?_of_lengths lengths
  | select columns source joins filters =>
      simp only [fault?, Condition.filterFault?_of_alike filters]
  | @update table assignments others joins _ _ columns filters =>
      have assigned : assignments = [] ↔ others = [] := by
        rw [← List.map_eq_nil_iff (f := Prod.fst), columns, List.map_eq_nil_iff]
      simp only [fault?, assigned, Condition.filterFault?_of_alike filters]
  | delete table joins filters => exact Condition.filterFault?_of_alike filters

theorem Alike.tokens (alike : statement.Alike other) :
    Token.AllAlike (statement.tokens dialect) (other.tokens dialect) := by
  cases alike with
  | createTable tree => exact Token.allAlike_refl _
  | insert table columns lengths => exact Insert.alike_tokens lengths
  | select columns source joins filters =>
      exact .cons (.refl _)
        (List.rel_append (Token.allAlike_refl _) (Condition.alike_filterTokens filters))
  | update table joins columns filters =>
      refine List.rel_append (List.rel_append (Token.allAlike_refl _) (Token.alike_listing ?_))
        (Condition.alike_correlatedTokens joins filters)
      rw [List.forall₂_map_left_iff, List.forall₂_map_right_iff]
      refine (forall₂_map_eq_iff.mpr columns).imp fun assignment other same => ?_
      rw [Update.assignmentTokens, same]
      exact .cons (.refl _) (.cons (.refl _) (.cons (.parameter _ _) .nil))
  | delete table joins filters =>
      exact List.rel_append (Token.allAlike_refl _) (Condition.alike_correlatedTokens joins filters)

/-- Statements that are the same up to their values have the same fault or the same text. -/
theorem Alike.compile (alike : statement.Alike other) :
    Agree (fun compiled other => compiled.text = other.text) (statement.compile dialect)
      (other.compile dialect) := by
  rw [Statement.compile, Statement.compile, alike.fault?_eq]
  split
  · exact .error _
  · exact .ok (congrArg String.ofList (Token.text_of_alike alike.tokens dialect 1))

end Statement

end TableMapping
