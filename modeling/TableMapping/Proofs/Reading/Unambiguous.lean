import TableMapping.Proofs.Reading.Create
import TableMapping.Proofs.Reading.SelectList
import TableMapping.Proofs.Request.Filter
import TableMapping.Proofs.Statement.Alike

/-!
# Unambiguous texts

What a text does not show of a query, an insertion or a creation: the values of its parameters, how
chains of one connective are nested, and which of the types with the same storage type a column has.
All the rest of the statement is determined by its text. To see this, the values of two statements
with the same text are blanked, so that both compile to the same statement, and this is read.
-/

namespace TableMapping

/-! ## What a text does not show -/

/-- The conditions can be regrouped within their chains of one connective so that they are the same
up to the values that columns are compared with. -/
def Condition.Same (condition other : Condition) : Prop :=
  ∃ grouped other_grouped : Condition, Formula.Reassociated condition grouped ∧
    Formula.Reassociated other other_grouped ∧ Condition.Alike grouped other_grouped

/-- The columns are created alike, though their types may differ. -/
structure ColumnDefinition.Same (dialect : Dialect) (column other : ColumnDefinition) : Prop where
  name_eq : column.name = other.name
  storageType_eq : dialect.storageType? column.type = dialect.storageType? other.type
  nullable_eq : column.nullable = other.nullable

/-- The statements are the same up to their values, the association of their conditions, and types
with the same storage type. -/
inductive Statement.Same (dialect : Dialect) : Statement → Statement → Prop
  | createTable (table : String) {columns others : List ColumnDefinition}
      (constraints : List TableConstraint)
      (columns_same : List.Forall₂ (ColumnDefinition.Same dialect) columns others) :
      Same dialect (.createTable ⟨table, columns, constraints⟩)
        (.createTable ⟨table, others, constraints⟩)
  | insert (table : String) (columns : List String) {rows others : List (List SqlValue)}
      (lengths : rows.map List.length = others.map List.length) :
      Same dialect (.insert ⟨table, columns, rows⟩) (.insert ⟨table, columns, others⟩)
  | select (columns : List ColumnRef) (source : String) (joins : List Join)
      {filter other : Option Condition} (filters : Option.Rel Condition.Same filter other) :
      Same dialect (.select ⟨columns, source, joins, filter⟩)
        (.select ⟨columns, source, joins, other⟩)

/-- The statement changes or removes rows that a filter admits. -/
def Statement.changesRows : Statement → Bool
  | .update _ | .delete _ => true
  | .createTable _ | .insert _ | .select _ => false

/-! ## Blank values -/

/-- A fixed value in the place of the value, unless it is absent. -/
def SqlValue.blank (value : SqlValue) : SqlValue := if value = .null then .null else .int 0

@[simp]
theorem SqlValue.blank_eq_null {value : SqlValue} : value.blank = .null ↔ value = .null := by
  unfold blank
  split <;> simp_all

theorem SqlValue.bind_blank (dialect : Dialect) (value : SqlValue) :
    dialect.bind value.blank = value.blank := by
  unfold blank
  split <;> cases dialect <;> rfl

namespace Atom

/-- The atomic condition with a blank value. -/
def blank : Atom → Atom
  | .test (.compare column comparison value) => .test (.compare column comparison value.blank)
  | .test (.isNull column) => .test (.isNull column)
  | .test (.isNotNull column) => .test (.isNotNull column)
  | .columnsEqual left right => .columnsEqual left right

theorem alike_blank (atom : Atom) : atom.Alike atom.blank := by
  cases atom with
  | test test =>
      cases test with
      | compare column comparison value =>
          exact .test (.compare column comparison SqlValue.blank_eq_null.symm)
      | isNull column => exact .test (.isNull column)
      | isNotNull column => exact .test (.isNotNull column)
  | columnsEqual left right => exact .columnsEqual left right

theorem bound_blank (dialect : Dialect) (atom : Atom) :
    Atom.bound dialect atom.blank = atom.blank := by
  cases atom with
  | test test =>
      cases test with
      | compare column comparison value => simp [blank, bound, SqlValue.bind_blank]
      | isNull column | isNotNull column => rfl
  | columnsEqual left right => rfl

/-- Blank values keep apart what is not alike. -/
theorem alike_of_blank_eq {atom other : Atom} (same : atom.blank = other.blank) :
    atom.Alike other := by
  cases atom with
  | columnsEqual left right =>
      cases other with
      | columnsEqual => cases same; exact .columnsEqual left right
      | test test => cases test <;> cases same
  | test test =>
      cases other with
      | columnsEqual => cases test <;> cases same
      | test other =>
          cases test <;> cases other <;> try cases same
          · rename_i column comparison value _ _ other_value
            simp only [blank, test.injEq, Test.compare.injEq] at same
            obtain ⟨rfl, rfl, values⟩ := same
            have absent : value = .null ↔ other_value = .null := by
              rw [← SqlValue.blank_eq_null, values, SqlValue.blank_eq_null]
            exact .test (.compare column comparison absent)
          · exact .test (.isNull _)
          · exact .test (.isNotNull _)

end Atom

namespace Condition

/-- The condition with blank values. -/
def blank (condition : Condition) : Condition := condition.map Atom.blank

theorem alike_blank (condition : Condition) : condition.Alike condition.blank := by
  induction condition with
  | atom atom => exact .atom atom.alike_blank
  | node connective left right left_ih right_ih => exact .node connective left_ih right_ih

theorem bound_blank (dialect : Dialect) (condition : Condition) :
    condition.blank.bound dialect = condition.blank := by
  induction condition with
  | atom atom => exact congrArg Formula.atom (atom.bound_blank dialect)
  | node connective left right left_ih right_ih =>
      exact congrArg₂ (Formula.node connective) left_ih right_ih

theorem alike_of_blank_eq {condition other : Condition} (same : condition.blank = other.blank) :
    condition.Alike other := by
  induction condition generalizing other with
  | atom atom =>
      cases other with
      | atom other => exact .atom (Atom.alike_of_blank_eq (Formula.atom.inj same))
      | node => cases same
  | node connective left right left_ih right_ih =>
      cases other with
      | atom => cases same
      | node other_connective other_left other_right =>
          obtain ⟨rfl, lefts, rights⟩ := Formula.node.inj same
          exact .node connective (left_ih lefts) (right_ih rights)

theorem values_blank (condition : Condition) :
    condition.blank.values = condition.values.map SqlValue.blank := by
  have atom (atom : Atom) : atom.blank.value? = atom.value?.map SqlValue.blank := by
    cases atom with
    | test test => cases test <;> rfl
    | columnsEqual left right => rfl
  simp [values, blank, List.filterMap_map, List.map_filterMap, atom]

theorem filterValues_blank (filter : Option Condition) :
    filterValues (filter.map blank) = (filterValues filter).map SqlValue.blank := by
  cases filter with
  | none => rfl
  | some condition => exact condition.values_blank

theorem same_of_reading_blank_eq {dialect : Dialect} {condition other : Condition}
    (same : condition.blank.reading dialect = other.blank.reading dialect) :
    condition.Same other := by
  rw [reading, reading, bound_blank, bound_blank, blank, blank, Formula.leftAssociated_map,
    Formula.leftAssociated_map] at same
  exact ⟨_, _, condition.reassociated_leftAssociated, other.reassociated_leftAssociated,
    alike_of_blank_eq same⟩

end Condition

namespace Statement

/-- The statement with blank values. -/
def blank : Statement → Statement
  | .createTable tree => .createTable tree
  | .insert tree =>
      .insert ⟨tree.table, tree.columns, tree.rows.map (List.map fun _ => .int 0)⟩
  | .select tree =>
      .select ⟨tree.columns, tree.source, tree.joins, tree.filter.map Condition.blank⟩
  | .update tree =>
      .update ⟨tree.table, tree.assignments.map fun assigned => (assigned.1, .int 0), tree.joins,
        tree.filter.map Condition.blank⟩
  | .delete tree => .delete ⟨tree.table, tree.joins, tree.filter.map Condition.blank⟩

variable {dialect : Dialect} {statement : Statement}

theorem alike_blank (statement : Statement) : statement.Alike statement.blank := by
  have filters (filter : Option Condition) :
      Option.Rel Condition.Alike filter (filter.map Condition.blank) := by
    cases filter with
    | none => exact .none
    | some condition => exact .some condition.alike_blank
  cases statement with
  | createTable tree => exact .createTable tree
  | insert tree => exact .insert tree.table tree.columns (by simp [Function.comp_def])
  | select tree => exact .select tree.columns tree.source tree.joins (filters tree.filter)
  | update tree =>
      exact .update tree.table tree.joins (by simp [Function.comp_def]) (filters tree.filter)
  | delete tree => exact .delete tree.table tree.joins (filters tree.filter)

/-- A statement without fault has no absent value to be kept. -/
theorem values_blank (sound : statement.fault? dialect = none) :
    ∀ value ∈ statement.blank.values, value = .int 0 := by
  have filtered {filter : Option Condition} (sound : Condition.filterFault? filter = none) :
      ∀ value ∈ Condition.filterValues (filter.map Condition.blank), value = .int 0 := by
    intro value member
    rw [Condition.filterValues_blank] at member
    obtain ⟨original, listed, rfl⟩ := List.mem_map.mp member
    refine if_neg fun absent => ?_
    exact Condition.filterFault?_eq_none.mp sound (absent ▸ listed)
  cases statement with
  | createTable tree => simp [blank, values]
  | insert tree =>
      simp only [blank, values, List.mem_flatten, List.mem_map]
      rintro value ⟨_, ⟨row, -, rfl⟩, member⟩
      exact (List.mem_map.mp member).elim fun _ found => found.2.symm
  | select tree =>
      rw [fault?] at sound
      split at sound
      · cases sound
      · exact filtered sound
  | update tree =>
      rw [fault?] at sound
      split at sound
      · cases sound
      · intro value member
        rcases List.mem_append.mp member with assigned | tested
        · simp only [List.map_map, List.mem_map] at assigned
          exact assigned.elim fun _ found => found.2.symm
        · exact filtered sound value tested
  | delete tree => exact filtered sound

/-- With blank values, a compiled statement is determined by its text: its parameters are as many
as there are marks in the text. -/
theorem compile_blank {compiled : CompiledStatement}
    (compiles : statement.compile dialect = .ok compiled) :
    statement.blank.compile dialect =
      .ok ⟨compiled.text, List.replicate compiled.marks.length (.int 0)⟩ := by
  have sound := (compile_eq_ok.mp compiles).1
  obtain ⟨other, other_compiles, text_eq⟩ : ∃ other,
      statement.blank.compile dialect = .ok other ∧ compiled.text = other.text := by
    have agree : Agree (fun compiled other => compiled.text = other.text)
        (statement.compile dialect) (statement.blank.compile dialect) :=
      statement.alike_blank.compile
    rw [compiles] at agree
    generalize statement.blank.compile dialect = result at agree
    cases agree with
    | ok texts => exact ⟨_, rfl, texts⟩
  have bound : other.parameters = statement.blank.values.map dialect.bind :=
    parameters_of_compile other_compiles
  have blank_values : ∀ parameter ∈ other.parameters, parameter = .int 0 := by
    intro parameter member
    rw [bound] at member
    obtain ⟨value, listed, rfl⟩ := List.mem_map.mp member
    rw [values_blank sound value listed]
    cases dialect <;> rfl
  have counted : compiled.marks.length = other.parameters.length := by
    obtain ⟨-, rfl⟩ := compile_eq_ok.mp other_compiles
    have marks := CompiledStatement.marks_ofTokens dialect (statement.blank.tokens dialect)
    rw [CompiledStatement.marks, text_eq, ← CompiledStatement.marks, marks]
    simp
  rw [other_compiles, counted, text_eq, ← List.eq_replicate_of_mem blank_values]

end Statement

/-! ## What is read determines the statement -/

namespace Join

/-- The pairs of columns of a join are read from its condition. -/
theorem reading_injective (dialect : Dialect) : Function.Injective (reading dialect) := by
  -- The atomic conditions of what is read are the equalities of the pairs.
  have atoms (join : Join) : (((join.reading dialect).on.map Formula.atoms).getD []) =
      join.on.map fun pair => .columnsEqual pair.1 pair.2 := by
    cases found : join.condition? with
    | none =>
        have no_pairs : join.on = [] := by
          cases pairs : join.on with
          | nil => rfl
          | cons pair rest => simp [condition?, pairs, Condition.ofPairs?] at found
        simp [reading, found, no_pairs]
    | some condition =>
        have spelled := (Condition.ofPairs?_spec found).1
        simp [reading, found, spelled, Atom.bound]
  intro join other same
  have equalities := atoms join
  rw [same, atoms other] at equalities
  have injective : Function.Injective
      fun pair : ColumnRef × ColumnRef => Atom.columnsEqual pair.1 pair.2 := by
    rintro ⟨left, right⟩ ⟨other_left, other_right⟩ equal
    cases equal
    rfl
  have pairs := List.map_injective_iff.mpr injective equalities
  obtain ⟨kind, table, on⟩ := join
  obtain ⟨other_kind, other_table, other_on⟩ := other
  obtain ⟨kinds, tables, -⟩ := JoinClause.mk.inj same
  simp only at kinds tables pairs
  rw [kinds, tables, pairs]

end Join

namespace Select

/-- Queries are the same up to what a text does not show if they select the same columns and read
the same with blank values. -/
theorem same_of_reading_eq {dialect : Dialect} {select other : Select}
    (columns : select.columns = other.columns)
    (same : reading dialect ⟨select.columns, select.source, select.joins,
        select.filter.map Condition.blank⟩ =
      reading dialect ⟨other.columns, other.source, other.joins,
        other.filter.map Condition.blank⟩) :
    Statement.Same dialect (.select select) (.select other) := by
  obtain ⟨select_columns, source, joins, filter⟩ := select
  obtain ⟨other_columns, other_source, other_joins, other_filter⟩ := other
  obtain ⟨sources, joined, filtered⟩ := Query.mk.inj same
  have joins_eq := List.map_injective_iff.mpr (Join.reading_injective dialect) joined
  simp only at columns sources joins_eq filtered
  subst columns sources joins_eq
  refine .select _ _ _ ?_
  cases filter with
  | none =>
      cases other_filter with
      | none => exact .none
      | some other => cases filtered
  | some condition =>
      cases other_filter with
      | none => cases filtered
      | some other => exact .some (Condition.same_of_reading_blank_eq (Option.some.inj filtered))

end Select

namespace Insert

theorem same_of_bound_eq {dialect : Dialect} {insert other : Insert}
    (same : bound dialect ⟨insert.table, insert.columns,
        insert.rows.map (List.map fun _ => .int 0)⟩ =
      bound dialect ⟨other.table, other.columns, other.rows.map (List.map fun _ => .int 0)⟩) :
    Statement.Same dialect (.insert insert) (.insert other) := by
  obtain ⟨table, columns, rows⟩ := insert
  obtain ⟨other_table, other_columns, others⟩ := other
  obtain ⟨tables, columns_eq, rows_eq⟩ := Insert.mk.inj same
  have lengths := congrArg (List.map List.length) rows_eq
  simp only [List.map_map, Function.comp_def, List.length_map] at lengths
  simp only at tables columns_eq
  subst tables columns_eq
  exact .insert _ _ lengths

end Insert

namespace CreateTable

theorem same_of_reading_eq {dialect : Dialect} {create other : CreateTable}
    (same : create.reading dialect = other.reading dialect) :
    Statement.Same dialect (.createTable create) (.createTable other) := by
  obtain ⟨table, columns, constraints⟩ := create
  obtain ⟨other_table, others, other_constraints⟩ := other
  obtain ⟨tables, columns_eq, constraints_eq⟩ := Creation.mk.inj same
  simp only at tables columns_eq constraints_eq
  subst tables constraints_eq
  refine .createTable _ _ ((forall₂_map_eq_iff.mpr columns_eq).imp fun column other equal => ?_)
  obtain ⟨names, types, nullables⟩ := CreatedColumn.mk.inj equal
  exact ⟨names, types, nullables⟩

end CreateTable

namespace Statement

variable {dialect : Dialect} {first second : Statement}

/-- The keyword that the text of the statement starts with. -/
def verb : Statement → String
  | .createTable _ => "create"
  | .insert _ => "insert"
  | .select _ => "select"
  | .update _ => "update"
  | .delete _ => "delete"

theorem head?_signs (dialect : Dialect) (statement : Statement) :
    (Token.allSigns dialect (statement.tokens dialect)).head? = some (.keyword statement.verb) := by
  cases statement <;>
    simp [tokens, CreateTable.tokens, Insert.tokens, Select.tokens, Update.tokens, Delete.tokens,
      Token.signs, Keyword.signs, verb]

theorem verb_eq_of_compile {compiled : CompiledStatement}
    (compiles : first.compile dialect = .ok compiled)
    (other_compiles : second.compile dialect = .ok compiled) : first.verb = second.verb := by
  obtain ⟨-, rfl⟩ := compile_eq_ok.mp compiles
  obtain ⟨-, same⟩ := compile_eq_ok.mp other_compiles
  have read := CompiledStatement.signs?_ofTokens dialect (first.tokens dialect)
  rw [← same, CompiledStatement.signs?_ofTokens] at read
  have heads := congrArg List.head? (Option.some.inj read)
  rw [head?_signs, head?_signs] at heads
  exact (Sign.keyword.inj (Option.some.inj heads)).symm

/-- Statements that compile alike with blank values are the same up to what a text does not
show. -/
theorem same_of_compile_blank (first_kind : first.changesRows = false)
    (second_kind : second.changesRows = false) (first_filled : first.Filled)
    (second_filled : second.Filled) {compiled : CompiledStatement}
    (compiles : first.blank.compile dialect = .ok compiled)
    (other_compiles : second.blank.compile dialect = .ok compiled) :
    first.Same dialect second := by
  have verbs := verb_eq_of_compile compiles other_compiles
  cases first with
  | createTable first =>
      cases second with
      | createTable second =>
          have read := Creation.creation?_compile first_filled compiles
          rw [Creation.creation?_compile second_filled other_compiles] at read
          exact CreateTable.same_of_reading_eq (Option.some.inj read).symm
      | insert second | select second => simp [blank, verb] at verbs
      | update second | delete second => cases second_kind
  | insert first =>
      cases second with
      | insert second =>
          have read := Insert.insert?_compile compiles
          rw [Insert.insert?_compile other_compiles] at read
          exact Insert.same_of_bound_eq (Option.some.inj read).symm
      | createTable second | select second => simp [blank, verb] at verbs
      | update second | delete second => cases second_kind
  | select first =>
      cases second with
      | select second =>
          have columns := CompiledStatement.selected?_compile compiles
          rw [CompiledStatement.selected?_compile other_compiles] at columns
          have read := rowStatement?_compile compiles rfl
          rw [rowStatement?_compile other_compiles rfl] at read
          exact Select.same_of_reading_eq (Option.some.inj columns).symm
            (RowStatement.select.inj (Option.some.inj read)).symm
      | createTable second | insert second => simp [blank, verb] at verbs
      | update second | delete second => cases second_kind
  | update first | delete first => cases first_kind

end Statement

/-! ## What a text does not show is not shown -/

namespace Formula

theorem Reassociated.tokens_eq {condition other : Condition}
    (regrouped : Formula.Reassociated condition other) :
    Condition.tokens condition = Condition.tokens other ∧
      ∀ outer, condition.clashes outer = other.clashes outer := by
  induction regrouped with
  | refl condition => exact ⟨rfl, fun _ => rfl⟩
  | symm _ ih => exact ⟨ih.1.symm, fun outer => (ih.2 outer).symm⟩
  | trans _ _ before after =>
      exact ⟨before.1.trans after.1, fun outer => (before.2 outer).trans (after.2 outer)⟩
  | node connective _ _ lefts rights =>
      refine ⟨?_, fun _ => rfl⟩
      rw [Condition.tokens, Condition.tokens, lefts.1, lefts.2, rights.1, rights.2]
  | assoc connective first second third =>
      refine ⟨?_, fun _ => rfl⟩
      simp [Condition.tokens, Formula.clashes]

end Formula

namespace Statement

variable {dialect : Dialect} {first second : Statement}

theorem Same.tokens (same : first.Same dialect second) :
    Token.AllAlike (first.tokens dialect) (second.tokens dialect) := by
  cases same with
  | @createTable table columns others constraints columns_same =>
      have tokens_eq : columns.map (ColumnDefinition.tokens dialect) =
          others.map (ColumnDefinition.tokens dialect) := by
        refine forall₂_map_eq_iff.mp (columns_same.imp fun column other same => ?_)
        rw [ColumnDefinition.tokens, ColumnDefinition.tokens, same.name_eq, same.storageType_eq,
          same.nullable_eq]
      rw [Statement.tokens, Statement.tokens, CreateTable.tokens, CreateTable.tokens, tokens_eq]
      exact Token.allAlike_refl _
  | insert table columns lengths => exact Insert.alike_tokens lengths
  | select columns source joins filters =>
      refine .cons (.refl _) (List.rel_append (Token.allAlike_refl _) ?_)
      cases filters with
      | none => exact .nil
      | some conditions =>
          obtain ⟨grouped, other_grouped, regrouped, other_regrouped, alike⟩ := conditions
          rw [Condition.filterTokens, Condition.filterTokens, regrouped.tokens_eq.1,
            other_regrouped.tokens_eq.1]
          exact .cons (.refl _) alike.tokens

/-- Queries, insertions and creations without empty parts have the same text exactly if they are
the same up to their values, the association of their conditions, and types with the same storage
type, whatever the names of tables, columns and keys are. -/
theorem text_eq_iff_same (first_kind : first.changesRows = false)
    (second_kind : second.changesRows = false) (first_filled : first.Filled)
    (second_filled : second.Filled) {compiled other : CompiledStatement}
    (compiles : first.compile dialect = .ok compiled)
    (other_compiles : second.compile dialect = .ok other) :
    compiled.text = other.text ↔ first.Same dialect second := by
  constructor
  · intro text_eq
    have blanks := compile_blank compiles
    have other_blanks := compile_blank other_compiles
    rw [CompiledStatement.marks, text_eq, ← CompiledStatement.marks] at blanks
    exact same_of_compile_blank first_kind second_kind first_filled second_filled blanks
      other_blanks
  · intro same
    obtain ⟨-, rfl⟩ := compile_eq_ok.mp compiles
    obtain ⟨-, rfl⟩ := compile_eq_ok.mp other_compiles
    exact congrArg String.ofList (Token.text_of_alike same.tokens dialect 1)

/-- A query with a filter, over tables that are named like a keyword and a parameter. -/
def queryWithHostileNames (filter : Condition) : Statement :=
  .select ⟨[⟨"select", "a\"b"⟩, ⟨"$1", "c FROM d"⟩], "select",
    [⟨.leftOuter, "$1", [(⟨"select", "where"⟩, ⟨"$1", "?"⟩)]⟩], some filter⟩

/-- The test of a column for a value. -/
def labelled (value : String) : Condition :=
  .atom (.test (.compare ⟨"$1", "?"⟩ .eq (.text value)))

/-- The creation of a table with one column. -/
def creationOfColumn (name : String) (nullable : Bool) : Statement :=
  .createTable ⟨"t", [⟨name, .varchar, nullable⟩], []⟩

/-- Two queries have the same text though they nest their tests otherwise and have other values. A
column that is called like a required one does not have the text of a required one. -/
theorem text_eq_iff_same_hostile_names :
    (∃ compiled other,
      (queryWithHostileNames (.node .and (labelled "1") (.node .and (labelled "2")
        (labelled "3")))).compile .postgresql = .ok compiled ∧
      (queryWithHostileNames (.node .and (.node .and (labelled "x") (labelled "y"))
        (labelled "z"))).compile .postgresql = .ok other ∧
      compiled.text = other.text) ∧
      ∃ compiled other,
        (creationOfColumn "a VARCHAR NOT NULL" true).compile .h2 = .ok compiled ∧
        (creationOfColumn "a" false).compile .h2 = .ok other ∧ compiled.text ≠ other.text := by
  have filled (filter : Condition) : (queryWithHostileNames filter).Filled := by
    refine ⟨List.cons_ne_nil _ _, fun join member => ?_⟩
    obtain rfl := List.mem_singleton.mp member
    exact List.cons_ne_nil _ _
  have created (name : String) (nullable : Bool) : (creationOfColumn name nullable).Filled :=
    ⟨List.cons_ne_nil _ _, nofun⟩
  have compiles {dialect : Dialect} (statement : Statement)
      (sound : statement.fault? dialect = none) :=
    compile_eq_ok.mpr ⟨sound, rfl⟩
  constructor
  · refine ⟨_, _, compiles _ rfl, compiles _ rfl,
      (text_eq_iff_same rfl rfl (filled _) (filled _) (compiles _ rfl) (compiles _ rfl)).mpr ?_⟩
    have values (value other : String) : (labelled value).Alike (labelled other) :=
      .atom (.test (.compare _ _ ⟨nofun, nofun⟩))
    exact .select _ _ _ (.some ⟨_, _, .symm (.assoc .and _ _ _), .refl _,
      .node .and (.node .and (values _ _) (values _ _)) (values _ _)⟩)
  · refine ⟨_, _, compiles _ rfl, compiles _ rfl, fun same => ?_⟩
    have columns := (text_eq_iff_same rfl rfl (created _ _) (created _ _) (compiles _ rfl)
      (compiles _ rfl)).mp same
    cases columns with
    | createTable table constraints same =>
        cases same with
        | cons first _ => exact absurd first.nullable_eq (by decide)

end Statement

end TableMapping
