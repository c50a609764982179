import TableMapping.Proofs.Request.Insertion
import TableMapping.Proofs.Request.Rows
import TableMapping.Proofs.Statement.Alike

/-!
# Requests that differ in their values

Two runs of the same calls with other values become statements of the same texts, or stop with the
same error, provided that the same values are absent. Values reach a database as parameters only.
-/

namespace TableMapping

/-! ## Calls -/

/-- The predicates come from the same calls, with values that are absent in both or in none. -/
inductive Predicate.Alike : Predicate → Predicate → Prop
  | compare (key : PropertyKey) (comparison : Comparison) {value other : SqlValue}
      (absent : value = .null ↔ other = .null) :
      Alike (Predicate.compare key comparison value) (Predicate.compare key comparison other)
  | eq (key : PropertyKey) {value other : SqlValue} (absent : value = .null ↔ other = .null) :
      Alike (Predicate.eq key value) (Predicate.eq key other)
  | notEq (key : PropertyKey) {value other : SqlValue} (absent : value = .null ↔ other = .null) :
      Alike (Predicate.notEq key value) (Predicate.notEq key other)
  | isNull (key : PropertyKey) : Alike (Predicate.isNull key) (Predicate.isNull key)
  | isNotNull (key : PropertyKey) : Alike (Predicate.isNotNull key) (Predicate.isNotNull key)
  | contains (key : PropertyKey) (fragment other : String) :
      Alike (Predicate.contains key fragment) (Predicate.contains key other)
  | startsWith (key : PropertyKey) (fragment other : String) :
      Alike (Predicate.startsWith key fragment) (Predicate.startsWith key other)
  | endsWith (key : PropertyKey) (fragment other : String) :
      Alike (Predicate.endsWith key fragment) (Predicate.endsWith key other)
  | and {left right other_left other_right : Predicate} (lefts : Alike left other_left)
      (rights : Alike right other_right) :
      Alike (left.and right) (other_left.and other_right)
  | or {left right other_left other_right : Predicate} (lefts : Alike left other_left)
      (rights : Alike right other_right) :
      Alike (left.or right) (other_left.or other_right)

/-- The sources come from the same calls, with alike predicates. -/
inductive Source.Alike : Source → Source → Prop
  | all (record : RecordType) : Alike (Source.all record) (Source.all record)
  | join (request : JoinRequest) {source other : Source} (earlier : Alike source other) :
      Alike (source.join request) (other.join request)
  | filtered {predicate other_predicate : Predicate} (predicates : predicate.Alike other_predicate)
      {source other : Source} (earlier : Alike source other) :
      Alike (source.filtered predicate) (other.filtered other_predicate)
  | combine (connective : Connective) {predicate other_predicate : Predicate}
      (predicates : predicate.Alike other_predicate) {source other : Source}
      (earlier : Alike source other) :
      Alike (source.combine connective predicate) (other.combine connective other_predicate)

/-- The assignments come from the same calls, with values that are absent in both or in none. -/
inductive Assignments.Alike : Assignments → Assignments → Prop
  | nil : Alike [] []
  | set (property : String) {value other : SqlValue} (absent : value = .null ↔ other = .null)
      {assignments others : Assignments} (earlier : Alike assignments others) :
      Alike (assignments.set property value) (others.set property other)

/-- The same is asked for, up to the assigned values. -/
inductive RowRequest.Alike : RowRequest → RowRequest → Prop
  | select : Alike .select .select
  | update {assignments others : Assignments} (alike : assignments.Alike others) :
      Alike (.update assignments) (.update others)
  | delete : Alike .delete .delete

/-- The records lack the same values. -/
def Record.Alike (record other : Record) : Prop :=
  ∀ property, record property = .null ↔ other property = .null

/-! ## Predicates and sources -/

namespace Predicate

variable {predicate other : Predicate}

/-- Alike predicates test the same properties in the same way. -/
theorem Alike.related (alike : predicate.Alike other) :
    Formula.Related Test.Alike predicate other := by
  induction alike with
  | compare key comparison absent => exact .atom (.compare key comparison absent)
  | @eq key value other absent =>
      by_cases null : value = .null
      · rw [Predicate.eq, Predicate.eq, if_pos null, if_pos (absent.mp null)]
        exact .atom (.isNull key)
      · rw [Predicate.eq, Predicate.eq, if_neg null, if_neg (mt absent.mpr null)]
        exact .atom (.compare key .eq absent)
  | @notEq key value other absent =>
      by_cases null : value = .null
      · rw [Predicate.notEq, Predicate.notEq, if_pos null, if_pos (absent.mp null)]
        exact .atom (.isNotNull key)
      · rw [Predicate.notEq, Predicate.notEq, if_neg null, if_neg (mt absent.mpr null)]
        exact .atom (.compare key .notEq absent)
  | isNull key => exact .atom (.isNull key)
  | isNotNull key => exact .atom (.isNotNull key)
  | contains key | startsWith key | endsWith key =>
      exact .atom (.compare key .like ⟨nofun, nofun⟩)
  | and _ _ left_ih right_ih => exact .node .and left_ih right_ih
  | or _ _ left_ih right_ih => exact .node .or left_ih right_ih

end Predicate

theorem Formula.Related.traverse {α β γ δ ε : Type} {related : α → β → Prop}
    {outcome : γ → δ → Prop} {replace : α → Except ε γ} {other_replace : β → Except ε δ}
    (steps : ∀ atom other, related atom other →
      Agree outcome (replace atom) (other_replace other))
    {formula : Formula α} {other : Formula β} (alike : Formula.Related related formula other) :
    Agree (Formula.Related outcome) (formula.traverse replace) (other.traverse other_replace) := by
  induction alike with
  | atom atoms => exact (steps _ _ atoms).bind fun _ _ results => .ok (.atom results)
  | node connective _ _ left_ih right_ih =>
      exact left_ih.bind fun _ _ lefts => right_ih.bind fun _ _ rights =>
        .ok (.node connective lefts rights)

namespace Scope

variable {scope : Scope}

theorem agree_atom {test other : Test PropertyKey} (alike : test.Alike other) :
    Agree Atom.Alike (scope.atom test) (scope.atom other) := by
  cases alike with
  | compare key comparison absent =>
      exact Agree.bind_self fun reference => .ok (.test (.compare reference comparison absent))
  | isNull key => exact Agree.bind_self fun reference => .ok (.test (.isNull reference))
  | isNotNull key => exact Agree.bind_self fun reference => .ok (.test (.isNotNull reference))

theorem agree_filter {predicate other : Option Predicate}
    (alike : Option.Rel (Formula.Related Test.Alike) predicate other) :
    Agree (Option.Rel Condition.Alike) (scope.filter predicate) (scope.filter other) := by
  cases alike with
  | none => exact .ok .none
  | some predicates =>
      have steps (test other : Test PropertyKey) (tests : test.Alike other) :
          Agree Atom.Alike (scope.atom test) (scope.atom other) := agree_atom tests
      exact (predicates.traverse steps).bind fun _ _ conditions => .ok (.some conditions)

end Scope

namespace Source

variable {source other : Source}

theorem Alike.parts (alike : source.Alike other) :
    source.root = other.root ∧ source.joins = other.joins ∧
      Option.Rel (Formula.Related Test.Alike) source.filter other.filter := by
  induction alike with
  | all record => exact ⟨rfl, rfl, .none⟩
  | join request _ ih =>
      obtain ⟨roots, joins, filters⟩ := ih
      exact ⟨roots, congrArg (· ++ [request]) joins, filters⟩
  | filtered predicates _ ih =>
      obtain ⟨roots, joins, -⟩ := ih
      exact ⟨roots, joins, .some predicates.related⟩
  | @combine connective predicate other_predicate predicates source other _ ih =>
      obtain ⟨root, joins, filter⟩ := source
      obtain ⟨other_root, other_joins, other_filter⟩ := other
      obtain ⟨roots, joins, filters⟩ := ih
      cases filters with
      | none => exact ⟨roots, joins, .some predicates.related⟩
      | some filters =>
          exact ⟨roots, joins, .some (.node connective filters predicates.related)⟩

end Source

/-- The sources bring the same tables and joins into a statement, and alike filters. -/
structure ResolvedSource.Alike (resolved other : ResolvedSource) : Prop where
  scope_eq : resolved.scope = other.scope
  joins_eq : resolved.joins = other.joins
  filters : Option.Rel Condition.Alike resolved.filter other.filter

theorem Source.Alike.resolve {source other : Source} (alike : source.Alike other)
    (registry : Registry) :
    Agree ResolvedSource.Alike (source.resolve registry) (other.resolve registry) := by
  obtain ⟨roots, joins, filters⟩ := alike.parts
  have tables : Scope.ofSource registry source = Scope.ofSource registry other := by
    rw [Scope.ofSource, Scope.ofSource, roots, joins]
  rw [Source.resolve, Source.resolve, tables]
  refine Agree.bind_self fun scope => ?_
  refine (Scope.agree_filter filters).bind fun _ _ conditions => ?_
  exact Agree.bind_self fun clauses => .ok ⟨rfl, rfl, conditions⟩

/-! ## Assignments -/

namespace Assignments

/-- The same property is assigned, and both values are absent or none is. -/
def Pair (assigned other : String × SqlValue) : Prop :=
  assigned.1 = other.1 ∧ (assigned.2 = .null ↔ other.2 = .null)

theorem pairs_set {property : String} {value other : SqlValue}
    (absent : value = .null ↔ other = .null) {assignments others : Assignments}
    (pairs : List.Forall₂ Pair assignments others) :
    List.Forall₂ Pair (assignments.set property value) (others.set property other) := by
  induction pairs with
  | nil => exact .cons ⟨rfl, absent⟩ .nil
  | @cons first other_first rest other_rest pair pairs ih =>
      rw [set, set, pair.1]
      split
      · exact .cons ⟨rfl, absent⟩ pairs
      · exact .cons pair ih

theorem Alike.pairs {assignments others : Assignments} (alike : assignments.Alike others) :
    List.Forall₂ Pair assignments others := by
  induction alike with
  | nil => exact .nil
  | set property absent _ ih => exact pairs_set absent ih

end Assignments

theorem RowUpdate.agree_assignment {table : Table} {assigned other : String × SqlValue}
    (pair : Assignments.Pair assigned other) :
    Agree (fun assigned other => assigned.1 = other.1) (RowUpdate.assignment table assigned)
      (RowUpdate.assignment table other) := by
  obtain ⟨property, value⟩ := assigned
  obtain ⟨_, other_value⟩ := other
  obtain ⟨rfl, absent⟩ := pair
  refine Agree.bind_self fun column => ?_
  simp only [absent]
  exact Agree.bind_self fun _ => .ok rfl

/-! ## Statements on rows -/

namespace RowRequest

variable {request other_request : RowRequest} {source other : Source}

theorem Alike.assigned (alike : request.Alike other_request) {resolved other : ResolvedSource}
    (same : resolved.scope = other.scope) :
    Agree (List.Forall₂ fun assigned other => assigned.1 = other.1) (request.assigned resolved)
      (other_request.assigned other) := by
  cases alike with
  | select | delete => exact .ok .nil
  | update assignments =>
      simp only [RowRequest.assigned, same]
      exact Agree.mapM assignments.pairs fun _ _ => RowUpdate.agree_assignment

theorem Alike.tree (alike : request.Alike other_request) {resolved other : ResolvedSource}
    (sources : resolved.Alike other) {assigned others : List (String × SqlValue)}
    (columns : List.Forall₂ (fun assigned other => assigned.1 = other.1) assigned others) :
    (request.tree resolved assigned).Alike (other_request.tree other others) := by
  obtain ⟨scope, joins, filter⟩ := resolved
  obtain ⟨_, _, _⟩ := other
  obtain ⟨rfl, rfl, filters⟩ := sources
  cases alike with
  | select => exact .select _ _ joins filters
  | update assignments => exact .update _ joins (forall₂_map_eq_iff.mp columns) filters
  | delete => exact .delete _ joins filters

theorem Alike.statement (alike : request.Alike other_request) (sources : source.Alike other)
    (registry : Registry) :
    Agree Statement.Alike (request.statement registry source)
      (other_request.statement registry other) := by
  rw [statement_eq, statement_eq]
  refine (sources.resolve registry).bind fun resolved other resolves => ?_
  refine (alike.assigned resolves.scope_eq).bind fun assigned others columns => ?_
  exact .ok (alike.tree resolves columns)

theorem Alike.compile (alike : request.Alike other_request) (sources : source.Alike other)
    (registry : Registry) :
    Agree (fun compiled other => compiled.text = other.text) (request.compile registry source)
      (other_request.compile registry other) := by
  rw [compile_eq, compile_eq]
  exact (alike.statement sources registry).bind fun _ _ statements =>
    statements.compile.mapError _

end RowRequest

/-! ## Insertions -/

namespace Table

variable {table : Table} {record other : Record}

theorem agree_insertedRow (alike : record.Alike other) (number : Nat) (columns : List Column) :
    Agree (fun row other => row.columns = other.columns)
      (table.insertedRow number record columns) (table.insertedRow number other columns) := by
  induction columns with
  | nil => exact .ok rfl
  | cons column rest ih =>
      simp only [insertedRow, alike column.property.name]
      split
      · exact ih
      · refine Agree.bind_self fun _ => ih.bind fun row other same => ?_
        exact .ok (congrArg (column :: ·) same)

theorem agree_insertedRows {records others : List Record}
    (alike : List.Forall₂ Record.Alike records others) (number : Nat) :
    Agree (List.Forall₂ fun row other => row.columns = other.columns)
      (table.insertedRows number records) (table.insertedRows number others) := by
  induction alike generalizing number with
  | nil => exact .ok .nil
  | cons first _ ih =>
      exact (agree_insertedRow first number table.columns).bind fun row other same =>
        (ih (number + 1)).bind fun rows others rest => .ok (.cons same rest)

end Table

namespace RowGroup

/-- The groups give values to the same columns in the same number of rows. -/
structure Alike (group other : RowGroup) : Prop where
  columns_eq : group.columns = other.columns
  lengths_eq : group.rows.map List.length = other.rows.map List.length

theorem alike_add {row other : InsertedRow} (same : row.columns = other.columns)
    {groups others : List RowGroup} (alike : List.Forall₂ Alike groups others) :
    List.Forall₂ Alike (add row groups) (add other others) := by
  have lengths : row.values.length = other.values.length := by
    simpa [InsertedRow.columns, InsertedRow.values] using congrArg List.length same
  have alone : Alike ⟨row.columns, [row.values]⟩ ⟨other.columns, [other.values]⟩ :=
    ⟨same, by simp [lengths]⟩
  cases alike with
  | nil => exact .cons alone .nil
  | @cons group other_group groups others first rest =>
      -- The columns alone decide whether the row joins the first group.
      rw [add, add, same, first.columns_eq]
      split
      · exact .cons ⟨rfl, by simp [lengths, first.lengths_eq]⟩ rest
      · exact .cons (same ▸ alone) (.cons first rest)

theorem alike_collect {rows others : List InsertedRow}
    (alike : List.Forall₂ (fun row other => row.columns = other.columns) rows others) :
    List.Forall₂ Alike (collect rows) (collect others) := by
  induction alike with
  | nil => exact .nil
  | cons same _ ih => exact alike_add same ih

theorem Alike.insert {group other : RowGroup} (alike : group.Alike other) (table : Table) :
    Statement.Alike (.insert (group.insert table)) (.insert (other.insert table)) := by
  obtain ⟨columns, rows⟩ := group
  obtain ⟨_, others⟩ := other
  obtain ⟨rfl, lengths⟩ := alike
  exact .insert _ _ lengths

end RowGroup

namespace Insertion

variable {records others : List Record}

theorem agree_trees (registry : Registry) (record : RecordType)
    (alike : List.Forall₂ Record.Alike records others) :
    Agree (List.Forall₂ fun tree other => Statement.Alike (.insert tree) (.insert other))
      (trees registry ⟨record, records⟩) (trees registry ⟨record, others⟩) := by
  have listed : records ≠ [] ↔ others ≠ [] := by
    cases alike <;> simp
  refine Agree.bind_self fun table => ?_
  simp only [listed]
  refine Agree.bind_self fun _ => ?_
  refine (table.agree_insertedRows alike 0).bind fun rows others same => .ok ?_
  rw [List.forall₂_map_left_iff, List.forall₂_map_right_iff]
  exact (RowGroup.alike_collect same).imp fun _ _ groups => groups.insert table

theorem agree_compile (registry : Registry) (record : RecordType)
    (alike : List.Forall₂ Record.Alike records others) :
    Agree (List.Forall₂ fun compiled other => compiled.text = other.text)
      (compile registry ⟨record, records⟩) (compile registry ⟨record, others⟩) :=
  (agree_trees registry record alike).bind fun _ _ trees =>
    Agree.mapM trees fun _ _ statements => statements.compile.mapError _

end Insertion

/-- Values do not reach the texts of statements. Two trees that are the same up to their values, as
long as the same columns are compared with the absent value, have the same fault or the same text.
Two runs of the same calls, for records to be inserted or for a query, an update or a removal, give
the same error or statements of the same texts in the same order, provided that the same values are
absent in both. -/
theorem texts_do_not_depend_on_values :
    (∀ (dialect : Dialect) (statement other : Statement), statement.Alike other →
      (statement.compile dialect).map CompiledStatement.text =
        (other.compile dialect).map CompiledStatement.text) ∧
    (∀ (registry : Registry) (record : RecordType) (records others : List Record),
      List.Forall₂ Record.Alike records others →
        (Insertion.compile registry ⟨record, records⟩).map (List.map CompiledStatement.text) =
          (Insertion.compile registry ⟨record, others⟩).map (List.map CompiledStatement.text)) ∧
    ∀ (registry : Registry) (source other_source : Source) (request other : RowRequest),
      source.Alike other_source → request.Alike other →
        (request.compile registry source).map CompiledStatement.text =
          (other.compile registry other_source).map CompiledStatement.text := by
  refine ⟨fun dialect statement other alike => ?_, fun registry record records others alike => ?_,
    fun registry source other_source request other sources alike => ?_⟩
  · exact alike.compile.map_eq fun _ _ same => same
  · exact (Insertion.agree_compile registry record alike).map_eq fun _ _ same =>
      forall₂_map_eq_iff.mp same
  · exact (alike.compile sources registry).map_eq fun _ _ same => same

namespace Staff

/-- The users with the given last name. -/
def usersNamed (lastname : String) : Source :=
  (Source.all user).filtered (Predicate.eq ⟨user, "lastname"⟩ (.text lastname))

/-- The removal of the users with the given last name. -/
def removalOfNamed (lastname : String) : Statement :=
  .delete ⟨"users", [], some (.atom (.test (.compare ⟨"users", "lname"⟩ .eq (.text lastname))))⟩

/-- The change of a last name to the given one. -/
def changeOfName (lastname : String) : RowRequest :=
  .update (Assignments.set "lastname" (.text lastname) [])

/-- A name that looks like the end of a statement and the start of another one. -/
def hostileName : String := "'); DROP TABLE users; -- \"?\" $1"

/-- Statements on a user with such a name have the texts that they have for an ordinary name. -/
theorem texts_do_not_depend_on_name :
    ((removalOfNamed hostileName).compile .h2).map CompiledStatement.text =
        .ok "DELETE FROM users WHERE users.lname = ?" ∧
      (Insertion.compile (registry .sqlite) ⟨user, [named .null hostileName]⟩).map
          (List.map CompiledStatement.text) =
        .ok ["INSERT INTO users (lname, alias, role_id) VALUES (?, ?, ?)"] ∧
      ((changeOfName hostileName).compile (registry .postgresql) (usersNamed hostileName)).map
          CompiledStatement.text =
        .ok "UPDATE users SET lname = $1 WHERE users.lname = $2" := by
  have absent : SqlValue.text hostileName = .null ↔ SqlValue.text "Doe" = .null := ⟨nofun, nofun⟩
  have removals : (removalOfNamed hostileName).Alike (removalOfNamed "Doe") :=
    .delete "users" [] (.some (.atom (.test (.compare _ .eq absent))))
  have records : (named .null hostileName).Alike (named .null "Doe") := by
    intro property
    unfold named
    split <;> simp
  have sources : (usersNamed hostileName).Alike (usersNamed "Doe") :=
    .filtered (.eq _ absent) (.all user)
  have changes : (changeOfName hostileName).Alike (changeOfName "Doe") :=
    .update (.set "lastname" absent .nil)
  obtain ⟨trees, insertions, requests⟩ := texts_do_not_depend_on_values
  refine ⟨(trees _ _ _ removals).trans rfl, ?_, (requests _ _ _ _ _ sources changes).trans rfl⟩
  exact (insertions _ _ _ _ (.cons records .nil)).trans rfl

end Staff

end TableMapping
