import TableMapping.Proofs.Database
import TableMapping.Proofs.Request.Filter
import TableMapping.Proofs.Request.Scope

/-!
# Rows that are changed

An update or a removal changes the rows of the first table that a query for the same rows returns
at least once, whatever the database holds.
-/

namespace TableMapping

/-! ## Conditions in subqueries -/

namespace Condition

variable {dialect : Dialect}

theorem eval_reading_and (left right : Condition) (meaning : Atom → Truth) :
    (reading dialect (.node .and left right)).eval meaning =
      ((left.reading dialect).eval meaning).and ((right.reading dialect).eval meaning) := by
  simp only [reading, Formula.eval_leftAssociated]
  rfl

theorem admits_conjunction? {tests : Tests} {combination : Combination}
    (first second : Option Condition) :
    Admits tests combination ((conjunction? first second).map (reading dialect)) ↔
      Admits tests combination (first.map (reading dialect)) ∧
        Admits tests combination (second.map (reading dialect)) := by
  cases first with
  | none => cases second <;> simp [conjunction?, Admits]
  | some left =>
      cases second with
      | none => simp [conjunction?, Admits]
      | some right => simp [conjunction?, Admits, eval_reading_and, Truth.and_eq_true]

theorem eval_ofPairs?_eq_true {pairs : List (ColumnRef × ColumnRef)} {condition : Condition}
    (found : ofPairs? pairs = some condition) (meaning : Atom → Truth) :
    (condition.reading dialect).eval meaning = .true ↔
      ∀ pair ∈ pairs, meaning (.columnsEqual pair.1 pair.2) = .true := by
  have folded (rest : List (ColumnRef × ColumnRef)) (first : Condition) :
      (reading dialect (rest.foldl (fun earlier pair =>
          .node .and earlier (.atom (.columnsEqual pair.1 pair.2))) first)).eval meaning = .true ↔
        (first.reading dialect).eval meaning = .true ∧
          ∀ pair ∈ rest, meaning (.columnsEqual pair.1 pair.2) = .true := by
    induction rest generalizing first with
    | nil => simp
    | cons pair rest ih =>
        rw [List.foldl_cons, ih, eval_reading_and, Truth.and_eq_true, List.forall_mem_cons,
          and_assoc]
        rfl
  cases pairs with
  | nil => simp [ofPairs?] at found
  | cons pair rest =>
      obtain rfl := Option.some.inj found
      rw [folded, List.forall_mem_cons]
      rfl

theorem atoms_reading_ofPairs? {pairs : List (ColumnRef × ColumnRef)} {condition : Condition}
    (found : ofPairs? pairs = some condition) :
    (condition.reading dialect).atoms = pairs.map fun pair => .columnsEqual pair.1 pair.2 := by
  simp [atoms_reading, (ofPairs?_spec found).1, Atom.bound]

end Condition

namespace RowFilter

/-- The filter asks for rows of a first table and maybe of others that are tied to the row of the
root: whenever the condition is true, so is the equality of a column of each. -/
def TiedTo (root first : Table) (filter : RowFilter) : Prop :=
  ∃ query condition left right, filter = .exists query ∧ query.source = first.name ∧
    query.filter = some condition ∧ left ∈ root.columns ∧ right ∈ first.columns ∧
    .columnsEqual (root.reference left) (first.reference right) ∈ condition.atoms ∧
    ∀ meaning : Atom → Truth, condition.eval meaning = .true →
      meaning (.columnsEqual (root.reference left) (first.reference right)) = .true

end RowFilter

/-! ## Subqueries of updates and removals -/

namespace RowFilter

variable {dialect : Dialect} {filter : Option Condition}

theorem ofJoins_eq_all {joins : List Join} :
    ofJoins dialect filter joins = .all ↔ joins = [] ∧ filter = none := by
  cases joins <;> cases filter <;> simp [ofJoins]

/-- The pairs of the first join tie a subquery to the row of the root. -/
theorem tiedTo_ofJoins {root first : Table} {join : Join} (rest : List Join)
    (named : join.table = first.name) (pairs_ne_nil : join.on ≠ [])
    (columns : ∀ pair ∈ join.on, (∃ column ∈ root.columns, root.reference column = pair.1) ∧
      ∃ column ∈ first.columns, first.reference column = pair.2) :
    (ofJoins dialect filter (join :: rest)).TiedTo root first := by
  obtain ⟨pair, pairs, shape⟩ := List.exists_cons_of_ne_nil pairs_ne_nil
  have listed : pair ∈ join.on := by simp [shape]
  obtain ⟨⟨left, left_stored, left_eq⟩, right, right_stored, right_eq⟩ := columns pair listed
  obtain ⟨on, found⟩ : ∃ on, Condition.ofPairs? join.on = some on := by
    simp [shape, Condition.ofPairs?]
  obtain ⟨whole, combined, contains, entails⟩ : ∃ whole,
      Condition.conjunction? (some on) filter = some whole ∧
        (∀ atom ∈ (on.reading dialect).atoms, atom ∈ (whole.reading dialect).atoms) ∧
        ∀ meaning : Atom → Truth, (whole.reading dialect).eval meaning = .true →
          (on.reading dialect).eval meaning = .true := by
    cases filter with
    | none => exact ⟨on, rfl, fun _ member => member, fun _ holds => holds⟩
    | some condition =>
        refine ⟨.node .and on condition, rfl, fun atom member => ?_, fun meaning holds => ?_⟩
        · rw [Condition.atoms_reading] at member ⊢
          rw [Formula.atoms, List.map_append]
          exact List.mem_append_left _ member
        · rw [Condition.eval_reading_and, Truth.and_eq_true] at holds
          exact holds.1
  refine ⟨_, whole.reading dialect, left, right, rfl, named, ?_, left_stored, right_stored,
    contains _ ?_, fun meaning holds => ?_⟩
  · rw [Join.condition?, found, combined]
    rfl
  · rw [Condition.atoms_reading_ofPairs? found, left_eq, right_eq]
    exact List.mem_map.mpr ⟨pair, listed, rfl⟩
  · rw [left_eq, right_eq]
    exact (Condition.eval_ofPairs?_eq_true found meaning).mp (entails meaning holds) pair listed

/-- The filter of an update or a removal admits the rows of the first table that the query with the
same joins and the same filter returns. -/
theorem admits_ofJoins_iff {database : Database} {tests : Tests} {root : String} {row : Row}
    (member : row ∈ database root) {joins : List Join}
    (distinct : (root :: joins.map Join.table).Nodup)
    (inner : ∀ first ∈ joins.head?, first.kind = .inner)
    (columns : ∀ first ∈ joins.head?, ∀ pair ∈ first.on,
      pair.1.table = root ∧ pair.2.table = first.table) :
    (ofJoins dialect filter joins).Admits database tests root row ↔
      ∃ combination ∈ Query.rows database tests []
          ⟨root, joins.map (Join.reading dialect), filter.map (Condition.reading dialect)⟩,
        combination.head? = some (root, row) := by
  cases joins with
  | nil =>
      rw [Query.exists_rows_iff member]
      cases filter <;> simp [ofJoins, Admits, JoinClause.extendAll, Condition.Admits]
  | cons first rest =>
      have on_columns : ∀ condition ∈ (first.reading dialect).on, ∀ atom ∈ condition.atoms,
          ∀ column ∈ atom.columns, column.table = root ∨ column.table = first.table := by
        intro condition read atom listed column mentioned
        obtain ⟨on, found, rfl⟩ := Option.map_eq_some_iff.mp read
        rw [Condition.atoms_reading_ofPairs? found] at listed
        obtain ⟨pair, paired, rfl⟩ := List.mem_map.mp listed
        have tables := columns first rfl pair paired
        simp only [Atom.columns, List.mem_cons, List.not_mem_nil, or_false] at mentioned
        rcases mentioned with rfl | rfl
        · exact Or.inl tables.1
        · exact Or.inr tables.2
      have still_distinct : (root :: (first.reading dialect).table ::
          (rest.map (Join.reading dialect)).map JoinClause.table).Nodup := by
        rw [List.map_map]
        exact distinct
      exact (Query.exists_rows_iff_subquery member (inner first rfl) still_distinct on_columns
        fun combination => Condition.admits_conjunction? first.condition? filter).symm

end RowFilter

/-! ## Requests -/

namespace RowRequest

variable {registry : Registry} {source : Source} {request : RowRequest}
  {changed : CompiledStatement}

theorem filterFault?_of_compile {dialect : Dialect} {resolved : ResolvedSource}
    {assigned : List (String × SqlValue)}
    (written : (request.tree resolved assigned).compile dialect = .ok changed) :
    Condition.filterFault? resolved.filter = none := by
  have sound := (Statement.compile_eq_ok.mp written).1
  cases request with
  | select =>
      simp only [tree, Statement.fault?, Selection.query] at sound
      split at sound
      · cases sound
      · exact sound
  | update assignments =>
      simp only [tree, Statement.fault?] at sound
      split at sound
      · cases sound
      · exact sound
  | delete => exact sound

theorem select_compile_of_compile (valid : registry.Valid) {resolved : ResolvedSource}
    (found : source.resolve registry = .ok resolved) {assigned : List (String × SqlValue)}
    (written : (request.tree resolved assigned).compile registry.dialect = .ok changed) :
    ∃ selected, select.compile registry source = .ok selected ∧
      (Statement.select (Selection.query resolved)).compile registry.dialect = .ok selected := by
  obtain ⟨in_scope, -, -⟩ := Source.resolve_eq_ok.mp found
  have scope_sound := Scope.sound_of_ofSource valid in_scope
  have root_member := scope_sound.tables_mem resolved.scope.root List.mem_cons_self
  obtain ⟨selected, compiles, prepared⟩ := Selection.prepare_of_resolve valid.toSound found
    root_member (filterFault?_of_compile written)
  exact ⟨selected, map_eq_ok.mpr ⟨_, prepared, rfl⟩, compiles⟩

end RowRequest

/-- An update or a removal changes exactly the rows of its first table that the query for the same
source returns, for all contents of the tables and all meanings of tests. It has a filter if the
source has joins or a filter, and with joins the filter is a subquery that is tied to the row. -/
theorem change_touches_selected_rows {registry : Registry} (built : registry.Built)
    {source : Source} (inner : ∀ join ∈ source.joins, join.kind = .inner)
    {request : RowRequest} (changes : request ≠ .select) {changed : CompiledStatement}
    (compiles : request.compile registry source = .ok changed) :
    ∃ root selected query filter, registry.table? source.root = some root ∧
      RowRequest.select.compile registry source = .ok selected ∧
      selected.rowStatement? registry.dialect = some (.select query) ∧
      changed.rowStatement? registry.dialect = some (.change root.name filter) ∧
      query.source = root.name ∧
      (∀ (database : Database) (tests : Tests), ∀ row ∈ database root.name,
        filter.Admits database tests root.name row ↔
          ∃ combination ∈ query.rows database tests [],
            combination.head? = some (root.name, row)) ∧
      (source.joins ≠ [] ∨ source.filter ≠ none → filter ≠ .all) ∧
      ∀ first ∈ source.joins.head?, ∃ joined, registry.table? first.record = some joined ∧
        filter.TiedTo root joined := by
  have valid := built.valid
  obtain ⟨resolved, assigned, found, written⟩ := RowRequest.tree_of_compile compiles
  have source_sound := Source.sound_of_resolve valid found
  obtain ⟨selected, selects, selected_written⟩ :=
    RowRequest.select_compile_of_compile valid found written
  have reads : (request.tree resolved assigned).reading? registry.dialect =
      some (.change resolved.scope.root.name
        (RowFilter.ofJoins registry.dialect resolved.filter resolved.joins)) := by
    cases request with
    | select => exact absurd rfl changes
    | update assignments | delete => rfl
  have first_inner : ∀ first ∈ resolved.joins.head?, first.kind = .inner := by
    intro first is_first
    have kind_mem : first.kind ∈ source.joins.map JoinRequest.kind := by
      rw [← source_sound.kinds_eq]
      exact List.mem_map.mpr ⟨first, List.mem_of_head? is_first, rfl⟩
    obtain ⟨join, member, same⟩ := List.mem_map.mp kind_mem
    rw [← same, inner join member]
  have same_head :
      resolved.joins.head?.map Join.kind = source.joins.head?.map JoinRequest.kind := by
    simpa using congrArg List.head? source_sound.kinds_eq
  refine ⟨resolved.scope.root, selected, _, _, source_sound.root_found, selects,
    Statement.rowStatement?_compile selected_written rfl,
    Statement.rowStatement?_compile written reads, rfl, ?_, ?_, ?_⟩
  · intro database tests row member
    refine RowFilter.admits_ofJoins_iff member source_sound.names_nodup first_inner ?_
    intro first is_first pair paired
    obtain ⟨request, is_request, -⟩ : ∃ request, source.joins.head? = some request ∧
        request.kind = first.kind := by
      rw [Option.mem_def] at is_first
      rw [is_first] at same_head
      exact Option.map_eq_some_iff.mp same_head.symm
    obtain ⟨table, -, named, -, columns⟩ :=
      source_sound.first_join first is_first request is_request
    obtain ⟨⟨left, -, left_eq⟩, right, -, right_eq⟩ := columns pair paired
    rw [← left_eq, ← right_eq, named]
    exact ⟨rfl, rfl⟩
  · intro restricted unrestricted
    obtain ⟨no_joins, no_filter⟩ := RowFilter.ofJoins_eq_all.mp unrestricted
    have no_source_joins : source.joins = [] := by
      simpa [no_joins] using source_sound.kinds_eq.symm
    rcases restricted with joins_ne_nil | filter_ne_none
    · exact joins_ne_nil no_source_joins
    · exact filter_ne_none (source_sound.filter_eq_none no_filter)
  · intro request is_request
    rw [Option.mem_def] at is_request
    rw [is_request] at same_head
    obtain ⟨first, is_first, -⟩ := Option.map_eq_some_iff.mp same_head
    obtain ⟨table, table_found, named, pairs_ne_nil, columns⟩ :=
      source_sound.first_join first is_first request is_request
    obtain ⟨rest, shape⟩ := List.head?_eq_some_iff.mp is_first
    rw [shape]
    exact ⟨table, table_found, RowFilter.tiedTo_ofJoins rest named pairs_ne_nil columns⟩

namespace Staff

/-- The users whose role is labelled as the one of guests. -/
def guests : Source :=
  usersWithRoles.combine .and (Predicate.eq ⟨role, "label"⟩ (.text "guest"))

/-- The removal of guests changes the users that the query for guests returns. -/
theorem removal_touches_guests :
    ∃ changed filter query, RowRequest.delete.compile (registry .sqlite) guests = .ok changed ∧
      changed.rowStatement? .sqlite = some (.change "users" filter) ∧ filter ≠ .all ∧
      ∀ (database : Database) (tests : Tests), ∀ row ∈ database "users",
        filter.Admits database tests "users" row ↔
          ∃ combination ∈ Query.rows database tests [] query,
            combination.head? = some ("users", row) := by
  obtain ⟨changed, compiles⟩ : ∃ changed,
      RowRequest.delete.compile (registry .sqlite) guests = .ok changed := ⟨_, rfl⟩
  have inner : ∀ join ∈ guests.joins, join.kind = .inner := by decide
  have joined : guests.joins ≠ [] := by decide
  have changes : RowRequest.delete ≠ .select := nofun
  obtain ⟨root, selected, query, filter, found, -, -, reads, -, admits, restricted, -⟩ :=
    change_touches_selected_rows (registry_built .sqlite) inner changes compiles
  obtain rfl := Option.some.inj (found.symm.trans rfl)
  exact ⟨changed, filter, query, compiles, reads, restricted (Or.inl joined), admits⟩

end Staff

end TableMapping
