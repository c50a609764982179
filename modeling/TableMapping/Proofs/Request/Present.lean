import TableMapping.Proofs.Database
import TableMapping.Proofs.Request.Refusal
import TableMapping.Proofs.Request.Scope

/-!
# Present values

A database honours a registry if its rows have values in all columns that must have one. Then the
rows that joins put side by side have values in the same columns, except for those of left-joined
tables, whose rows may be missing. No test for presence is needed in a column of any other table.
-/

namespace TableMapping

/-! ## Rows of joins -/

theorem Combination.exists_value_eq {combination : Combination} {column : ColumnRef}
    (seen : column.table ∈ combination.map Prod.fst) :
    ∃ named ∈ combination, named.1 = column.table ∧
      combination.value column = named.2 column.column := by
  obtain ⟨other, listed, same⟩ := List.mem_map.mp seen
  have present : (combination.find? fun named => named.1 = column.table).isSome = true := by
    rw [List.find?_isSome]
    exact ⟨other, listed, decide_eq_true same⟩
  obtain ⟨named, found⟩ := Option.isSome_iff_exists.mp present
  refine ⟨named, List.mem_of_find?_eq_some found, by simpa using List.find?_some found, ?_⟩
  rw [value, found]

/-- Each row is one of its table, or its table is one whose rows may be missing. -/
def Combination.StoredOr (database : Database) (missing : String → Prop)
    (combination : Combination) : Prop :=
  ∀ named ∈ combination, named.2 ∈ database named.1 ∨ missing named.1

namespace JoinClause

variable {database : Database} {tests : Tests} {outer : Combination} {missing : String → Prop}

theorem storedOr_extend {join : JoinClause} (optional : join.kind = .leftOuter → missing join.table)
    {combination longer : Combination} (stored : combination.StoredOr database missing)
    (member : longer ∈ join.extend database tests outer combination) :
    longer.StoredOr database missing := by
  obtain ⟨row, kept, rfl⟩ := List.mem_map.mp member
  refine List.forall_mem_append.mpr ⟨stored, List.forall_mem_singleton.mpr ?_⟩
  split at kept
  · rename_i lonely
    exact .inr (optional lonely.1)
  · exact .inl (List.mem_filter.mp kept).1

theorem storedOr_extendAll {joins : List JoinClause}
    (optional : ∀ join ∈ joins, join.kind = .leftOuter → missing join.table)
    {combinations : List Combination}
    (stored : ∀ combination ∈ combinations, combination.StoredOr database missing) :
    ∀ combination ∈ extendAll database tests outer joins combinations,
      combination.StoredOr database missing := by
  induction joins generalizing combinations with
  | nil => exact stored
  | cons join rest ih =>
      obtain ⟨first, later⟩ := List.forall_mem_cons.mp optional
      refine ih later fun longer member => ?_
      obtain ⟨combination, listed, extended⟩ := List.mem_flatMap.mp member
      exact storedOr_extend first (stored combination listed) extended

end JoinClause

namespace Query

variable {database : Database} {tests : Tests} {outer : Combination} {query : Query}

theorem tables_of_mem_rows {combination : Combination}
    (member : combination ∈ query.rows database tests outer) :
    combination.map Prod.fst = query.source :: query.joins.map JoinClause.table := by
  obtain ⟨row, -, extended, -⟩ := mem_rows.mp member
  obtain ⟨_, single, added, rfl, tables⟩ := JoinClause.exists_of_mem_extendAll extended
  obtain rfl := List.mem_singleton.mp single
  rw [List.map_append, tables]
  rfl

/-- Only rows of left-joined tables are missing in a row of a query. -/
theorem storedOr_of_mem_rows {combination : Combination}
    (member : combination ∈ query.rows database tests outer) :
    combination.StoredOr database fun table =>
      ∃ join ∈ query.joins, join.kind = .leftOuter ∧ join.table = table := by
  obtain ⟨row, listed, extended, -⟩ := mem_rows.mp member
  refine JoinClause.storedOr_extendAll (fun join member optional => ⟨join, member, optional, rfl⟩)
    (fun combination single => ?_) combination extended
  obtain rfl := List.mem_singleton.mp single
  exact List.forall_mem_singleton.mpr (.inl listed)

end Query

/-! ## Products of the tables in scope -/

/-- The database has values in all columns that must have one. -/
def Registry.Honours (registry : Registry) (database : Database) : Prop :=
  ∀ table ∈ registry.tables, ∀ row ∈ database table.name, ∀ column ∈ table.columns,
    column.nullable = false → row column.name ≠ .null

/-- All rows of the tables of a source, as they are joined. -/
def Source.unfiltered (source : Source) : Source := ⟨source.root, source.joins, none⟩

namespace Scope

variable {registry : Registry} {source : Source} {scope : Scope}

theorem mayLack_eq_true {record : RecordType} :
    scope.mayLack record = true ↔
      ∃ joined ∈ scope.joins, joined.kind = .leftOuter ∧ joined.table.record = record := by
  simp [mayLack]

theorem Sound.exists_joinClauses (sound : scope.Sound registry) (registry_sound : registry.Sound) :
    ∃ joins, scope.joins.mapM scope.joinClause = .ok joins := by
  refine exists_mapM_eq_ok fun joined member => ?_
  obtain ⟨before, after, split⟩ := List.append_of_mem member
  obtain ⟨_, written, -⟩ := sound.exists_joinClause registry_sound split
  exact ⟨_, written⟩

section Product

variable {joins : List JoinClause}
  (named : joins.map (fun join => (join.kind, join.table)) =
    scope.joins.map fun joined => (joined.kind, joined.table.name))

include named

theorem tables_of_product {database : Database} {tests : Tests} {outer combination : Combination}
    {filter : Option Condition}
    (member : combination ∈ Query.rows database tests outer ⟨scope.root.name, joins, filter⟩) :
    combination.map Prod.fst = scope.tables.map Table.name := by
  have joined_names : joins.map JoinClause.table =
      scope.joins.map fun joined => joined.table.name := by
    simpa [Function.comp_def] using congrArg (List.map Prod.snd) named
  rw [Query.tables_of_mem_rows member, joined_names]
  simp [tables, Function.comp_def]

/-- The rows of a scope may lack the records of the tables that are left-joined by name. -/
theorem Sound.mayLack_of_leftOuter (sound : scope.Sound registry) (registry_sound : registry.Sound)
    {table : Table} (in_scope : table ∈ scope.tables) {join : JoinClause} (listed : join ∈ joins)
    (optional : join.kind = .leftOuter) (same : join.table = table.name) :
    scope.mayLack table.record = true := by
  have mapped : (join.kind, join.table) ∈
      scope.joins.map fun joined => (joined.kind, joined.table.name) :=
    named ▸ List.mem_map_of_mem listed
  obtain ⟨joined, joined_listed, equal⟩ := List.mem_map.mp mapped
  obtain ⟨kinds, names⟩ := Prod.mk.inj equal
  have joined_in_scope : joined.table ∈ scope.tables :=
    List.mem_cons_of_mem scope.root (List.mem_map_of_mem joined_listed)
  obtain rfl : joined.table = table :=
    List.inj_on_of_nodup_map (sound.names_nodup registry_sound) joined_in_scope in_scope
      (names.trans same)
  exact mayLack_eq_true.mpr ⟨joined, joined_listed, kinds.trans optional, rfl⟩

/-- A column that is required in a scope has values in all rows that the joins put side by side. -/
theorem Sound.value_ne_null (sound : scope.Sound registry) (registry_sound : registry.Sound)
    {database : Database} (honours : registry.Honours database) {reference : ColumnRef}
    (required : scope.Required reference) {tests : Tests} {outer combination : Combination}
    {filter : Option Condition}
    (member : combination ∈ Query.rows database tests outer ⟨scope.root.name, joins, filter⟩) :
    combination.value reference ≠ .null := by
  obtain ⟨key, table, column, found, present, kept, rfl⟩ := required
  obtain ⟨in_scope, own⟩ := (sound.column?_eq_some registry_sound).mp found
  obtain ⟨stored, rfl⟩ := (sound.table_sound registry_sound in_scope).column?_eq_some.mp own
  have seen : (table.reference column).table ∈ combination.map Prod.fst := by
    rw [tables_of_product named member]
    exact List.mem_map_of_mem in_scope
  obtain ⟨⟨name, row⟩, listed, same, value⟩ := Combination.exists_value_eq seen
  obtain rfl : name = table.name := same
  rw [value]
  rcases Query.storedOr_of_mem_rows member _ listed with
    in_database | ⟨join, join_listed, optional, missing⟩
  · exact honours table (sound.tables_mem table in_scope) row in_database column stored present
  · -- A left-joined table has no required columns.
    have lacks := sound.mayLack_of_leftOuter named registry_sound in_scope join_listed optional
      missing
    exact absurd (kept.symm.trans lacks) Bool.false_ne_true

end Product

end Scope

namespace RowRequest

variable {registry : Registry} {source : Source}

/-- If a request is refused for a test for presence, the tables of its source can be joined, and no
row of the product lacks the value of the column as long as the database honours the registry. -/
theorem value_ne_null_of_refused (valid : registry.Valid) {request : RowRequest}
    {reference : ColumnRef} (refused : request.compile registry source =
      .error (.validation (.needlessNullTest reference))) :
    ∃ compiled product, select.compile registry source.unfiltered = .ok compiled ∧
      compiled.rowStatement? registry.dialect = some (.select product) ∧ product.filter = none ∧
      ∀ database, registry.Honours database → ∀ tests,
        ∀ combination ∈ product.rows database tests [], combination.value reference ≠ .null := by
  obtain ⟨scope, in_scope, required⟩ : ∃ scope, Scope.ofSource registry source = .ok scope ∧
      scope.Required reference := by
    rw [compile_eq] at refused
    rcases bind_eq_error.mp refused with unstated | ⟨statement, -, unwritten⟩
    · rcases refusal_of_statement unstated with refusal | ⟨scope, named, in_scope, required, same⟩
      · cases refusal
      · cases same
        exact ⟨scope, in_scope, required⟩
    · obtain ⟨fault, -, impossible⟩ := mapError_eq_error.mp unwritten
      cases impossible
  have sound := Scope.sound_of_ofSource valid in_scope
  obtain ⟨joins, joined⟩ := sound.exists_joinClauses valid.toSound
  let resolved : ResolvedSource := ⟨scope, joins, none⟩
  have resolves : source.unfiltered.resolve registry = .ok resolved :=
    Source.resolve_eq_ok.mpr ⟨in_scope, rfl, joined⟩
  obtain ⟨compiled, written, prepared⟩ := Selection.prepare_of_resolve valid.toSound resolves
    (sound.tables_mem scope.root List.mem_cons_self) rfl
  refine ⟨compiled, (Selection.query resolved).reading registry.dialect,
    map_eq_ok.mpr ⟨_, prepared, rfl⟩, Statement.rowStatement?_compile written rfl, rfl,
    fun database honours tests combination member => ?_⟩
  have named : (joins.map (Join.reading registry.dialect)).map
      (fun join => (join.kind, join.table)) =
        scope.joins.map fun joined => (joined.kind, joined.table.name) := by
    rw [← Scope.map_joinClause joined, List.map_map]
    rfl
  exact sound.value_ne_null named valid.toSound honours required member

end RowRequest

end TableMapping
