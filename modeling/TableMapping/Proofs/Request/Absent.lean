import TableMapping.Proofs.Reading.Assignments
import TableMapping.Proofs.Request.Insertion
import TableMapping.Proofs.Request.Modification
import TableMapping.Proofs.Request.Present
import TableMapping.Proofs.Request.WellScoped

/-!
# Absent values

Where a compiled statement has absent values and tests for them: only columns that may be without a
value are given the absent one, no column is compared with it, and a column is only tested for it if
the rows of the source may lack its value. A test that is refused as needless is needless: no row of
the source lacks the value, as long as the database has values in all columns that must have one.
-/

namespace TableMapping

/-! ## Tests in conditions -/

namespace Query

/-- The conditions of a query: those of its joins and its filter. -/
def conditions (query : Query) : List Condition :=
  query.joins.filterMap JoinClause.on ++ query.filter.toList

end Query

namespace RowStatement

/-- The conditions of a statement. -/
def conditions : RowStatement → List Condition
  | select query => query.conditions
  | change _ .all => []
  | change _ (.condition condition) => [condition]
  | change _ (.exists query) => query.conditions

end RowStatement

/-- The atomic condition tests the column for its presence. -/
inductive Atom.TestsPresence : Atom → ColumnRef → Prop
  | isNull (column : ColumnRef) : TestsPresence (.test (.isNull column)) column
  | isNotNull (column : ColumnRef) : TestsPresence (.test (.isNotNull column)) column

theorem Atom.TestsPresence.of_bound {dialect : Dialect} {atom : Atom} {reference : ColumnRef}
    (tests : (atom.bound dialect).TestsPresence reference) : atom.TestsPresence reference := by
  cases atom with
  | columnsEqual left right => cases tests
  | test test =>
      cases test with
      | compare column comparison value => cases tests
      | isNull column => exact tests
      | isNotNull column => exact tests

theorem Atom.value?_bound (dialect : Dialect) (atom : Atom) :
    (atom.bound dialect).value? = atom.value?.map dialect.bind := by
  cases atom with
  | test test => cases test <;> rfl
  | columnsEqual left right => rfl

namespace Condition

variable {dialect : Dialect} {filter : Option Condition} {atom : Atom}

/-- The atomic condition is an equality of two columns or one of the filter, with its value in the
form in which the database takes it. -/
def Origin (dialect : Dialect) (filter : Option Condition) (atom : Atom) : Prop :=
  (∃ left right, atom = .columnsEqual left right) ∨
    ∃ condition ∈ filter, ∃ original ∈ condition.atoms, atom = original.bound dialect

theorem origin_of_join {join : Join} {condition : Condition}
    (read : (join.reading dialect).on = some condition) (member : atom ∈ condition.atoms) :
    Origin dialect filter atom := by
  obtain ⟨spelled, found, rfl⟩ := Option.map_eq_some_iff.mp read
  rw [atoms_reading_ofPairs? found] at member
  obtain ⟨pair, -, rfl⟩ := List.mem_map.mp member
  exact .inl ⟨pair.1, pair.2, rfl⟩

theorem origin_of_reading {condition : Condition} (present : condition ∈ filter)
    (member : atom ∈ (condition.reading dialect).atoms) : Origin dialect filter atom := by
  rw [atoms_reading] at member
  obtain ⟨original, listed, rfl⟩ := List.mem_map.mp member
  exact .inr ⟨condition, present, original, listed, rfl⟩

/-- The condition of a join may stand in front of the filter. -/
theorem origin_of_conjunction? {join : Join} {whole : Condition}
    (combined : conjunction? join.condition? filter = some whole)
    (member : atom ∈ (whole.reading dialect).atoms) : Origin dialect filter atom := by
  cases found : join.condition? with
  | none =>
      rw [found] at combined
      exact origin_of_reading combined member
  | some on =>
      have read : (join.reading dialect).on = some (on.reading dialect) := by
        rw [Join.reading, found, Option.map_some]
      cases filter with
      | none =>
          rw [found] at combined
          obtain rfl := Option.some.inj combined
          exact origin_of_join read member
      | some condition =>
          rw [found] at combined
          obtain rfl := Option.some.inj combined
          rw [atoms_reading, Formula.atoms, List.map_append, ← atoms_reading,
            ← atoms_reading] at member
          rcases List.mem_append.mp member with in_join | in_filter
          · exact origin_of_join read in_join
          · exact origin_of_reading rfl in_filter

theorem origin_of_query {joins : List Join} {source : String} {read_filter : Option Condition}
    (read : ∀ condition ∈ read_filter, ∀ atom ∈ condition.atoms, Origin dialect filter atom) :
    ∀ condition ∈ Query.conditions ⟨source, joins.map (Join.reading dialect), read_filter⟩,
      ∀ atom ∈ condition.atoms, Origin dialect filter atom := by
  intro condition listed atom member
  rcases List.mem_append.mp listed with in_join | in_filter
  · obtain ⟨clause, clause_listed, on⟩ := List.mem_filterMap.mp in_join
    obtain ⟨join, -, rfl⟩ := List.mem_map.mp clause_listed
    exact origin_of_join on member
  · exact read condition (by simpa using in_filter) atom member

end Condition

namespace Statement

/-- What is read as a test in the text of a statement on rows is a test of its filter. -/
theorem origin_of_conditions {dialect : Dialect} {statement : Statement} {row : RowStatement}
    (reads : statement.reading? dialect = some row) :
    ∀ condition ∈ row.conditions, ∀ atom ∈ condition.atoms,
      Condition.Origin dialect statement.filter? atom := by
  have of_joins (table : String) (filter : Option Condition) (joins : List Join) :
      ∀ condition ∈ (RowStatement.change table
          (RowFilter.ofJoins dialect filter joins)).conditions,
        ∀ atom ∈ condition.atoms, Condition.Origin dialect filter atom := by
    cases joins with
    | nil =>
        cases filter with
        | none => nofun
        | some condition =>
            intro read listed atom member
            obtain rfl := List.mem_singleton.mp listed
            exact Condition.origin_of_reading rfl member
    | cons first rest =>
        refine Condition.origin_of_query fun condition read atom member => ?_
        obtain ⟨whole, combined, rfl⟩ := Option.map_eq_some_iff.mp read
        exact Condition.origin_of_conjunction? combined member
  cases statement with
  | select tree =>
      obtain rfl := Option.some.inj reads
      refine Condition.origin_of_query fun condition read atom member => ?_
      obtain ⟨original, present, rfl⟩ := Option.map_eq_some_iff.mp read
      exact Condition.origin_of_reading present member
  | update tree =>
      obtain rfl := Option.some.inj reads
      exact of_joins tree.table tree.filter tree.joins
  | delete tree =>
      obtain rfl := Option.some.inj reads
      exact of_joins tree.table tree.filter tree.joins
  | createTable tree | insert tree => cases reads

end Statement

/-! ## Columns that may be without a value -/

/-- The columns of the table with the given name may be without a value, and the database does not
number them. -/
def Table.AllowsAbsent (table : Table) (name : String) : Prop :=
  (∃ column ∈ table.columns, column.name = name) ∧
    ∀ column ∈ table.columns, column.name = name → column.nullable = true ∧ column.type ≠ .serial

theorem Column.type_ne_serial {column : Column} (nullable : column.nullable = true) :
    column.type ≠ .serial := by
  simp only [Column.nullable, Bool.and_eq_true, decide_eq_true_eq] at nullable
  exact nullable.1

theorem Table.Sound.allowsAbsent {table : Table} (sound : table.Sound) {column : Column}
    (stored : column ∈ table.columns) (nullable : column.nullable = true) :
    table.AllowsAbsent column.name := by
  refine ⟨⟨column, stored, rfl⟩, fun other other_stored same => ?_⟩
  obtain rfl : other = column := List.inj_on_of_nodup_map sound.names_nodup other_stored stored same
  exact ⟨nullable, Column.type_ne_serial nullable⟩

/-- The reference names a column that is nullable or whose table is left-joined. -/
def Source.MayLack (registry : Registry) (source : Source) (reference : ColumnRef) : Prop :=
  ∃ table ∈ registry.tables, ∃ column ∈ table.columns, table.reference column = reference ∧
    (column.nullable = true ∨
      ∃ request ∈ source.joins, request.kind = .leftOuter ∧ request.record = table.record)

namespace Scope

variable {registry : Registry} {source : Source} {scope : Scope}

theorem exists_leftOuter_of_mayLack (in_scope : ofSource registry source = .ok scope)
    {record : RecordType} (lacks : scope.mayLack record = true) :
    ∃ request ∈ source.joins, request.kind = .leftOuter ∧ request.record = record := by
  obtain ⟨joined, listed, kind, same⟩ := mayLack_eq_true.mp lacks
  have asked : (joined.kind, joined.table.record) ∈
      source.joins.map fun request => (request.kind, request.record) := by
    rw [← (joins_of_ofSource in_scope).2]
    exact List.mem_map.mpr ⟨joined, listed, rfl⟩
  obtain ⟨request, member, equal⟩ := List.mem_map.mp asked
  obtain ⟨kinds, records⟩ := Prod.mk.inj equal
  exact ⟨request, member, kinds.trans kind, records.trans same⟩

theorem mayLack_of_nullableReference (valid : registry.Valid)
    (in_scope : ofSource registry source = .ok scope) {key : PropertyKey} {reference : ColumnRef}
    (found : scope.nullableReference key = .ok reference) : source.MayLack registry reference := by
  simp only [nullableReference, column, bind_eq_ok, expect_eq_ok, ensure_eq_ok, pure_eq_ok] at found
  obtain ⟨⟨table, column⟩, stored, -, lacks, rfl⟩ := found
  have sound := sound_of_ofSource valid in_scope
  obtain ⟨member, own⟩ := (sound.column?_eq_some valid.toSound).mp stored
  obtain ⟨listed, rfl⟩ := (sound.table_sound valid.toSound member).column?_eq_some.mp own
  exact ⟨table, sound.tables_mem table member, column, listed, rfl,
    lacks.imp_right (exists_leftOuter_of_mayLack in_scope)⟩

theorem mayLack_of_atom (valid : registry.Valid) (in_scope : ofSource registry source = .ok scope)
    {test : Test PropertyKey} {atom : Atom} (found : scope.atom test = .ok atom)
    {reference : ColumnRef} (tests : atom.TestsPresence reference) :
    source.MayLack registry reference := by
  cases test with
  | compare key comparison value =>
      simp only [Scope.atom, bind_eq_ok, pure_eq_ok] at found
      obtain ⟨own, -, rfl⟩ := found
      cases tests
  | isNull key | isNotNull key =>
      simp only [Scope.atom, bind_eq_ok, pure_eq_ok] at found
      obtain ⟨own, named, rfl⟩ := found
      cases tests
      exact mayLack_of_nullableReference valid in_scope named

end Scope

namespace RowRequest

variable {registry : Registry} {source : Source} {request : RowRequest}
  {compiled : CompiledStatement}

theorem filter?_tree (resolved : ResolvedSource) (assigned : List (String × SqlValue)) :
    (request.tree resolved assigned).filter? = resolved.filter := by
  cases request <;> rfl

theorem mayLack_of_resolve (valid : registry.Valid) {resolved : ResolvedSource}
    (found : source.resolve registry = .ok resolved) {condition : Condition}
    (present : condition ∈ resolved.filter) {atom : Atom} (member : atom ∈ condition.atoms)
    {reference : ColumnRef} (tests : atom.TestsPresence reference) :
    source.MayLack registry reference := by
  obtain ⟨in_scope, filtered, -⟩ := Source.resolve_eq_ok.mp found
  obtain ⟨test, test_found⟩ := Scope.exists_test_of_filter filtered present member
  exact Scope.mayLack_of_atom valid in_scope test_found tests

/-! ## Values of requests about rows -/

theorem null_not_mem_of_compile {resolved : ResolvedSource}
    {assigned : List (String × SqlValue)}
    (written : (request.tree resolved assigned).compile registry.dialect = .ok compiled) :
    .null ∉ (Condition.filterValues resolved.filter).map registry.dialect.bind := by
  intro member
  obtain ⟨value, listed, absent⟩ := List.mem_map.mp member
  rw [Dialect.bind_eq_null.mp absent] at listed
  exact Condition.filterFault?_eq_none.mp (filterFault?_of_compile written) listed

theorem allowsAbsent_of_assigned {root : Table} (sound : root.Sound) {assignments : Assignments}
    {assigned : List (String × SqlValue)}
    (assigns : assignments.mapM (RowUpdate.assignment root) = .ok assigned)
    {entry : String × SqlValue} (member : entry ∈ assigned) (absent : entry.2 = .null) :
    root.AllowsAbsent entry.1 := by
  obtain ⟨asked, -, found⟩ := exists_of_mem_mapM assigns member
  simp only [RowUpdate.assignment, bind_eq_ok, expect_eq_ok, ensure_eq_ok, pure_eq_ok] at found
  obtain ⟨column, stored, -, required, rfl⟩ := found
  exact sound.allowsAbsent (List.mem_of_find?_eq_some stored) (required absent)

/-- The conditions of a compiled statement compare no column with the absent value, and test only
columns for it that may be without a value. -/
theorem conditions_of_compile (valid : registry.Valid)
    (compiles : request.compile registry source = .ok compiled) :
    ∃ row, compiled.rowStatement? registry.dialect = some row ∧
      ∀ condition ∈ row.conditions, .null ∉ condition.values ∧
        ∀ atom ∈ condition.atoms, ∀ reference, atom.TestsPresence reference →
          source.MayLack registry reference := by
  obtain ⟨resolved, assigned, found, written⟩ := tree_of_compile compiles
  obtain ⟨row, reads⟩ : ∃ row,
      (request.tree resolved assigned).reading? registry.dialect = some row := by
    cases request <;> exact ⟨_, rfl⟩
  refine ⟨row, Statement.rowStatement?_compile written reads, fun condition listed =>
    ⟨fun compared => ?_, fun atom member reference tests => ?_⟩⟩
  · obtain ⟨atom, member, value⟩ := List.mem_filterMap.mp compared
    have origin := Statement.origin_of_conditions reads condition listed atom member
    rw [filter?_tree] at origin
    rcases origin with ⟨left, right, rfl⟩ | ⟨filter, present, original, original_member, rfl⟩
    · cases value
    · refine null_not_mem_of_compile written (List.mem_map.mpr ?_)
      rw [original.value?_bound] at value
      obtain ⟨bare, bare_value, absent⟩ := Option.map_eq_some_iff.mp value
      refine ⟨bare, ?_, absent⟩
      rw [Option.mem_def.mp present]
      exact List.mem_filterMap.mpr ⟨original, original_member, bare_value⟩
  · have origin := Statement.origin_of_conditions reads condition listed atom member
    rw [filter?_tree] at origin
    rcases origin with ⟨left, right, rfl⟩ | ⟨filter, present, original, original_member, rfl⟩
    · cases tests
    · exact mayLack_of_resolve valid found present original_member tests.of_bound

theorem parameters_of_update (valid : registry.Valid) {assignments : Assignments}
    (compiles : (update assignments).compile registry source = .ok compiled) :
    ∃ root assigned tested, registry.table? source.root = some root ∧
      compiled.assignments? registry.dialect = some assigned ∧
      compiled.parameters = assigned.map Prod.snd ++ tested ∧ .null ∉ tested ∧
      ∀ entry ∈ assigned, entry.2 = .null → root.AllowsAbsent entry.1 := by
  rw [compile_eq] at compiles
  obtain ⟨_, asked, written⟩ := bind_eq_ok.mp compiles
  obtain ⟨resolved, assigned, found, assigns, rfl⟩ := statement_eq_ok.mp asked
  have writes := mapError_eq_ok.mp written
  have root_found := (Source.sound_of_resolve valid found).root_found
  have root_sound := valid.tables_sound _ (Registry.table?_eq_some root_found).1
  refine ⟨resolved.scope.root, _, (Condition.filterValues resolved.filter).map
    registry.dialect.bind, root_found, CompiledStatement.assignments?_compile writes, ?_,
    null_not_mem_of_compile writes, fun entry member absent => ?_⟩
  · rw [Statement.parameters_of_compile writes]
    simp [tree, Statement.values, Update.boundAssignments, Function.comp_def]
  · obtain ⟨given, listed, rfl⟩ := List.mem_map.mp member
    have allowed := allowsAbsent_of_assigned root_sound assigns listed
      (Dialect.bind_eq_null.mp absent)
    exact allowed

theorem null_not_mem_parameters (other : ∀ assignments, request ≠ update assignments)
    (compiles : request.compile registry source = .ok compiled) : .null ∉ compiled.parameters := by
  obtain ⟨resolved, assigned, -, written⟩ := tree_of_compile compiles
  have filter_only : (request.tree resolved assigned).values =
      Condition.filterValues resolved.filter := by
    cases request with
    | select | delete => rfl
    | update assignments => exact absurd rfl (other assignments)
  rw [Statement.parameters_of_compile written, filter_only]
  exact null_not_mem_of_compile written

end RowRequest

/-! ## Values of insertions -/

namespace Insert

theorem flatMap_listings {insert : Insert}
    (lengths : ∀ row ∈ insert.rows, row.length = insert.columns.length) :
    insert.listings.flatMap (List.map Prod.snd) = insert.rows.flatten := by
  have row_values : ∀ row ∈ insert.rows, (insert.columns.zip row).map Prod.snd = row :=
    fun row member => List.map_snd_zip (Nat.le_of_eq (lengths row member))
  rw [listings, List.flatMap_map, List.flatMap_def, List.map_congr_left row_values, List.map_id']

end Insert

namespace Insertion

variable {registry : Registry}

/-- The absent value is only inserted into columns that allow it. -/
theorem parameters_of_compile (valid : registry.Valid) {insertion : Insertion}
    {statements : List CompiledStatement} (compiles : insertion.compile registry = .ok statements) :
    ∃ table, registry.table? insertion.record = some table ∧
      ∀ statement ∈ statements, ∃ insert, statement.insert? registry.dialect = some insert ∧
        insert.table = table.name ∧
        statement.parameters = insert.listings.flatMap (List.map Prod.snd) ∧
        ∀ listing ∈ insert.listings, ∀ given ∈ listing, given.2 = .null →
          table.AllowsAbsent given.1 := by
  simp only [compile, trees, Registry.requested, bind_eq_ok, expect_eq_ok, ensure_eq_ok,
    pure_eq_ok, Table.insertedRows_eq_ok] at compiles
  obtain ⟨trees, ⟨table, mapped, _, -, rows, ⟨complete, rfl⟩, rfl⟩, written⟩ := compiles
  have table_sound := valid.tables_sound table (Registry.table?_eq_some mapped).1
  refine ⟨table, mapped, ?_⟩
  intro statement member
  obtain ⟨tree, tree_listed, writes⟩ := exists_of_mem_mapM written member
  obtain ⟨group, group_listed, rfl⟩ := List.mem_map.mp tree_listed
  have compiled := mapError_eq_ok.mp writes
  obtain ⟨-, -, lengths⟩ := Insert.fault?_eq_none (Statement.compile_eq_ok.mp compiled).1
  refine ⟨_, Insert.insert?_compile compiled, rfl, ?_, ?_⟩
  · rw [Statement.parameters_of_compile compiled, Insert.flatMap_listings]
    · simp [Statement.values, Insert.bound, List.map_flatten]
    · simpa [Insert.bound] using lengths
  · intro listing listed given given_listed absent
    rw [listings_bound_insert] at listed
    obtain ⟨row, in_group, rfl⟩ := List.mem_map.mp listed
    have in_rows : row ∈ insertion.records.map fun record => record.given table.columns := by
      rw [← RowGroup.flatMap_unfold_collect
        (insertion.records.map fun record => record.given table.columns)]
      exact List.mem_flatMap.mpr ⟨group, group_listed, in_group⟩
    obtain ⟨record, record_listed, rfl⟩ := List.mem_map.mp in_rows
    obtain ⟨⟨column, value⟩, given_member, rfl⟩ := List.mem_map.mp given_listed
    obtain ⟨own, kept, same⟩ := List.mem_map.mp given_member
    obtain ⟨rfl, rfl⟩ := Prod.mk.inj same
    obtain ⟨stored, given⟩ := List.mem_filter.mp kept
    exact table_sound.allowsAbsent stored (complete record record_listed own stored
      (Dialect.bind_eq_null.mp absent) (by simpa using given))

end Insertion

/-- Absent values stand where they are allowed. A query or a removal has none among its parameters.
In what the texts of requests about rows are read as, no column is compared with the absent value,
and a column that is tested for it is nullable or in a left-joined table. The parameters of an
update are the values that it assigns and, without absent ones, those of its filter; the parameters
of an insertion are the values of its rows. Only nullable columns that the database does not number
are given absent values. A request that is refused for a needless test asks for tables that can be
joined, and no row of the product lacks the value, as long as the database has values in all columns
that must have one. -/
theorem absent_values_where_allowed {registry : Registry} (built : registry.Built) :
    (∀ (request : RowRequest) (source : Source) (compiled : CompiledStatement),
      request.compile registry source = .ok compiled →
        ((∀ assignments, request ≠ .update assignments) → .null ∉ compiled.parameters) ∧
        ∃ row, compiled.rowStatement? registry.dialect = some row ∧
          ∀ condition ∈ row.conditions, .null ∉ condition.values ∧
            ∀ atom ∈ condition.atoms, ∀ reference, atom.TestsPresence reference →
              source.MayLack registry reference) ∧
      (∀ (assignments : Assignments) (source : Source) (compiled : CompiledStatement),
        (RowRequest.update assignments).compile registry source = .ok compiled →
          ∃ root assigned tested, registry.table? source.root = some root ∧
            compiled.assignments? registry.dialect = some assigned ∧
            compiled.parameters = assigned.map Prod.snd ++ tested ∧ .null ∉ tested ∧
            ∀ entry ∈ assigned, entry.2 = .null → root.AllowsAbsent entry.1) ∧
      (∀ (insertion : Insertion) (statements : List CompiledStatement),
        insertion.compile registry = .ok statements →
          ∃ table, registry.table? insertion.record = some table ∧
            ∀ statement ∈ statements, ∃ insert,
              statement.insert? registry.dialect = some insert ∧ insert.table = table.name ∧
              statement.parameters = insert.listings.flatMap (List.map Prod.snd) ∧
              ∀ listing ∈ insert.listings, ∀ given ∈ listing, given.2 = .null →
                table.AllowsAbsent given.1) ∧
      ∀ (request : RowRequest) (source : Source) (reference : ColumnRef),
        request.compile registry source =
            .error (.validation (.needlessNullTest reference)) →
          ∃ compiled product,
            RowRequest.select.compile registry source.unfiltered = .ok compiled ∧
            compiled.rowStatement? registry.dialect = some (.select product) ∧
            product.filter = none ∧
            ∀ database, registry.Honours database → ∀ tests,
              ∀ combination ∈ product.rows database tests [],
                combination.value reference ≠ .null := by
  have valid := built.valid
  refine ⟨fun request source compiled compiles => ⟨fun other => ?_, ?_⟩,
    fun assignments source compiled => RowRequest.parameters_of_update valid,
    fun insertion statements => Insertion.parameters_of_compile valid,
    fun request source reference => RowRequest.value_ne_null_of_refused valid⟩
  · exact RowRequest.null_not_mem_parameters other compiles
  · exact RowRequest.conditions_of_compile valid compiles

namespace Staff

/-- The users, with their roles if these are there. -/
def usersWithAnyRoles : Source := (Source.all user).join ⟨.leftOuter, role, ⟨user, "role_id"⟩⟩

/-- A query may ask for missing labels of left-joined roles, aliases may be set to the absent value
and inserted as such, and a test for missing last names is refused as needless. -/
theorem absent_values_of_users :
    (∃ compiled row, RowRequest.select.compile (registry .sqlite) (usersWithAnyRoles.filtered
        (Predicate.isNull ⟨role, "label"⟩)) = .ok compiled ∧
      .null ∉ compiled.parameters ∧ compiled.rowStatement? .sqlite = some row ∧
      ∀ condition ∈ row.conditions, ∀ atom ∈ condition.atoms, ∀ reference,
        atom.TestsPresence reference → usersWithAnyRoles.MayLack (registry .sqlite) reference) ∧
      (∃ compiled, (RowRequest.update (Assignments.set "alias" .null [])).compile
          (registry .sqlite) ((Source.all user).filtered
            (Predicate.eq ⟨user, "lastname"⟩ (.text "Doe"))) = .ok compiled ∧
        compiled.parameters = [.null, .text "Doe"] ∧
        compiled.assignments? .sqlite = some [("alias", .null)] ∧ users.AllowsAbsent "alias") ∧
      (∃ statements, Insertion.compile (registry .sqlite) ⟨user, newcomers⟩ = .ok statements ∧
        statements.map CompiledStatement.parameters =
          [[.text "Doe", .null, .int 1], [.int 7, .text "Roe", .null, .int 1]] ∧
        ∀ statement ∈ statements, ∃ insert, statement.insert? .sqlite = some insert ∧
          ∀ listing ∈ insert.listings, ∀ given ∈ listing, given.2 = .null →
            users.AllowsAbsent given.1) ∧
      ∃ request reference, RowRequest.compile (registry .sqlite) (usersWithAnyRoles.filtered
          (Predicate.isNull ⟨user, "lastname"⟩)) request =
            .error (.validation (.needlessNullTest reference)) ∧
        ∃ compiled product, RowRequest.select.compile (registry .sqlite) usersWithAnyRoles =
            .ok compiled ∧
          compiled.rowStatement? .sqlite = some (.select product) ∧
          ∀ database, (registry .sqlite).Honours database → ∀ tests,
            ∀ combination ∈ product.rows database tests [],
              combination.value reference ≠ .null := by
  obtain ⟨rows, updates, insertions, refusals⟩ :=
    absent_values_where_allowed (registry_built .sqlite)
  refine ⟨?_, ?_, ?_, .select, ⟨"users", "lname"⟩, rfl, ?_⟩
  · obtain ⟨compiled, compiles⟩ : ∃ compiled, RowRequest.select.compile (registry .sqlite)
        (usersWithAnyRoles.filtered (Predicate.isNull ⟨role, "label"⟩)) = .ok compiled :=
      ⟨_, rfl⟩
    obtain ⟨no_null, row, reads, conditions⟩ := rows .select _ compiled compiles
    exact ⟨compiled, row, compiles, no_null nofun, reads,
      fun condition listed => (conditions condition listed).2⟩
  · obtain ⟨compiled, compiles, parameters, written⟩ : ∃ compiled,
        (RowRequest.update (Assignments.set "alias" .null [])).compile (registry .sqlite)
          ((Source.all user).filtered (Predicate.eq ⟨user, "lastname"⟩ (.text "Doe"))) =
            .ok compiled ∧ compiled.parameters = [.null, .text "Doe"] ∧
        (Statement.update ⟨"users", [("alias", .null)], [],
            some (.atom (.test (.compare ⟨"users", "lname"⟩ .eq (.text "Doe"))))⟩).compile .sqlite =
          .ok compiled :=
      ⟨_, rfl, rfl, rfl⟩
    have read := CompiledStatement.assignments?_compile written
    obtain ⟨root, assigned, tested, found, same, -, -, allowed⟩ := updates _ _ compiled compiles
    obtain rfl : users = root := Option.some.inj found
    obtain rfl := Option.some.inj (read.symm.trans same)
    exact ⟨compiled, compiles, parameters, read,
      allowed ("alias", .null) List.mem_cons_self rfl⟩
  · obtain ⟨statements, compiles, parameters⟩ : ∃ statements,
        Insertion.compile (registry .sqlite) ⟨user, newcomers⟩ = .ok statements ∧
          statements.map CompiledStatement.parameters =
            [[.text "Doe", .null, .int 1], [.int 7, .text "Roe", .null, .int 1]] :=
      ⟨_, rfl, rfl⟩
    obtain ⟨table, mapped, inserts⟩ := insertions _ statements compiles
    obtain rfl : users = table := Option.some.inj mapped
    refine ⟨statements, compiles, parameters, fun statement listed => ?_⟩
    obtain ⟨insert, read, -, -, allowed⟩ := inserts statement listed
    exact ⟨insert, read, allowed⟩
  · obtain ⟨compiled, product, compiles, reads, -, present⟩ := refusals .select
      (usersWithAnyRoles.filtered (Predicate.isNull ⟨user, "lastname"⟩)) ⟨"users", "lname"⟩ rfl
    exact ⟨compiled, product, compiles, reads, present⟩

end Staff

end TableMapping
