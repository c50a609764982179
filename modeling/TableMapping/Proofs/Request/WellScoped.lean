import TableMapping.Proofs.Database
import TableMapping.Proofs.Request.Scope
import TableMapping.Proofs.Schema.Declared

/-!
# Well-scoped statements

A statement about the rows of a source names tables of the registry only, each once, and each of its
columns stands in a table that is visible at that place. The tables are connected by their foreign
keys.
-/

namespace TableMapping

/-! ## What is visible where -/

namespace Statement

/-- The joins of a statement see the tables before their own, and its filter sees all of them. -/
structure ClausesScoped (registry : Registry) (root : Table) (joined : List Table)
    (joins : List Join) (filter : Option Condition) : Prop where
  joins_scoped : Join.AllScoped registry [root] joined joins
  filter_named : ∀ condition ∈ filter, ∀ atom ∈ condition.atoms, ∀ reference ∈ atom.columns,
    reference.Names (root :: joined)

/-- Every column that a statement about rows names stands in a table that is visible there. The
columns that are changed are those of the first table. -/
inductive WellScoped (registry : Registry) (root : Table) (joined : List Table) : Statement → Prop
  | select {columns : List ColumnRef} {joins : List Join} {filter : Option Condition}
      (columns_named : ∀ reference ∈ columns, reference.Names (root :: joined))
      (clauses : ClausesScoped registry root joined joins filter) :
      WellScoped registry root joined (.select ⟨columns, root.name, joins, filter⟩)
  | update {assignments : List (String × SqlValue)} {joins : List Join}
      {filter : Option Condition}
      (columns_named : ∀ assignment ∈ assignments, ∃ column ∈ root.columns,
        column.name = assignment.1)
      (clauses : ClausesScoped registry root joined joins filter) :
      WellScoped registry root joined (.update ⟨root.name, assignments, joins, filter⟩)
  | delete {joins : List Join} {filter : Option Condition}
      (clauses : ClausesScoped registry root joined joins filter) :
      WellScoped registry root joined (.delete ⟨root.name, joins, filter⟩)

end Statement

namespace Registry

/-- Two of the given tables are linked. -/
def LinkedWithin (registry : Registry) (tables : List Table) (table other : Table) : Prop :=
  table ∈ tables ∧ other ∈ tables ∧ registry.Linked table other

end Registry

namespace Join

variable {registry : Registry} {root : Table}

/-- Joins connect their tables to the first one if the tables before them are connected to it. -/
theorem AllScoped.connected {before tables : List Table} {joins : List Join}
    (all_scoped : AllScoped registry before tables joins) {all : List Table}
    (among : ∀ table ∈ before ++ tables, table ∈ all)
    (earlier : ∀ table ∈ before, Relation.ReflTransGen (registry.LinkedWithin all) root table) :
    ∀ table ∈ tables, Relation.ReflTransGen (registry.LinkedWithin all) root table := by
  induction all_scoped with
  | nil => nofun
  | @cons before tables joined join joins first _ ih =>
      obtain ⟨owner, owner_before, linked, -⟩ := first.paired
      have reached : Relation.ReflTransGen (registry.LinkedWithin all) root joined :=
        (earlier owner owner_before).tail ⟨among owner (List.mem_append_left _ owner_before),
          among joined (by simp), linked⟩
      refine List.forall_mem_cons.mpr ⟨reached, ih (by simpa using among) ?_⟩
      intro table listed
      rcases List.mem_append.mp listed with listed | last
      · exact earlier table listed
      · obtain rfl := List.mem_singleton.mp last
        exact reached

end Join

/-! ## Conditions and assignments -/

namespace Scope.Sound

variable {registry : Registry} {scope : Scope}

theorem names_of_reference (sound : scope.Sound registry) (registry_sound : registry.Sound)
    {key : PropertyKey} {reference : ColumnRef} (found : scope.reference key = .ok reference) :
    reference.Names scope.tables := by
  obtain ⟨table, member, column, stored, -, rfl⟩ :=
    (sound.reference_eq_ok registry_sound).mp found
  exact ⟨table, member, column, stored, rfl⟩

theorem reference_of_nullableReference {key : PropertyKey} {reference : ColumnRef}
    (found : scope.nullableReference key = .ok reference) :
    scope.reference key = .ok reference := by
  simp only [nullableReference, bind_eq_ok, pure_eq_ok] at found
  obtain ⟨entry, stored, _, -, rfl⟩ := found
  simp [Scope.reference, stored]

theorem names_of_atom (sound : scope.Sound registry) (registry_sound : registry.Sound)
    {test : Test PropertyKey} {atom : Atom} (found : scope.atom test = .ok atom)
    {reference : ColumnRef} (mentioned : reference ∈ atom.columns) :
    reference.Names scope.tables := by
  cases test with
  | compare key comparison value =>
      simp only [Scope.atom, bind_eq_ok, pure_eq_ok] at found
      obtain ⟨own, own_found, rfl⟩ := found
      obtain rfl := List.mem_singleton.mp mentioned
      exact sound.names_of_reference registry_sound own_found
  | isNull key | isNotNull key =>
      simp only [Scope.atom, bind_eq_ok, pure_eq_ok] at found
      obtain ⟨own, own_found, rfl⟩ := found
      obtain rfl := List.mem_singleton.mp mentioned
      exact sound.names_of_reference registry_sound (reference_of_nullableReference own_found)

theorem names_of_filter (sound : scope.Sound registry) (registry_sound : registry.Sound)
    {predicate : Option Predicate} {filter : Option Condition}
    (resolved : scope.filter predicate = .ok filter) :
    ∀ condition ∈ filter, ∀ atom ∈ condition.atoms, ∀ reference ∈ atom.columns,
      reference.Names scope.tables := by
  intro condition present atom listed reference mentioned
  obtain ⟨test, found⟩ := Scope.exists_test_of_filter resolved present listed
  exact sound.names_of_atom registry_sound found mentioned

end Scope.Sound

theorem RowUpdate.column_of_assignment {table : Table} {assigned result : String × SqlValue}
    (found : RowUpdate.assignment table assigned = .ok result) :
    ∃ column ∈ table.columns, column.name = result.1 := by
  simp only [RowUpdate.assignment, bind_eq_ok, expect_eq_ok, pure_eq_ok] at found
  obtain ⟨column, stored, _, -, rfl⟩ := found
  exact ⟨column, List.mem_of_find?_eq_some stored, rfl⟩

/-! ## Requests -/

namespace RowRequest

variable {registry : Registry} {source : Source} {request : RowRequest}

/-- What is asked for the rows of a source becomes a well-scoped statement about its tables. -/
theorem wellScoped_of_statement (valid : registry.Valid) {resolved : ResolvedSource}
    (found : source.resolve registry = .ok resolved) {assigned : List (String × SqlValue)}
    (assigns : request.assigned resolved = .ok assigned) :
    (request.tree resolved assigned).WellScoped registry resolved.scope.root
      (resolved.scope.joins.map JoinedTable.table) := by
  obtain ⟨in_scope, filtered, -⟩ := Source.resolve_eq_ok.mp found
  have sound := Scope.sound_of_ofSource valid in_scope
  have clauses : Statement.ClausesScoped registry resolved.scope.root
      (resolved.scope.joins.map JoinedTable.table) resolved.joins resolved.filter :=
    ⟨(Source.sound_of_resolve valid found).joins_scoped,
      sound.names_of_filter valid.toSound filtered⟩
  cases request with
  | select =>
      refine .select (fun reference listed => ?_) clauses
      obtain ⟨table, member, named⟩ := List.mem_flatMap.mp listed
      obtain ⟨column, stored, rfl⟩ := List.mem_map.mp named
      exact ⟨table, member, column, stored, rfl⟩
  | update assignments =>
      refine .update (fun assignment listed => ?_) clauses
      obtain ⟨_, -, named⟩ := exists_of_mem_mapM assigns listed
      exact RowUpdate.column_of_assignment named
  | delete => exact .delete clauses

end RowRequest

/-- A query, an update or a removal that is compiled names the tables of the requested record types,
which are tables of the registry of different names. Every column that it names stands in one of
these tables that is visible there: those of a filter and of a selection in any of them, those of a
join in the joined table and in one before it, and those of an assignment in the first one. Every
join has pairs of columns, whose types go together, and every joined table is connected to the first
one through foreign keys between the tables of the statement. -/
theorem compiled_statement_well_scoped {registry : Registry} (built : registry.Built)
    {source : Source} {request : RowRequest} {compiled : CompiledStatement}
    (compiles : request.compile registry source = .ok compiled) :
    ∃ statement root joined, request.statement registry source = .ok statement ∧
      statement.compile registry.dialect = .ok compiled ∧
      registry.table? source.root = some root ∧
      joined.map Table.record = source.joins.map JoinRequest.record ∧
      (∀ table ∈ root :: joined, table ∈ registry.tables) ∧
      ((root :: joined).map Table.name).Nodup ∧
      statement.WellScoped registry root joined ∧
      ∀ table ∈ joined,
        Relation.ReflTransGen (registry.LinkedWithin (root :: joined)) root table := by
  have valid := built.valid
  rw [RowRequest.compile_eq] at compiles
  obtain ⟨statement, asked, written⟩ := bind_eq_ok.mp compiles
  obtain ⟨resolved, assigned, found, assigns, rfl⟩ := RowRequest.statement_eq_ok.mp asked
  have sound := Source.sound_of_resolve valid found
  have scope_sound := Scope.sound_of_ofSource valid (Source.resolve_eq_ok.mp found).1
  refine ⟨_, resolved.scope.root, resolved.scope.joins.map JoinedTable.table, asked,
    mapError_eq_ok.mp written, sound.root_found, ?_, scope_sound.tables_mem,
    scope_sound.names_nodup valid.toSound, RowRequest.wellScoped_of_statement valid found assigns,
    sound.joins_scoped.connected (fun _ member => member) ?_⟩
  · simpa [Function.comp_def] using sound.records_eq
  · intro table is_root
    obtain rfl := List.mem_singleton.mp is_root
    exact .refl

namespace Staff

/-- The duties with a report, which refers to them by two columns, with their users and with the
roles of these. -/
def reportedDuties : Source :=
  (((Source.all duty).join ⟨.inner, report, ⟨report, "on_role"⟩⟩).join
    ⟨.inner, user, ⟨duty, "user"⟩⟩).join ⟨.inner, role, ⟨user, "role_id"⟩⟩

/-- The assignment of a role to the duties with one report. -/
def reassignment : RowRequest := .update (Assignments.set "role" (.int 3) [])

/-- The reassignment is well scoped: its tables are those of duties, reports, users and roles, and
all of them are connected to the first. -/
theorem reassignment_well_scoped :
    ∃ compiled statement root joined,
      reassignment.compile (rota .postgresql)
          (reportedDuties.filtered (Predicate.eq ⟨report, "id"⟩ (.int 7))) = .ok compiled ∧
        statement.compile .postgresql = .ok compiled ∧ root.name = "duties" ∧
        joined.map Table.record = [report, user, role] ∧
        ((root :: joined).map Table.name).Nodup ∧
        Statement.WellScoped (rota .postgresql) root joined statement ∧
        ∀ table ∈ joined,
          Relation.ReflTransGen ((rota .postgresql).LinkedWithin (root :: joined)) root table := by
  obtain ⟨compiled, compiles⟩ : ∃ compiled, reassignment.compile (rota .postgresql)
      (reportedDuties.filtered (Predicate.eq ⟨report, "id"⟩ (.int 7))) = .ok compiled := ⟨_, rfl⟩
  obtain ⟨statement, root, joined, -, written, found, records, -, distinct, well, connected⟩ :=
    compiled_statement_well_scoped (rota_built .postgresql) compiles
  obtain rfl := Option.some.inj (found.symm.trans rfl)
  exact ⟨compiled, statement, _, joined, compiles, written, rfl, records, distinct, well,
    connected⟩

end Staff

end TableMapping
