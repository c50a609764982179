import TableMapping.Proofs.Request.Selection
import TableMapping.Proofs.Schema.Declared
import TableMapping.Request.Creation
import TableMapping.Request.Insertion

/-!
# Record types that requests mention

A request only depends on the tables of the record types that it mentions: the one that records are
inserted for, those that a source brings in, and those that a created table refers to. Registries
that map these alike answer the request alike, whatever else they map.
-/

namespace TableMapping

namespace Registry

/-- The registries are for one dialect, and each of the record types has the same table in both or a
table in neither. -/
structure SameTables (registry other : Registry) (records : List RecordType) : Prop where
  dialect_eq : registry.dialect = other.dialect
  table?_eq : ∀ record ∈ records, registry.table? record = other.table? record

/-- The record types that the creation of a table mentions: that of the table, and those that its
foreign keys refer to. -/
def createdRecords (registry : Registry) (record : RecordType) : List RecordType :=
  record :: (registry.table? record).toList.flatMap fun table =>
    table.foreignKeys.map ForeignKey.target

variable {registry other : Registry} {records : List RecordType}

theorem SameTables.requested_eq (same : registry.SameTables other records) {record : RecordType}
    (mentioned : record ∈ records) : registry.requested record = other.requested record := by
  rw [requested, requested, same.table?_eq record mentioned]

end Registry

/-! ## Sources -/

section Sources

variable {registry other : Registry} {source : Source}

theorem Scope.ofSource_congr (same : registry.SameTables other source.records) :
    Scope.ofSource registry source = Scope.ofSource other source := by
  have joined : ∀ request ∈ source.joins, ∀ scope : Scope,
      scope.join registry request = scope.join other request := by
    intro request member scope
    have mentioned : request.record ∈ source.records :=
      List.mem_cons_of_mem _ (List.mem_map_of_mem member)
    rw [join, join, same.requested_eq mentioned]
  rw [ofSource, ofSource, same.requested_eq List.mem_cons_self]
  exact bind_congr fun root => foldlM_congr_of_mem joined _

theorem Source.resolve_congr (same : registry.SameTables other source.records) :
    source.resolve registry = source.resolve other := by
  rw [resolve, resolve, Scope.ofSource_congr same]

/-- Whatever is asked for the rows of a source has the same outcome against both registries: the
statement of a query, an update or a removal, and what becomes of a query with any database. -/
structure Source.SameOutcomes (registry other : Registry) (source : Source) : Prop where
  compile_eq : ∀ request : RowRequest, request.compile registry source =
    request.compile other source
  fetchAll_eq : ∀ (α : Type) (projection : RowView → Except Error α) (backend : Backend),
    Selection.fetchAll registry ⟨source, projection⟩ backend =
      Selection.fetchAll other ⟨source, projection⟩ backend
  fetchFirst_eq : ∀ (α : Type) (projection : RowView → Except Error α) (backend : Backend),
    Selection.fetchFirst registry ⟨source, projection⟩ backend =
      Selection.fetchFirst other ⟨source, projection⟩ backend
  fetchOne_eq : ∀ (α : Type) (projection : RowView → Except Error α) (backend : Backend),
    Selection.fetchOne registry ⟨source, projection⟩ backend =
      Selection.fetchOne other ⟨source, projection⟩ backend

theorem Source.sameOutcomes (same : registry.SameTables other source.records) :
    source.SameOutcomes registry other := by
  have prepared : Selection.prepare registry source = Selection.prepare other source := by
    rw [Selection.prepare, Selection.prepare, resolve_congr same, same.dialect_eq]
  have fetched (α : Type) (projection : RowView → Except Error α) (backend : Backend) :
      Selection.fetchAll registry ⟨source, projection⟩ backend =
        Selection.fetchAll other ⟨source, projection⟩ backend := by
    rw [Selection.fetchAll, Selection.fetchAll, prepared]
  refine ⟨fun request => ?_, fetched, fun α projection backend => ?_,
    fun α projection backend => ?_⟩
  · rw [RowRequest.compile_eq, RowRequest.compile_eq, RowRequest.statement_eq,
      RowRequest.statement_eq, resolve_congr same, same.dialect_eq]
  · rw [Selection.fetchFirst, Selection.fetchFirst, fetched]
  · rw [Selection.fetchOne, Selection.fetchOne, fetched]

end Sources

/-! ## Insertions -/

theorem Insertion.compile_congr {registry other : Registry} {insertion : Insertion}
    (same : registry.SameTables other [insertion.record]) :
    insertion.compile registry = insertion.compile other := by
  rw [compile, compile, trees, trees, same.requested_eq (List.mem_singleton.mpr rfl),
    same.dialect_eq]

/-! ## Creations -/

namespace Table

variable {registry other : Registry} {table : Table}

theorem foreignKeyConstraint_congr {key : ForeignKey}
    (same : registry.table? key.target = other.table? key.target) (earlier : List ForeignKey) :
    table.foreignKeyConstraint registry earlier key =
      table.foreignKeyConstraint other earlier key := by
  rw [foreignKeyConstraint, foreignKeyConstraint, same]

/-- The numbers of foreign keys count keys of the table itself. -/
theorem foreignKeyConstraints_congr {keys : List ForeignKey}
    (same : ∀ key ∈ keys, registry.table? key.target = other.table? key.target)
    (earlier : List ForeignKey) :
    table.foreignKeyConstraints registry earlier keys =
      table.foreignKeyConstraints other earlier keys := by
  induction keys generalizing earlier with
  | nil => rfl
  | cons key rest ih =>
      rw [foreignKeyConstraints, foreignKeyConstraints,
        foreignKeyConstraint_congr (same key List.mem_cons_self),
        ih fun later member => same later (List.mem_cons_of_mem key member)]

theorem compileCreation_congr (dialects : registry.dialect = other.dialect)
    (same : ∀ key ∈ table.foreignKeys, registry.table? key.target = other.table? key.target) :
    table.compileCreation registry = table.compileCreation other := by
  rw [compileCreation, compileCreation, tree, tree, foreignKeyConstraints_congr same, dialects]

end Table

theorem Registry.compileCreation_congr {registry other : Registry} {record : RecordType}
    (same : registry.SameTables other (registry.createdRecords record)) :
    registry.compileCreation record = other.compileCreation record := by
  rw [compileCreation, compileCreation, ← same.requested_eq List.mem_cons_self]
  refine bind_congr_of_ok fun table found => ?_
  have mapped : registry.table? record = some table := expect_eq_ok.mp found
  refine Table.compileCreation_congr same.dialect_eq fun key member => ?_
  refine same.table?_eq key.target (List.mem_cons_of_mem record ?_)
  rw [mapped]
  simpa using ⟨key, member, rfl⟩

/-- Two registries for one dialect answer a request alike if they have the same tables for the
record types that it mentions: the one of records to be inserted, that of a table to be created with
those that its foreign keys refer to, and the first and the joined ones of a query, an update or a
removal. Nothing need be known of the record types whose properties a join or a filter names. The
statements or the errors are the same, and so is what becomes of the rows that a database
returns. -/
theorem requests_depend_on_mentioned_tables (registry other : Registry) :
    (∀ record, registry.SameTables other (registry.createdRecords record) →
      registry.compileCreation record = other.compileCreation record) ∧
    (∀ insertion : Insertion, registry.SameTables other [insertion.record] →
      insertion.compile registry = insertion.compile other) ∧
    ∀ source : Source, registry.SameTables other source.records →
      source.SameOutcomes registry other :=
  ⟨fun _ => Registry.compileCreation_congr, fun _ => Insertion.compile_congr,
    fun _ => Source.sameOutcomes⟩

namespace Staff

/-- Users and roles are mapped alike with and without the duties of users in roles, so that whatever
is asked for users with their roles has the same outcome, and users have the same table created. -/
theorem users_do_not_depend_on_duties :
    (registry .postgresql).table? duty = none ∧
      ((rota .postgresql).table? duty).isSome = true ∧
      (registry .postgresql).SameTables (rota .postgresql) [user, role] ∧
      (registry .postgresql).compileCreation user = (rota .postgresql).compileCreation user ∧
      usersWithRoles.SameOutcomes (registry .postgresql) (rota .postgresql) ∧
      (RowRequest.delete.compile (rota .postgresql) usersWithRoles).map CompiledStatement.text =
        .ok "DELETE FROM users WHERE EXISTS (SELECT 1 FROM roles WHERE users.role_id = roles.id)" :=
      by
  have same : (registry .postgresql).SameTables (rota .postgresql) [user, role] := by
    refine ⟨rfl, fun record mentioned => ?_⟩
    rcases List.mem_pair.mp mentioned with rfl | rfl <;> rfl
  obtain ⟨creations, -, sources⟩ :=
    requests_depend_on_mentioned_tables (registry .postgresql) (rota .postgresql)
  exact ⟨rfl, rfl, same, creations user same, sources usersWithRoles same, rfl⟩

end Staff

end TableMapping
