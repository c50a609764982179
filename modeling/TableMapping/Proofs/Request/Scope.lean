import Mathlib.Data.List.Nodup
import TableMapping.Proofs.Agreement
import TableMapping.Proofs.Request.Rows
import TableMapping.Proofs.Schema.Valid

/-!
# Tables in scope

The tables of a scope are different tables of the registry, and each join connects its table to the
ones before it by pairs of columns.
-/

namespace TableMapping

/-! ## What statements name -/

/-- The reference names a column of one of the tables. -/
def ColumnRef.Names (tables : List Table) (reference : ColumnRef) : Prop :=
  ∃ table ∈ tables, ∃ column ∈ table.columns, table.reference column = reference

namespace Join

/-- A join of a table pairs columns of one of the tables before it with columns of the joined one,
of types that go together, along a foreign key between the two tables. -/
structure Scoped (registry : Registry) (before : List Table) (table : Table) (join : Join) :
    Prop where
  table_eq : join.table = table.name
  on_ne_nil : join.on ≠ []
  paired : ∃ owner ∈ before, registry.Linked owner table ∧
    ∀ pair ∈ join.on, ∃ left ∈ owner.columns, ∃ right ∈ table.columns,
      pair = (owner.reference left, table.reference right) ∧
        left.type.keyCompatible right.type = true

/-- Each of several joins sees only the tables before its own. -/
inductive AllScoped (registry : Registry) : List Table → List Table → List Join → Prop
  | nil {before : List Table} : AllScoped registry before [] []
  | cons {before tables : List Table} {table : Table} {join : Join} {joins : List Join}
      (first : join.Scoped registry before table)
      (rest : AllScoped registry (before ++ [table]) tables joins) :
      AllScoped registry before (table :: tables) (join :: joins)

end Join

namespace Scope

/-! ## Joined tables -/

/-- The pairs of a joined table are those of a foreign key between it and one of the given tables:
each is stored in a column of that table and in a column of the joined one, of types that go
together. -/
structure Ties (registry : Registry) (before : List Table) (joined : JoinedTable) : Prop where
  pairs_ne_nil : joined.on ≠ []
  paired : ∃ owner ∈ before, registry.Linked owner joined.table ∧
    ∀ pair ∈ joined.on, ∃ left ∈ owner.columns, ∃ right ∈ joined.table.columns,
      pair = (owner.key left.property.name, joined.table.key right.property.name) ∧
        left.type.keyCompatible right.type = true

/-- The pair of columns is written for a pair of properties: the first is stored in one of the given
tables, the second in the joined one. -/
def Writes (before : List Table) (joined : Table) (pair : PropertyKey × PropertyKey)
    (written : ColumnRef × ColumnRef) : Prop :=
  (∃ owner ∈ before, ∃ column ∈ owner.columns,
    pair.1 = owner.key column.property.name ∧ owner.reference column = written.1) ∧
  ∃ column ∈ joined.columns,
    pair.2 = joined.key column.property.name ∧ joined.reference column = written.2

/-- What holds of the tables of a scope. -/
structure Sound (registry : Registry) (scope : Scope) : Prop where
  tables_mem : ∀ table ∈ scope.tables, table ∈ registry.tables
  records_nodup : (scope.tables.map Table.record).Nodup
  /-- Every table is tied to the ones before it. -/
  tied : ∀ before joined after, scope.joins = before ++ joined :: after →
    Ties registry (Scope.tables ⟨scope.root, before⟩) joined

theorem has_eq_true {scope : Scope} {record : RecordType} :
    scope.has record = true ↔ ∃ table ∈ scope.tables, table.record = record := by
  simp [has]

theorem tables_concat {root : Table} {joins : List JoinedTable} {joined : JoinedTable} :
    Scope.tables ⟨root, joins ++ [joined]⟩ = Scope.tables ⟨root, joins⟩ ++ [joined.table] := by
  simp [tables]

section Pairs

variable {registry : Registry} {scope : Scope} {joined : Table} {request : JoinRequest}
  {on : List (PropertyKey × PropertyKey)}

/-- A foreign key of a table in scope has its own columns in front. -/
theorem ties_of_forwardPairs? (valid : registry.Valid) (sound : scope.Sound registry)
    (joined_member : joined ∈ registry.tables) (same : joined.record = request.record)
    {owner : Table} (member : owner ∈ scope.tables)
    (found : forwardPairs? owner request = some on) :
    Ties registry scope.tables ⟨request.kind, joined, on⟩ := by
  obtain ⟨key, key_found, rfl⟩ := Option.map_eq_some_iff.mp found
  have listed := List.mem_of_find?_eq_some key_found
  have target : key.target = joined.record := by
    have fits := List.find?_some key_found
    simp only [Bool.and_eq_true, decide_eq_true_eq] at fits
    exact fits.1.trans same.symm
  have owner_member := sound.tables_mem owner member
  have owner_sound := valid.tables_sound owner owner_member
  obtain ⟨-, -, -, -, paired⟩ := valid.target_earlier owner_member joined_member listed target
  refine ⟨by simpa using owner_sound.pairs_ne_nil key listed, owner, member,
    Or.inl ⟨owner_member, joined_member, key, listed, target⟩, fun pair mapped => ?_⟩
  obtain ⟨names, names_listed, rfl⟩ := List.mem_map.mp mapped
  obtain ⟨own, own_stored, referred, referred_stored, own_name, referred_name, compatible⟩ :=
    paired names names_listed
  refine ⟨own, own_stored, referred, referred_stored, ?_, compatible⟩
  rw [own_name, referred_name, target]
  rfl

theorem ties_of_backwardPairs? (valid : registry.Valid) (sound : scope.Sound registry)
    (joined_member : joined ∈ registry.tables)
    (found : scope.backwardPairs? joined request = some on) :
    Ties registry scope.tables ⟨request.kind, joined, on⟩ := by
  obtain ⟨key, key_found, rfl⟩ := Option.map_eq_some_iff.mp found
  have listed := List.mem_of_find?_eq_some key_found
  have present : scope.has key.target = true := by
    have fits := List.find?_some key_found
    simp only [Bool.and_eq_true] at fits
    exact fits.2
  obtain ⟨owner, member, target⟩ := has_eq_true.mp present
  have owner_member := sound.tables_mem owner member
  have joined_sound := valid.tables_sound joined joined_member
  obtain ⟨-, -, -, -, paired⟩ := valid.target_earlier joined_member owner_member listed target.symm
  refine ⟨by simpa using joined_sound.pairs_ne_nil key listed, owner, member,
    Or.inr ⟨joined_member, owner_member, key, listed, target.symm⟩, fun pair mapped => ?_⟩
  obtain ⟨names, names_listed, rfl⟩ := List.mem_map.mp mapped
  obtain ⟨own, own_stored, referred, referred_stored, own_name, referred_name, compatible⟩ :=
    paired names names_listed
  refine ⟨referred, referred_stored, own, own_stored, ?_, SqlType.keyCompatible_comm.mp compatible⟩
  rw [own_name, referred_name, ← target]
  rfl

theorem ties_of_pairs (valid : registry.Valid) (sound : scope.Sound registry)
    (member : joined ∈ registry.tables) (same : joined.record = request.record)
    (found : scope.pairs joined request = .ok on) :
    Ties registry scope.tables ⟨request.kind, joined, on⟩ := by
  unfold pairs at found
  split at found
  · rename_i owner owner_found
    exact ties_of_forwardPairs? valid sound member same (List.mem_of_find?_eq_some owner_found)
      (expect_eq_ok.mp found)
  · split at found
    · exact ties_of_backwardPairs? valid sound member (expect_eq_ok.mp found)
    · cases found

end Pairs

theorem join_eq_ok {registry : Registry} {scope next : Scope} {request : JoinRequest} :
    scope.join registry request = .ok next ↔
      ∃ joined on, registry.table? request.record = some joined ∧
        scope.has request.record = false ∧ scope.pairs joined request = .ok on ∧
        ⟨scope.root, scope.joins ++ [⟨request.kind, joined, on⟩]⟩ = next := by
  simp only [join, Registry.requested, bind_eq_ok, expect_eq_ok, ensure_eq_ok, pure_eq_ok]
  constructor
  · rintro ⟨joined, found, _, unused, on, paired, rfl⟩
    exact ⟨joined, on, found, unused, paired, rfl⟩
  · rintro ⟨joined, on, found, unused, paired, rfl⟩
    exact ⟨joined, found, (), unused, on, paired, rfl⟩

/-- A join that goes through leaves a scope of the same form. -/
theorem Sound.join {registry : Registry} (valid : registry.Valid) {scope next : Scope}
    (sound : scope.Sound registry) {request : JoinRequest}
    (joins : scope.join registry request = .ok next) : next.Sound registry := by
  obtain ⟨joined, on, found, unused, paired, rfl⟩ := join_eq_ok.mp joins
  obtain ⟨member, same⟩ := Registry.table?_eq_some found
  refine ⟨?_, ?_, ?_⟩
  · intro table listed
    rw [tables_concat] at listed
    rcases List.mem_append.mp listed with earlier | last
    · exact sound.tables_mem table earlier
    · obtain rfl := List.mem_singleton.mp last
      exact member
  · have other : joined.record ∉ scope.tables.map Table.record := by
      intro used
      obtain ⟨table, listed, record_eq⟩ := List.mem_map.mp used
      have present := has_eq_true.mpr ⟨table, listed, record_eq.trans same⟩
      simp [present] at unused
    rw [tables_concat, List.map_append, List.nodup_append]
    refine ⟨sound.records_nodup, by simp, ?_⟩
    rintro record listed _ last rfl
    simp only [List.map_cons, List.map_nil, List.mem_singleton] at last
    exact other (last ▸ listed)
  · exact forall_split_concat
      (motive := fun before joined => Ties registry (Scope.tables ⟨scope.root, before⟩) joined)
      sound.tied (ties_of_pairs valid sound member same paired)

theorem ofSource_eq_ok {registry : Registry} {source : Source} {scope : Scope} :
    ofSource registry source = .ok scope ↔
      ∃ root, registry.table? source.root = some root ∧
        source.joins.foldlM (Scope.join registry) ⟨root, []⟩ = .ok scope := by
  simp [ofSource, Registry.requested]

theorem sound_of_ofSource {registry : Registry} (valid : registry.Valid)
    {source : Source} {scope : Scope} (in_scope : ofSource registry source = .ok scope) :
    scope.Sound registry := by
  obtain ⟨root, found, joined⟩ := ofSource_eq_ok.mp in_scope
  have alone : Sound registry ⟨root, []⟩ := by
    refine ⟨?_, by simp [tables], by simp⟩
    intro table listed
    obtain rfl : table = root := by simpa [tables] using listed
    exact (Registry.table?_eq_some found).1
  exact foldlM_induction (fun before request after sound _ joins =>
    Sound.join valid sound joins) alone joined

/-- The tables of a scope are those that were asked for, in order. -/
theorem joins_of_ofSource {registry : Registry} {source : Source} {scope : Scope}
    (in_scope : ofSource registry source = .ok scope) :
    registry.table? source.root = some scope.root ∧
      scope.joins.map (fun joined => (joined.kind, joined.table.record)) =
        source.joins.map fun request => (request.kind, request.record) := by
  obtain ⟨root, found, joined⟩ := ofSource_eq_ok.mp in_scope
  have folded (requests : List JoinRequest) (start final : Scope)
      (joins : requests.foldlM (Scope.join registry) start = .ok final) :
      final.root = start.root ∧
        final.joins.map (fun joined => (joined.kind, joined.table.record)) =
          start.joins.map (fun joined => (joined.kind, joined.table.record)) ++
            requests.map fun request => (request.kind, request.record) := by
    induction requests generalizing start with
    | nil =>
        obtain rfl : start = final := by simpa using joins
        simp
    | cons request rest ih =>
        obtain ⟨next, stepped, later⟩ : ∃ next, start.join registry request = .ok next ∧
            rest.foldlM (Scope.join registry) next = .ok final := by
          simpa [List.foldlM_cons] using joins
        obtain ⟨table, on, table_found, -, -, rfl⟩ := join_eq_ok.mp stepped
        have same := (Registry.table?_eq_some table_found).2
        obtain ⟨root_eq, joins_eq⟩ := ih _ later
        exact ⟨root_eq, by simp [joins_eq, same]⟩
  obtain ⟨root_eq, joins_eq⟩ := folded source.joins ⟨root, []⟩ scope joined
  exact ⟨by rw [root_eq, found], by simpa using joins_eq⟩

theorem exists_joins_of_foldlM {registry : Registry} {requests : List JoinRequest}
    {start final : Scope} (joins : requests.foldlM (Scope.join registry) start = .ok final) :
    final.root = start.root ∧ ∃ after, final.joins = start.joins ++ after := by
  refine foldlM_induction (motive := fun scope => scope.root = start.root ∧
    ∃ after, scope.joins = start.joins ++ after) ?_ ⟨rfl, [], by simp⟩ joins
  rintro before request _ ⟨root_eq, after, joins_eq⟩ - stepped
  obtain ⟨joined, on, -, -, -, rfl⟩ := join_eq_ok.mp stepped
  exact ⟨root_eq, after ++ [⟨request.kind, joined, on⟩], by simp [joins_eq]⟩

/-! ## Columns in scope -/

namespace Sound

variable {registry : Registry} {scope : Scope}

theorem eq_of_record_eq (sound : scope.Sound registry) {table other : Table}
    (member : table ∈ scope.tables) (other_member : other ∈ scope.tables)
    (same : table.record = other.record) : table = other :=
  List.inj_on_of_nodup_map sound.records_nodup member other_member same

theorem names_nodup (sound : scope.Sound registry) (registry_sound : registry.Sound) :
    (scope.tables.map Table.name).Nodup := by
  refine List.Nodup.map_on (fun table member other other_member same => ?_)
    (List.Nodup.of_map Table.record sound.records_nodup)
  exact registry_sound.eq_of_name_eq (sound.tables_mem table member)
    (sound.tables_mem other other_member) same

theorem table_sound (sound : scope.Sound registry) (registry_sound : registry.Sound)
    {table : Table} (member : table ∈ scope.tables) : table.Sound :=
  registry_sound.tables_sound table (sound.tables_mem table member)

theorem column?_eq_some (sound : scope.Sound registry) (registry_sound : registry.Sound)
    {key : PropertyKey} {table : Table} {column : Column} :
    scope.column? key = some (table, column) ↔
      table ∈ scope.tables ∧ table.column? key = some column := by
  have found_in {owner : Table} {stored : Column}
      (found : scope.column? key = some (owner, stored)) :
      owner ∈ scope.tables ∧ owner.column? key = some stored := by
    obtain ⟨candidate, listed, candidate_eq⟩ := List.exists_of_findSome?_eq_some found
    obtain ⟨_, column_found, same⟩ := Option.map_eq_some_iff.mp candidate_eq
    obtain ⟨rfl, rfl⟩ := Prod.mk.inj same
    exact ⟨listed, column_found⟩
  refine ⟨found_in, fun ⟨member, stored⟩ => ?_⟩
  -- The search ends at some table, and no other one has records of the same type.
  obtain ⟨⟨owner, other⟩, found⟩ : ∃ found, scope.column? key = some found := by
    rw [← Option.isSome_iff_exists, column?, List.findSome?_isSome_iff]
    exact ⟨table, member, by simp [stored]⟩
  obtain ⟨owner_member, other_stored⟩ := found_in found
  have own := (sound.table_sound registry_sound member).column?_eq_some.mp stored
  have other_own := (sound.table_sound registry_sound owner_member).column?_eq_some.mp other_stored
  obtain rfl : owner = table := sound.eq_of_record_eq owner_member member
    (congrArg PropertyKey.record (other_own.2.symm.trans own.2))
  rw [found, Option.some.inj (other_stored.symm.trans stored)]

theorem reference_eq_ok (sound : scope.Sound registry) (registry_sound : registry.Sound)
    {key : PropertyKey} {reference : ColumnRef} :
    scope.reference key = .ok reference ↔
      ∃ table ∈ scope.tables, ∃ column ∈ table.columns, key = table.key column.property.name ∧
        table.reference column = reference := by
  simp only [Scope.reference, Scope.column, bind_eq_ok, expect_eq_ok, pure_eq_ok]
  constructor
  · rintro ⟨⟨table, column⟩, found, rfl⟩
    obtain ⟨member, stored⟩ := (sound.column?_eq_some registry_sound).mp found
    obtain ⟨listed, key_eq⟩ := (sound.table_sound registry_sound member).column?_eq_some.mp stored
    exact ⟨table, member, column, listed, key_eq, rfl⟩
  · rintro ⟨table, member, column, listed, key_eq, rfl⟩
    have stored := (sound.table_sound registry_sound member).column?_eq_some.mpr ⟨listed, key_eq⟩
    exact ⟨(table, column), (sound.column?_eq_some registry_sound).mpr ⟨member, stored⟩, rfl⟩

theorem exists_joinClause (sound : scope.Sound registry) (registry_sound : registry.Sound)
    {before after : List JoinedTable} {joined : JoinedTable}
    (split : scope.joins = before ++ joined :: after) :
    ∃ written, scope.joinClause joined = .ok ⟨joined.kind, joined.table.name, written⟩ ∧
      List.Forall₂ (Writes (Scope.tables ⟨scope.root, before⟩) joined.table) joined.on written := by
  obtain ⟨owner, earlier, -, paired⟩ := (sound.tied before joined after split).paired
  have visible : scope.tables =
      Scope.tables ⟨scope.root, before⟩ ++ joined.table :: after.map JoinedTable.table := by
    simp [tables, split]
  have owner_member : owner ∈ scope.tables := by
    rw [visible]
    exact List.mem_append_left _ earlier
  have joined_member : joined.table ∈ scope.tables := by
    simp [visible]
  obtain ⟨written, mapped, related⟩ :
      ∃ written, joined.on.mapM (fun pair => do
          return (← scope.reference pair.1, ← scope.reference pair.2)) = .ok written ∧
        List.Forall₂ (Writes (Scope.tables ⟨scope.root, before⟩) joined.table)
          joined.on written := by
    refine exists_mapM_forall₂ fun pair listed => ?_
    obtain ⟨left, left_stored, right, right_stored, rfl, -⟩ := paired pair listed
    have left_named := (sound.reference_eq_ok registry_sound).mpr
      ⟨owner, owner_member, left, left_stored, rfl, rfl⟩
    have right_named := (sound.reference_eq_ok registry_sound).mpr
      ⟨joined.table, joined_member, right, right_stored, rfl, rfl⟩
    exact ⟨_, bind_eq_ok.mpr ⟨_, left_named, bind_eq_ok.mpr ⟨_, right_named, rfl⟩⟩,
      ⟨owner, earlier, left, left_stored, rfl, rfl⟩, right, right_stored, rfl, rfl⟩
  exact ⟨written, bind_eq_ok.mpr ⟨written, mapped, rfl⟩, related⟩

theorem scoped_of_joinClause (sound : scope.Sound registry) (registry_sound : registry.Sound)
    {before : List Table} (visible : ∀ table ∈ before, table ∈ scope.tables) {joined : JoinedTable}
    (member : joined.table ∈ scope.tables) (ties : Ties registry before joined) {join : Join}
    (resolved : scope.joinClause joined = .ok join) : join.Scoped registry before joined.table := by
  obtain ⟨owner, owner_before, linked, paired⟩ := ties.paired
  simp only [joinClause, bind_eq_ok, pure_eq_ok] at resolved
  obtain ⟨on, mapped, rfl⟩ := resolved
  refine ⟨rfl, ?_, owner, owner_before, linked, fun pair listed => ?_⟩
  · obtain ⟨pair, pairs, shape⟩ := List.exists_cons_of_ne_nil ties.pairs_ne_nil
    rw [shape] at mapped
    obtain ⟨_, _, -, -, rfl⟩ := mapM_cons_eq_ok.mp mapped
    simp
  · obtain ⟨keys, keys_listed, named⟩ := exists_of_mem_mapM mapped listed
    obtain ⟨left, left_stored, right, right_stored, rfl, compatible⟩ := paired keys keys_listed
    have left_eq := (sound.reference_eq_ok registry_sound).mpr
      ⟨owner, visible owner owner_before, left, left_stored, rfl, rfl⟩
    have right_eq := (sound.reference_eq_ok registry_sound).mpr
      ⟨joined.table, member, right, right_stored, rfl, rfl⟩
    simp only [left_eq, right_eq, bind_eq_ok, pure_eq_ok, Except.ok.injEq] at named
    obtain ⟨_, rfl, _, rfl, rfl⟩ := named
    exact ⟨left, left_stored, right, right_stored, rfl, compatible⟩

/-- The joins of a scope see the tables before their own, wherever its list of tables is split. -/
theorem allScoped_of_joinClauses (sound : scope.Sound registry) (registry_sound : registry.Sound)
    {before after : List JoinedTable} (split : scope.joins = before ++ after) {joins : List Join}
    (resolved : after.mapM scope.joinClause = .ok joins) :
    Join.AllScoped registry (Scope.tables ⟨scope.root, before⟩) (after.map JoinedTable.table)
      joins := by
  -- From one join to the next, its table moves to those that are visible.
  induction after generalizing before joins with
  | nil =>
      obtain rfl : [] = joins := by simpa using resolved
      exact .nil
  | cons joined after ih =>
      obtain ⟨join, rest, own, later, rfl⟩ := mapM_cons_eq_ok.mp resolved
      have visible : ∀ table ∈ Scope.tables ⟨scope.root, before⟩, table ∈ scope.tables := by
        simp only [tables, split, List.map_append, List.mem_cons, List.mem_append]
        tauto
      have member : joined.table ∈ scope.tables := by simp [tables, split]
      have ties := sound.tied before joined after split
      refine .cons (sound.scoped_of_joinClause registry_sound visible member ties own) ?_
      rw [← tables_concat]
      exact ih (by simp [split]) later

end Sound

theorem map_joinClause {scope : Scope} {joined : List JoinedTable} {joins : List Join}
    (resolved : joined.mapM scope.joinClause = .ok joins) :
    joins.map (fun join => (join.kind, join.table)) =
      joined.map fun joined => (joined.kind, joined.table.name) := by
  refine map_eq_of_mapM (fun joined join own => ?_) resolved
  simp only [joinClause, bind_eq_ok, pure_eq_ok] at own
  obtain ⟨on, -, rfl⟩ := own
  rfl

end Scope

/-! ## Resolved sources -/

theorem Selection.columns_query_ne_nil {registry : Registry} (sound : registry.Sound)
    {resolved : ResolvedSource} (member : resolved.scope.root ∈ registry.tables) :
    (query resolved).columns ≠ [] := by
  have root_sound := sound.tables_sound resolved.scope.root member
  obtain ⟨column, columns, shape⟩ := List.exists_cons_of_ne_nil root_sound.columns_ne_nil
  simp [query, Scope.tables, shape]

theorem Selection.prepare_of_resolve {registry : Registry} (sound : registry.Sound)
    {source : Source} {resolved : ResolvedSource} (found : source.resolve registry = .ok resolved)
    (member : resolved.scope.root ∈ registry.tables)
    (faultless : Condition.filterFault? resolved.filter = none) :
    ∃ compiled, (Statement.select (query resolved)).compile registry.dialect = .ok compiled ∧
      prepare registry source = .ok (compiled, RowLayout.ofTables resolved.scope.tables) := by
  have no_fault : (Statement.select (query resolved)).fault? registry.dialect = none := by
    rw [Statement.fault?, if_neg (columns_query_ne_nil sound member)]
    exact faultless
  have written := Statement.compile_eq_ok.mpr ⟨no_fault, rfl⟩
  refine ⟨_, written, ?_⟩
  simp only [prepare, bind_eq_ok, pure_eq_ok]
  exact ⟨resolved, found, _, mapError_eq_ok.mpr written, rfl⟩

/-- What a source becomes in a registry. -/
structure ResolvedSource.Sound (registry : Registry) (source : Source)
    (resolved : ResolvedSource) : Prop where
  root_found : registry.table? source.root = some resolved.scope.root
  records_eq : resolved.scope.joins.map (fun joined => joined.table.record) =
    source.joins.map JoinRequest.record
  kinds_eq : resolved.joins.map Join.kind = source.joins.map JoinRequest.kind
  tables_found : ∀ table ∈ resolved.scope.tables, registry.table? table.record = some table
  names_nodup : (resolved.scope.root.name :: resolved.joins.map Join.table).Nodup
  filter_eq_none : resolved.filter = none → source.filter = none
  joins_scoped : Join.AllScoped registry [resolved.scope.root]
    (resolved.scope.joins.map JoinedTable.table) resolved.joins

/-- The first join pairs columns of the first table with columns of the joined one. -/
theorem ResolvedSource.Sound.first_join {registry : Registry} {source : Source}
    {resolved : ResolvedSource} (sound : resolved.Sound registry source) :
    ∀ join ∈ resolved.joins.head?, ∀ request ∈ source.joins.head?,
      ∃ table, registry.table? request.record = some table ∧ join.table = table.name ∧
        join.on ≠ [] ∧ ∀ pair ∈ join.on,
          (∃ column ∈ resolved.scope.root.columns,
            resolved.scope.root.reference column = pair.1) ∧
            ∃ column ∈ table.columns, table.reference column = pair.2 := by
  intro join join_first request request_first
  obtain ⟨joins, shape⟩ := List.head?_eq_some_iff.mp join_first
  obtain ⟨requests, source_shape⟩ := List.head?_eq_some_iff.mp request_first
  have joins_scoped := sound.joins_scoped
  have records_eq := sound.records_eq
  rw [shape] at joins_scoped
  rw [source_shape] at records_eq
  cases joins_eq : resolved.scope.joins with
  | nil => simp [joins_eq] at records_eq
  | cons first rest =>
      rw [joins_eq] at joins_scoped records_eq
      obtain ⟨same_record, -⟩ := List.cons.inj records_eq
      have member : first.table ∈ resolved.scope.tables := by simp [Scope.tables, joins_eq]
      cases joins_scoped with
      | cons own later =>
          obtain ⟨owner, is_root, -, paired⟩ := own.paired
          obtain rfl := List.mem_singleton.mp is_root
          refine ⟨first.table, same_record ▸ sound.tables_found _ member, own.table_eq,
            own.on_ne_nil, fun pair listed => ?_⟩
          obtain ⟨left, left_stored, right, right_stored, rfl, -⟩ := paired pair listed
          exact ⟨⟨left, left_stored, rfl⟩, right, right_stored, rfl⟩

namespace Source

theorem sound_of_resolve {registry : Registry} (valid : registry.Valid)
    {source : Source} {resolved : ResolvedSource}
    (found : source.resolve registry = .ok resolved) : resolved.Sound registry source := by
  obtain ⟨in_scope, filtered, joined⟩ := resolve_eq_ok.mp found
  have sound := Scope.sound_of_ofSource valid in_scope
  obtain ⟨root_found, requested⟩ := Scope.joins_of_ofSource in_scope
  have named := Scope.map_joinClause joined
  refine ⟨root_found, ?_, ?_, fun table member => ?_, ?_, fun absent => ?_, ?_⟩
  · simpa [Function.comp_def] using congrArg (List.map Prod.snd) requested
  · have of_scope : resolved.joins.map Join.kind = resolved.scope.joins.map JoinedTable.kind := by
      simpa [Function.comp_def] using congrArg (List.map Prod.fst) named
    have of_source : resolved.scope.joins.map JoinedTable.kind =
        source.joins.map JoinRequest.kind := by
      simpa [Function.comp_def] using congrArg (List.map Prod.fst) requested
    rw [of_scope, of_source]
  · exact valid.toSound.table?_record (sound.tables_mem table member)
  · have tables : resolved.joins.map Join.table =
        resolved.scope.joins.map fun joined => joined.table.name := by
      simpa [Function.comp_def] using congrArg (List.map Prod.snd) named
    simpa [tables, Scope.tables, Function.comp_def] using sound.names_nodup valid.toSound
  · cases filter : source.filter with
    | none => rfl
    | some predicate =>
        rw [filter, absent] at filtered
        obtain ⟨condition, -, impossible⟩ := Scope.filter_some_eq_ok.mp filtered
        cases impossible
  · exact sound.allScoped_of_joinClauses valid.toSound (List.nil_append _).symm joined

end Source

end TableMapping
