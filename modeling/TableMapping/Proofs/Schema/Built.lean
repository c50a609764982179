import Mathlib.Data.List.Nodup
import TableMapping.Schema.Draft

/-!
# Registries that are built

A registry is built by declarations that are accepted one after the other. Whatever holds of the
registry without tables, and goes on to hold when one more declaration is accepted, holds of every
registry that is built.
-/

namespace TableMapping

namespace Registry

/-- The registry is the outcome of some declarations. -/
def Built (registry : Registry) : Prop :=
  ∃ declarations : List TableDeclaration,
    (declarations.foldl Draft.table (Draft.empty registry.dialect)).build = .ok registry

end Registry

/-! ## Accepted declarations -/

namespace TableDeclaration

/-- What is known of a declaration that a registry accepts, and of the table that it adds. -/
structure Accepted (declaration : TableDeclaration) (registry : Registry) (table : Table) :
    Prop where
  record_eq : table.record = declaration.record
  name_eq : table.name = declaration.name
  columns_eq : table.columns = declaration.columnList
  record_unused : registry.table? declaration.record = none
  name_unused : ∀ other ∈ registry.tables, other.name ≠ declaration.name
  columns_ne_nil : declaration.columns ≠ []
  columns_checked :
    checkColumns registry.dialect declaration.name [] declaration.columnList = .ok ()
  primaryKey_resolved : declaration.resolvePrimaryKey = .ok table.primaryKey
  serials_checked : declaration.checkSerials registry.dialect table.primaryKey = .ok ()
  /-- The keys of columns stand before those of the table. -/
  foreignKeys_resolved : ∃ marked declared,
    declaration.markedReferences.mapM (declaration.resolveMarked registry) = .ok marked ∧
      declaration.foreignKeys.mapM (declaration.resolveForeignKey registry) = .ok declared ∧
      table.foreignKeys = marked ++ declared

theorem checkNames_eq_ok {declaration : TableDeclaration} {registry : Registry} :
    declaration.checkNames registry = .ok () ↔
      registry.table? declaration.record = none ∧
        ∀ other ∈ registry.tables, other.name ≠ declaration.name := by
  unfold checkNames
  cases registry.table? declaration.record <;> simp

theorem accepted_of_resolve {declaration : TableDeclaration} {registry : Registry} {table : Table}
    (resolved : declaration.resolve registry = .ok table) :
    declaration.Accepted registry table := by
  simp only [resolve, bind_eq_ok, ensure_eq_ok, pure_eq_ok] at resolved
  obtain ⟨_, names, _, columns_ne_nil, _, columns, key, key_resolved, _, serials, marked,
    marked_resolved, declared, declared_resolved, rfl⟩ := resolved
  obtain ⟨record_unused, name_unused⟩ := checkNames_eq_ok.mp names
  exact ⟨rfl, rfl, rfl, record_unused, name_unused, columns_ne_nil, columns, key_resolved, serials,
    marked, declared, marked_resolved, declared_resolved, rfl⟩

/-- Columns that are accepted behind earlier ones have types that the dialect has, and neither the
names nor the properties of two of them are the same. -/
theorem checkColumns_eq_ok {dialect : Dialect} {table : String} {earlier columns : List Column} :
    checkColumns dialect table earlier columns = .ok () ↔
      (∀ column ∈ columns, dialect.supports column.type = true) ∧
        (columns.map Column.name).Nodup ∧
        (columns.map fun column => column.property.name).Nodup ∧
        ∀ column ∈ columns, ∀ other ∈ earlier,
          other.name ≠ column.name ∧ other.property.name ≠ column.property.name := by
  induction columns generalizing earlier with
  | nil => simp [checkColumns]
  | cons column rest ih =>
      simp only [checkColumns, checkColumn, bind_eq_ok, ensure_eq_ok, ih, List.forall_mem_cons,
        List.map_cons, List.nodup_cons, List.mem_map, List.mem_append, List.mem_singleton]
      constructor
      · rintro ⟨_, ⟨_, supported, _, names, properties⟩, rest_supported, names_nodup,
          properties_nodup, apart⟩
        refine ⟨⟨supported, rest_supported⟩, ⟨?_, names_nodup⟩, ⟨?_, properties_nodup⟩,
          fun other member => ⟨names other member, properties other member⟩,
          fun later member other listed => apart later member other (Or.inl listed)⟩
        · rintro ⟨later, member, same⟩
          exact (apart later member column (Or.inr rfl)).1 same.symm
        · rintro ⟨later, member, same⟩
          exact (apart later member column (Or.inr rfl)).2 same.symm
      · rintro ⟨⟨supported, rest_supported⟩, ⟨name_new, names_nodup⟩,
          ⟨property_new, properties_nodup⟩, column_apart, rest_apart⟩
        refine ⟨(), ⟨(), supported, (), fun other member => (column_apart other member).1,
          fun other member => (column_apart other member).2⟩, rest_supported, names_nodup,
          properties_nodup, ?_⟩
        rintro later member other (listed | rfl)
        · exact rest_apart later member other listed
        · exact ⟨fun same => name_new ⟨later, member, same.symm⟩,
            fun same => property_new ⟨later, member, same.symm⟩⟩

/-! ### Foreign keys -/

variable {declaration : TableDeclaration} {registry : Registry}

theorem checkReference_eq_ok {column : Column} {target : Table} {property : String} :
    declaration.checkReference column target property = .ok () ↔
      ∃ referred, target.columnOf? property = some referred ∧
        column.type.keyCompatible referred.type = true := by
  simp [checkReference]

theorem checkPair_eq_ok {target : Table} {pair : String × String} :
    declaration.checkPair target pair = .ok () ↔
      ∃ column, declaration.columnOf? pair.1 = some column ∧
        declaration.checkReference column target pair.2 = .ok () := by
  simp [checkPair]

/-- The key of a column pairs it with the only column of the primary key of its target. -/
theorem resolveMarked_eq_ok {column : Column} {mark : ForeignKeyMark} {key : ForeignKey} :
    declaration.resolveMarked registry (column, mark) = .ok key ↔
      ∃ target primary property, registry.table? mark.target = some target ∧
        target.primaryKey = some primary ∧ primary.columns = [property] ∧
        declaration.checkReference column target property = .ok () ∧
        ⟨mark.name, mark.target, .single (column.property.name, property)⟩ = key := by
  simp only [resolveMarked, TableDeclaration.target, bind_eq_ok, expect_eq_ok]
  constructor
  · rintro ⟨target, found, primary, has_key, resolved⟩
    split at resolved
    · rename_i property single
      obtain ⟨_, checked, same⟩ := bind_eq_ok.mp resolved
      obtain rfl := pure_eq_ok.mp same
      exact ⟨target, primary, property, found, has_key, single, checked, rfl⟩
    · cases resolved
  · rintro ⟨target, primary, property, found, has_key, single, checked, rfl⟩
    refine ⟨target, found, primary, has_key, ?_⟩
    simp [single, checked]

/-- The key of a table pairs the columns that are listed for it, one by one. -/
theorem resolveForeignKey_eq_ok {declared : ForeignKeyDeclaration} {key : ForeignKey} :
    declaration.resolveForeignKey registry declared = .ok key ↔
      ∃ target, registry.table? declared.target = some target ∧ declared.columns ≠ [] ∧
        declared.columns.length = declared.references.length ∧
        (∀ pair ∈ declared.columns.zip declared.references,
          declaration.checkPair target pair = .ok ()) ∧
        ⟨declared.name, declared.target, .ofList (declared.columns.zip declared.references)⟩ =
          key := by
  simp only [resolveForeignKey, TableDeclaration.target, bind_eq_ok, expect_eq_ok, ensure_eq_ok,
    pure_eq_ok]
  constructor
  · rintro ⟨target, found, _, ⟨columns_ne_nil, same_length⟩, _, checked, rfl⟩
    exact ⟨target, found, columns_ne_nil, same_length, forM_eq_ok.mp checked, rfl⟩
  · rintro ⟨target, found, columns_ne_nil, same_length, checked, rfl⟩
    exact ⟨target, found, (), ⟨columns_ne_nil, same_length⟩, (), forM_eq_ok.mpr checked, rfl⟩

theorem pairs_ne_nil_of_resolveMarked {marked : Column × ForeignKeyMark} {key : ForeignKey}
    (resolved : declaration.resolveMarked registry marked = .ok key) : key.pairs ≠ [] := by
  obtain ⟨_, _, _, -, -, -, -, rfl⟩ := resolveMarked_eq_ok.mp resolved
  simp [ForeignKey.pairs, KeyParts.toList]

theorem pairs_ne_nil_of_resolveForeignKey {declared : ForeignKeyDeclaration} {key : ForeignKey}
    (resolved : declaration.resolveForeignKey registry declared = .ok key) : key.pairs ≠ [] := by
  obtain ⟨_, -, columns_ne_nil, same_length, -, rfl⟩ := resolveForeignKey_eq_ok.mp resolved
  intro unpaired
  have length : (declared.columns.zip declared.references).length = 0 := by
    simpa [ForeignKey.pairs] using congrArg List.length unpaired
  rw [List.length_zip, ← same_length, Nat.min_self] at length
  exact columns_ne_nil (List.eq_nil_of_length_eq_zero length)

end TableDeclaration

/-! ## Induction over declarations -/

namespace Draft

theorem foldl_table_of_failure {draft : Draft} {fault : MappingFault}
    (failed : draft.failure = some fault) (declarations : List TableDeclaration) :
    declarations.foldl Draft.table draft = draft := by
  induction declarations with
  | nil => rfl
  | cons declaration rest ih => rw [List.foldl_cons, Draft.table, failed, ih]

/-- Whatever accepted declarations preserve goes over from a draft, with the declarations made
before, to the registry that is built from it. -/
theorem build_induction {motive : List TableDeclaration → Registry → Prop}
    (add : ∀ before earlier (declaration : TableDeclaration) table, motive before earlier →
      declaration.Accepted earlier table → motive (before ++ [declaration]) (earlier.add table))
    {draft : Draft} (before : List TableDeclaration) (start : motive before draft.registry)
    {declarations : List TableDeclaration} {registry : Registry}
    (builds : (declarations.foldl Draft.table draft).build = .ok registry) :
    motive (before ++ declarations) registry := by
  induction declarations generalizing draft before with
  | nil =>
      cases failure : draft.failure with
      | none =>
          obtain rfl : draft.registry = registry := by simpa [Draft.build, failure] using builds
          simpa using start
      | some fault => simp [Draft.build, failure] at builds
  | cons declaration rest ih =>
      cases failure : draft.failure with
      | none =>
          cases resolved : declaration.resolve draft.registry with
          | error fault =>
              have failed : (draft.table declaration).failure = some fault := by
                simp [Draft.table, declare, failure, resolved]
              rw [List.foldl_cons, foldl_table_of_failure failed] at builds
              simp [Draft.build, failed] at builds
          | ok table =>
              have added : draft.table declaration = ⟨draft.registry.add table, none⟩ := by
                simp [Draft.table, declare, failure, resolved]
              rw [List.foldl_cons, added] at builds
              have accepted := TableDeclaration.accepted_of_resolve resolved
              simpa using ih _ (add _ _ declaration table start accepted) builds
      | some fault =>
          rw [foldl_table_of_failure failure] at builds
          simp [Draft.build, failure] at builds

end Draft

namespace Registry

theorem Built.induction {motive : Registry → Prop} {registry : Registry} (built : registry.Built)
    (empty : ∀ dialect, motive (Registry.empty dialect))
    (add : ∀ earlier (declaration : TableDeclaration) table, motive earlier →
      declaration.Accepted earlier table → motive (earlier.add table)) :
    motive registry := by
  obtain ⟨declarations, builds⟩ := built
  exact Draft.build_induction (motive := fun _ => motive) (fun _ => add) []
    (empty registry.dialect) builds

end Registry

/-! ## What holds of registries that are built -/

theorem find?_key_eq_some {α κ : Type} [DecidableEq κ] {key : α → κ} {items : List α}
    (distinct : (items.map key).Nodup) {item : α} (member : item ∈ items) :
    items.find? (fun other => key other = key item) = some item := by
  cases found : items.find? fun other => key other = key item with
  | none => simpa using List.find?_eq_none.mp found item member
  | some other =>
      have same : key other = key item := by simpa using List.find?_some found
      rw [List.inj_on_of_nodup_map distinct (List.mem_of_find?_eq_some found) member same]

theorem find?_key_eq_some_iff {α κ : Type} [DecidableEq κ] {key : α → κ} {items : List α}
    (distinct : (items.map key).Nodup) {wanted : κ} {item : α} :
    items.find? (fun other => key other = wanted) = some item ↔
      item ∈ items ∧ key item = wanted := by
  constructor
  · intro found
    exact ⟨List.mem_of_find?_eq_some found, by simpa using List.find?_some found⟩
  · rintro ⟨member, rfl⟩
    exact find?_key_eq_some distinct member

theorem nodup_flatMap_of_key {α κ β : Type} {key : α → κ} {items : List α} {entries : α → List β}
    (back : β → κ) (distinct : (items.map key).Nodup) (each : ∀ item ∈ items, (entries item).Nodup)
    (leads : ∀ item, ∀ entry ∈ entries item, back entry = key item) :
    (items.flatMap entries).Nodup := by
  rw [List.nodup_flatMap]
  refine ⟨each, (List.pairwise_map.mp distinct).imp fun {item other} different => ?_⟩
  intro entry listed other_listed
  exact different ((leads item entry listed).symm.trans (leads other entry other_listed))

theorem forall_split_concat {α : Type} {motive : List α → α → Prop} {items : List α} {last : α}
    (earlier : ∀ before item after, items = before ++ item :: after → motive before item)
    (at_end : motive items last) (before : List α) (item : α) (after : List α)
    (split : items ++ [last] = before ++ item :: after) : motive before item := by
  rcases List.eq_nil_or_concat after with rfl | ⟨rest, other, rfl⟩
  · obtain ⟨rfl, rfl⟩ : items = before ∧ last = item := by simpa using List.append_inj' split rfl
    exact at_end
  · have shape : items ++ [last] = (before ++ item :: rest) ++ [other] := by simpa using split
    exact earlier before item rest (List.append_inj' shape rfl).1

/-- What holds of a table on its own. -/
structure Table.Sound (table : Table) : Prop where
  columns_ne_nil : table.columns ≠ []
  names_nodup : (table.columns.map Column.name).Nodup
  properties_nodup : (table.columns.map fun column => column.property.name).Nodup
  pairs_ne_nil : ∀ key ∈ table.foreignKeys, key.pairs ≠ []

theorem Table.Sound.keys_nodup {table : Table} (sound : table.Sound) :
    (table.columns.map fun column => table.key column.property.name).Nodup := by
  refine List.Nodup.of_map PropertyKey.name ?_
  rw [List.map_map]
  exact sound.properties_nodup

theorem Table.Sound.references_nodup {table : Table} (sound : table.Sound) :
    (table.columns.map table.reference).Nodup := by
  refine List.Nodup.of_map ColumnRef.column ?_
  rw [List.map_map]
  exact sound.names_nodup

theorem nodup_keys_of_records {tables : List Table} (distinct : (tables.map Table.record).Nodup)
    (sound : ∀ table ∈ tables, table.Sound) :
    (tables.flatMap fun table =>
      table.columns.map fun column => table.key column.property.name).Nodup := by
  refine nodup_flatMap_of_key PropertyKey.record distinct
    (fun table member => (sound table member).keys_nodup) fun table key listed => ?_
  obtain ⟨_, -, rfl⟩ := List.mem_map.mp listed
  rfl

theorem Table.Sound.column?_eq_some {table : Table} (sound : table.Sound) {key : PropertyKey}
    {column : Column} :
    table.column? key = some column ↔
      column ∈ table.columns ∧ key = table.key column.property.name := by
  constructor
  · intro found
    unfold Table.column? at found
    split at found
    · rename_i own
      have same : column.property.name = key.name := by simpa using List.find?_some found
      refine ⟨List.mem_of_find?_eq_some found, ?_⟩
      rw [Table.key, same, ← own]
    · cases found
  · rintro ⟨stored, rfl⟩
    simp only [Table.column?, Table.key, if_true]
    exact find?_key_eq_some sound.properties_nodup stored

theorem Table.Sound.columnOf?_eq_some {table : Table} (sound : table.Sound) {property : String}
    {column : Column} :
    table.columnOf? property = some column ↔
      column ∈ table.columns ∧ column.property.name = property :=
  find?_key_eq_some_iff sound.properties_nodup

/-- What holds of the tables of a registry together. -/
structure Registry.Sound (registry : Registry) : Prop where
  tables_sound : ∀ table ∈ registry.tables, table.Sound
  records_nodup : (registry.tables.map Table.record).Nodup
  names_nodup : (registry.tables.map Table.name).Nodup

namespace TableDeclaration

theorem Accepted.sound {declaration : TableDeclaration} {registry : Registry} {table : Table}
    (accepted : declaration.Accepted registry table) : table.Sound := by
  obtain ⟨-, names_nodup, properties_nodup, -⟩ :=
    checkColumns_eq_ok.mp accepted.columns_checked
  refine ⟨?_, ?_, ?_, ?_⟩
  · simpa [accepted.columns_eq, columnList] using accepted.columns_ne_nil
  · simpa [accepted.columns_eq] using names_nodup
  · simpa [accepted.columns_eq] using properties_nodup
  · intro key member
    obtain ⟨marked, declared, marked_resolved, declared_resolved, keys_eq⟩ :=
      accepted.foreignKeys_resolved
    rw [keys_eq] at member
    rcases List.mem_append.mp member with in_marked | in_declared
    · obtain ⟨mark, -, resolved⟩ := exists_of_mem_mapM marked_resolved in_marked
      exact pairs_ne_nil_of_resolveMarked resolved
    · obtain ⟨declared, -, resolved⟩ := exists_of_mem_mapM declared_resolved in_declared
      exact pairs_ne_nil_of_resolveForeignKey resolved

end TableDeclaration

namespace Registry

/-- An accepted table goes with the ones before it. -/
theorem Sound.add {registry : Registry} (sound : registry.Sound)
    {declaration : TableDeclaration} {table : Table}
    (accepted : declaration.Accepted registry table) : (registry.add table).Sound where
  tables_sound other member := by
    rcases List.mem_append.mp member with earlier | last
    · exact sound.tables_sound other earlier
    · obtain rfl := List.mem_singleton.mp last
      exact accepted.sound
  records_nodup := by
    have unused : table.record ∉ registry.tables.map Table.record := by
      have none := accepted.record_unused
      simpa [table?, accepted.record_eq] using none
    simpa [Registry.add, List.nodup_append, sound.records_nodup] using unused
  names_nodup := by
    have unused : table.name ∉ registry.tables.map Table.name := by
      simpa [accepted.name_eq] using accepted.name_unused
    simpa [Registry.add, List.nodup_append, sound.names_nodup] using unused

theorem Built.sound {registry : Registry} (built : registry.Built) : registry.Sound := by
  refine built.induction (fun dialect => ?_) fun earlier declaration table sound accepted => ?_
  · exact ⟨by simp [Registry.empty], by simp [Registry.empty], by simp [Registry.empty]⟩
  · exact sound.add accepted

/-! ### Tables by their names -/

theorem table?_eq_some {registry : Registry} {record : RecordType} {table : Table}
    (found : registry.table? record = some table) :
    table ∈ registry.tables ∧ table.record = record :=
  ⟨List.mem_of_find?_eq_some found, by simpa using List.find?_some found⟩

theorem Sound.eq_of_record_eq {registry : Registry} (sound : registry.Sound) {table other : Table}
    (member : table ∈ registry.tables) (other_member : other ∈ registry.tables)
    (same : table.record = other.record) : table = other :=
  List.inj_on_of_nodup_map sound.records_nodup member other_member same

theorem Sound.table?_record {registry : Registry} (sound : registry.Sound) {table : Table}
    (member : table ∈ registry.tables) : registry.table? table.record = some table :=
  find?_key_eq_some sound.records_nodup member

theorem Sound.table?_eq_some_iff {registry : Registry} (sound : registry.Sound)
    {record : RecordType} {table : Table} :
    registry.table? record = some table ↔ table ∈ registry.tables ∧ table.record = record :=
  find?_key_eq_some_iff sound.records_nodup

theorem Sound.eq_of_name_eq {registry : Registry} (sound : registry.Sound) {table other : Table}
    (member : table ∈ registry.tables) (other_member : other ∈ registry.tables)
    (same : table.name = other.name) : table = other :=
  List.inj_on_of_nodup_map sound.names_nodup member other_member same

end Registry

/-! ## A registry of users with their roles -/

namespace Staff

/-- The roles of users. -/
def role : RecordType := ⟨"Role"⟩

/-- The users, each with a role. -/
def user : RecordType := ⟨"User"⟩

/-- The declarations of the table of roles and of the table of users, which refers to it. -/
def declarations : List TableDeclaration :=
  [⟨role, "roles",
      [(ColumnDeclaration.of ⟨"id", ⟨.int32, false⟩⟩ .integer rfl).asPrimaryKey none rfl,
        ColumnDeclaration.of ⟨"label", ⟨.string, false⟩⟩ .varchar rfl], none, []⟩,
    ⟨user, "users",
      [(ColumnDeclaration.of ⟨"seq", ⟨.int32, true⟩⟩ .serial rfl).asPrimaryKey none rfl,
        (ColumnDeclaration.of ⟨"lastname", ⟨.string, false⟩⟩ .varchar rfl).named "lname",
        ColumnDeclaration.of ⟨"alias", ⟨.string, true⟩⟩ .varchar rfl,
        (ColumnDeclaration.of ⟨"role_id", ⟨.int32, false⟩⟩ .integer rfl).asForeignKey role none],
      none, []⟩]

/-- The registry of both tables. -/
def registry (dialect : Dialect) : Registry :=
  (declarations.foldl Draft.table (Draft.empty dialect)).registry

theorem registry_built (dialect : Dialect) : (registry dialect).Built := by
  cases dialect <;> exact ⟨declarations, rfl⟩

end Staff

end TableMapping
