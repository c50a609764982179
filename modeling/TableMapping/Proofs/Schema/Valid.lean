import Mathlib.Logic.Relation
import TableMapping.Proofs.Schema.Built

/-!
# Valid registries

The names, columns and keys of the tables of a registry fit together. In particular, a foreign key
only refers to a table that was declared before, so that no chain of foreign keys leads back to its
first table. Among the columns of all tables a property is found as it is found in the table of its
record type.
-/

namespace TableMapping

/-! ## Validity -/

/-- A primary key is made of columns of the table that always have a value. -/
structure PrimaryKey.Valid (table : Table) (key : PrimaryKey) : Prop where
  columns_ne_nil : key.columns ≠ []
  columns_nodup : key.columns.Nodup
  columns_required : ∀ property ∈ key.columns, ∃ column ∈ table.columns,
    column.property.name = property ∧ column.nullable = false
  /-- The key is stored as a single one if it has one column. -/
  isSingle_iff : key.parts.isSingle = true ↔ key.columns.length = 1

/-- The pairs of a foreign key of a table are stored in columns of the table and of the target, of
which the one can refer to the other. -/
def ForeignKey.Pairs (table target : Table) (key : ForeignKey) : Prop :=
  ∀ pair ∈ key.pairs, ∃ own ∈ table.columns, ∃ referred ∈ target.columns,
    own.property.name = pair.1 ∧ referred.property.name = pair.2 ∧
      own.type.keyCompatible referred.type = true

/-- A foreign key of a table refers to one of the given tables. -/
structure ForeignKey.Valid (table : Table) (earlier : List Table) (key : ForeignKey) : Prop where
  columns_ne_nil : key.columns ≠ []
  length_eq : key.columns.length = key.references.length
  refers : ∃ target ∈ earlier, target.record = key.target ∧ key.Pairs table target

/-- What holds of a table of a registry on its own. -/
structure Table.Valid (dialect : Dialect) (table : Table) : Prop extends table.Sound where
  types_supported : ∀ column ∈ table.columns, dialect.supports column.type = true
  primaryKey_valid : ∀ key, table.primaryKey = some key → key.Valid table
  /-- Where the number of a row is an alias of the primary key, a serial column is that key. -/
  serial_key : dialect = .sqlite → ∀ column ∈ table.columns, column.type = .serial →
    ∃ key, table.primaryKey = some key ∧ key.columns = [column.property.name]

/-- What holds of the tables of a registry together. -/
structure Registry.Valid (registry : Registry) : Prop extends registry.Sound where
  tables_valid : ∀ table ∈ registry.tables, table.Valid registry.dialect
  /-- Foreign keys refer to tables that were declared before. -/
  foreignKeys_valid : ∀ earlier table later, registry.tables = earlier ++ table :: later →
    ∀ key ∈ table.foreignKeys, key.Valid table earlier

/-! ## Accepted declarations -/

namespace TableDeclaration

variable {declaration : TableDeclaration} {registry : Registry} {table : Table}

theorem columnOf?_eq_some {property : String} {column : Column}
    (found : declaration.columnOf? property = some column) :
    column ∈ declaration.columnList ∧ column.property.name = property :=
  ⟨List.mem_of_find?_eq_some found, by simpa using List.find?_some found⟩

theorem checkKeyColumns_eq_ok {earlier properties : List String} :
    declaration.checkKeyColumns earlier properties = .ok () ↔
      (∀ property ∈ properties, ∃ column, declaration.columnOf? property = some column ∧
        column.nullable = false) ∧
      properties.Nodup ∧ ∀ property ∈ properties, property ∉ earlier := by
  induction properties generalizing earlier with
  | nil => simp [checkKeyColumns]
  | cons property rest ih =>
      simp only [checkKeyColumns, bind_eq_ok, expect_eq_ok, ensure_eq_ok, ih,
        List.forall_mem_cons, List.nodup_cons, List.mem_append, List.mem_singleton, not_or]
      constructor
      · rintro ⟨column, found, _, required, _, new, rest_required, rest_nodup, apart⟩
        exact ⟨⟨⟨column, found, required⟩, rest_required⟩,
          ⟨fun listed => (apart property listed).2 rfl, rest_nodup⟩, new,
          fun other listed => (apart other listed).1⟩
      · rintro ⟨⟨⟨column, found, required⟩, rest_required⟩, ⟨unlisted, rest_nodup⟩, new, apart⟩
        refine ⟨column, found, (), required, (), new, rest_required, rest_nodup,
          fun other listed => ⟨apart other listed, ?_⟩⟩
        rintro rfl
        exact unlisted listed

/-- The primary key of a column is a single one, and that of the table has the listed columns. -/
theorem primaryKey_valid_of_resolve (columns_eq : table.columns = declaration.columnList)
    {key : PrimaryKey} (resolved : declaration.resolvePrimaryKey = .ok (some key)) :
    key.Valid table := by
  unfold resolvePrimaryKey at resolved
  split at resolved
  · cases resolved
  · rename_i marked marks _
    obtain rfl : marked = key := by simpa using resolved
    have listed : marked ∈ declaration.markedKeys := by simp [marks]
    obtain ⟨own, own_listed, is_marked⟩ := List.mem_filterMap.mp listed
    obtain ⟨mark, has_mark, rfl⟩ := Option.map_eq_some_iff.mp is_marked
    have stored : own.column ∈ table.columns := by
      rw [columns_eq]
      exact List.mem_map.mpr ⟨own, own_listed, rfl⟩
    have required := own.keyable (by simp [has_mark])
    constructor
    · simp [PrimaryKey.columns, KeyParts.toList]
    · simp [PrimaryKey.columns, KeyParts.toList]
    · intro property is_own
      obtain rfl : property = own.column.property.name := by
        simpa [PrimaryKey.columns, KeyParts.toList] using is_own
      exact ⟨own.column, stored, rfl, required⟩
    · simp [PrimaryKey.columns, KeyParts.toList, KeyParts.isSingle]
  · rename_i declared _ _
    simp only [bind_eq_ok, ensure_eq_ok, pure_eq_ok, Option.some.injEq] at resolved
    obtain ⟨_, columns_ne_nil, _, checked, rfl⟩ := resolved
    obtain ⟨required, columns_nodup, -⟩ := checkKeyColumns_eq_ok.mp checked
    have columns : PrimaryKey.columns ⟨declared.name, .ofList declared.columns⟩ =
        declared.columns := KeyParts.toList_ofList declared.columns
    constructor
    · rwa [columns]
    · rwa [columns]
    · intro property listed
      rw [columns] at listed
      obtain ⟨column, found, always⟩ := required property listed
      obtain ⟨stored, same⟩ := columnOf?_eq_some found
      exact ⟨column, columns_eq ▸ stored, same, always⟩
    · rw [columns]
      exact KeyParts.isSingle_ofList
  · cases resolved

theorem serial_key_of_checkSerials {key : Option PrimaryKey}
    (checked : declaration.checkSerials .sqlite key = .ok ()) {column : Column}
    (listed : column ∈ declaration.columnList) (serial : column.type = .serial) :
    ∃ whole, key = some whole ∧ whole.columns = [column.property.name] := by
  have each := forM_eq_ok.mp checked column listed
  have is_whole := ensure_eq_ok.mp each serial
  simpa [isWholeKey, Option.any_eq_true] using is_whole

theorem pairs_of_checkReference {column : Column} (stored : column ∈ table.columns)
    {target : Table} {property : String}
    (checked : declaration.checkReference column target property = .ok ()) :
    ∃ own ∈ table.columns, ∃ referred ∈ target.columns,
      own.property.name = column.property.name ∧ referred.property.name = property ∧
        own.type.keyCompatible referred.type = true := by
  obtain ⟨referred, found, compatible⟩ := checkReference_eq_ok.mp checked
  exact ⟨column, stored, referred, List.mem_of_find?_eq_some found, rfl,
    by simpa using List.find?_some found, compatible⟩

/-- Every foreign key of an accepted table refers to a table that is there already. -/
theorem Accepted.foreignKeys_valid (accepted : declaration.Accepted registry table)
    {key : ForeignKey} (member : key ∈ table.foreignKeys) : key.Valid table registry.tables := by
  have pairs_ne_nil := accepted.sound.pairs_ne_nil key member
  refine ⟨by simpa [ForeignKey.columns] using pairs_ne_nil,
    by simp [ForeignKey.columns, ForeignKey.references], ?_⟩
  obtain ⟨marked, declared, marked_resolved, declared_resolved, keys_eq⟩ :=
    accepted.foreignKeys_resolved
  rw [keys_eq] at member
  rcases List.mem_append.mp member with in_marked | in_declared
  · obtain ⟨⟨column, mark⟩, listed, resolved⟩ := exists_of_mem_mapM marked_resolved in_marked
    obtain ⟨target, -, property, found, -, -, checked, rfl⟩ := resolveMarked_eq_ok.mp resolved
    obtain ⟨target_member, same⟩ := Registry.table?_eq_some found
    have stored : column ∈ table.columns := by
      rw [accepted.columns_eq]
      obtain ⟨own, own_listed, is_marked⟩ := List.mem_filterMap.mp listed
      obtain ⟨_, -, same_mark⟩ := Option.map_eq_some_iff.mp is_marked
      exact List.mem_map.mpr ⟨own, own_listed, congrArg Prod.fst same_mark⟩
    refine ⟨target, target_member, same, fun pair listed_pair => ?_⟩
    obtain rfl : pair = (column.property.name, property) := by
      simpa [ForeignKey.pairs, KeyParts.toList] using listed_pair
    exact pairs_of_checkReference stored checked
  · obtain ⟨listing, -, resolved⟩ := exists_of_mem_mapM declared_resolved in_declared
    obtain ⟨target, found, -, -, checked, rfl⟩ := resolveForeignKey_eq_ok.mp resolved
    obtain ⟨target_member, same⟩ := Registry.table?_eq_some found
    refine ⟨target, target_member, same, fun pair listed_pair => ?_⟩
    rw [ForeignKey.pairs, KeyParts.toList_ofList] at listed_pair
    obtain ⟨column, column_found, column_checked⟩ :=
      checkPair_eq_ok.mp (checked pair listed_pair)
    obtain ⟨stored, same_property⟩ := columnOf?_eq_some column_found
    rw [← same_property]
    exact pairs_of_checkReference (accepted.columns_eq ▸ stored) column_checked

theorem Accepted.valid (accepted : declaration.Accepted registry table) :
    table.Valid registry.dialect where
  toSound := accepted.sound
  types_supported := by
    rw [accepted.columns_eq]
    exact (checkColumns_eq_ok.mp accepted.columns_checked).1
  primaryKey_valid key is_key :=
    primaryKey_valid_of_resolve accepted.columns_eq (is_key ▸ accepted.primaryKey_resolved)
  serial_key sqlite column member serial := by
    rw [accepted.columns_eq] at member
    exact serial_key_of_checkSerials (sqlite ▸ accepted.serials_checked) member serial

end TableDeclaration

/-! ## Built registries -/

namespace Registry

theorem Valid.add {registry : Registry} (valid : registry.Valid) {declaration : TableDeclaration}
    {table : Table} (accepted : declaration.Accepted registry table) :
    (registry.add table).Valid where
  toSound := valid.toSound.add accepted
  tables_valid other member := by
    rcases List.mem_append.mp member with earlier | last
    · exact valid.tables_valid other earlier
    · obtain rfl := List.mem_singleton.mp last
      exact accepted.valid
  foreignKeys_valid := forall_split_concat
    (motive := fun (before : List Table) (other : Table) =>
      ∀ key ∈ other.foreignKeys, key.Valid other before)
    valid.foreignKeys_valid fun _ member => accepted.foreignKeys_valid member

theorem Built.valid {registry : Registry} (built : registry.Built) : registry.Valid := by
  refine built.induction (fun dialect => ?_) fun earlier declaration table valid accepted => ?_
  · exact ⟨⟨by simp [Registry.empty], by simp [Registry.empty], by simp [Registry.empty]⟩,
      by simp [Registry.empty], by simp [Registry.empty]⟩
  · exact valid.add accepted

end Registry

/-! ### References between tables -/

namespace Registry

variable {registry : Registry}

theorem Valid.target_earlier (valid : registry.Valid) {table target : Table}
    (member : table ∈ registry.tables) (target_member : target ∈ registry.tables)
    {key : ForeignKey} (listed : key ∈ table.foreignKeys) (same : key.target = target.record) :
    ∃ earlier later, registry.tables = earlier ++ table :: later ∧ target ∈ earlier ∧
      key.Pairs table target := by
  obtain ⟨earlier, later, split⟩ := List.append_of_mem member
  obtain ⟨-, -, other, other_earlier, other_record, pairs⟩ :=
    valid.foreignKeys_valid earlier table later split key listed
  have other_member : other ∈ registry.tables := by
    rw [split]
    exact List.mem_append_left _ other_earlier
  obtain rfl : other = target :=
    valid.eq_of_record_eq other_member target_member (other_record.trans same)
  exact ⟨earlier, later, split, other_earlier, pairs⟩

/-- A foreign key of the one table refers to the other. -/
def Refers (registry : Registry) (table target : Table) : Prop :=
  table ∈ registry.tables ∧ target ∈ registry.tables ∧
    ∃ key ∈ table.foreignKeys, key.target = target.record

theorem Valid.idxOf_lt_of_refers (valid : registry.Valid) {table target : Table}
    (refers : registry.Refers table target) :
    registry.tables.idxOf target < registry.tables.idxOf table := by
  obtain ⟨member, target_member, key, listed, same⟩ := refers
  obtain ⟨earlier, later, split, target_earlier, -⟩ :=
    valid.target_earlier member target_member listed same
  have distinct : (earlier ++ table :: later).Nodup := by
    rw [← split]
    exact List.Nodup.of_map Table.record valid.records_nodup
  have unlisted : table ∉ earlier := by
    intro again
    exact (List.nodup_append.mp distinct).2.2 table again table List.mem_cons_self rfl
  rw [split, List.idxOf_append_of_mem target_earlier, List.idxOf_append_of_notMem unlisted]
  exact Nat.lt_add_right _ (List.idxOf_lt_length_of_mem target_earlier)

/-- A foreign key of one of the two tables refers to the other one. -/
def Linked (registry : Registry) (table other : Table) : Prop :=
  registry.Refers table other ∨ registry.Refers other table

/-- No chain of foreign keys leads from a table back to it. -/
theorem Valid.acyclic (valid : registry.Valid) (table : Table) :
    ¬Relation.TransGen registry.Refers table table := by
  have decreases {first last : Table} (chain : Relation.TransGen registry.Refers first last) :
      registry.tables.idxOf last < registry.tables.idxOf first := by
    induction chain with
    | single refers => exact valid.idxOf_lt_of_refers refers
    | tail _ refers ih => exact Nat.lt_trans (valid.idxOf_lt_of_refers refers) ih
  exact fun cycle => Nat.lt_irrefl _ (decreases cycle)

end Registry

/-! ### Columns by their properties -/

namespace Registry

variable {registry : Registry}

theorem mem_columns {key : PropertyKey} {table : Table} {column : Column} :
    (key, table, column) ∈ registry.columns ↔
      table ∈ registry.tables ∧ column ∈ table.columns ∧
        key = table.key column.property.name := by
  simp only [columns, List.mem_flatMap, List.mem_map, Prod.mk.injEq]
  constructor
  · rintro ⟨_, member, _, stored, rfl, rfl, rfl⟩
    exact ⟨member, stored, rfl⟩
  · rintro ⟨member, stored, rfl⟩
    exact ⟨table, member, column, stored, rfl, rfl, rfl⟩

theorem Sound.keys_nodup (sound : registry.Sound) : (registry.columns.map Prod.fst).Nodup := by
  have keys : registry.columns.map Prod.fst = registry.tables.flatMap fun table =>
      table.columns.map fun column => table.key column.property.name := by
    simp [columns, List.map_flatMap, Function.comp_def]
  rw [keys]
  exact nodup_keys_of_records sound.records_nodup sound.tables_sound

/-- A property is found in the columns of all tables as it is found in the table of its record
type. -/
theorem Sound.column?_eq_some (sound : registry.Sound) {key : PropertyKey} {table : Table}
    {column : Column} :
    registry.column? key = some (table, column) ↔
      registry.table? key.record = some table ∧ column ∈ table.columns ∧
        column.property.name = key.name := by
  constructor
  · intro found
    obtain ⟨⟨other, entry⟩, entry_found, rfl⟩ := Option.map_eq_some_iff.mp found
    obtain rfl : other = key := by simpa using List.find?_some entry_found
    obtain ⟨member, stored, rfl⟩ := mem_columns.mp (List.mem_of_find?_eq_some entry_found)
    exact ⟨sound.table?_record member, stored, rfl⟩
  · rintro ⟨mapped, stored, same⟩
    obtain ⟨member, record_eq⟩ := table?_eq_some mapped
    have listed : (key, table, column) ∈ registry.columns := by
      refine mem_columns.mpr ⟨member, stored, ?_⟩
      rw [Table.key, record_eq, same]
    rw [column?, find?_key_eq_some sound.keys_nodup listed]
    rfl

/-- The names of the table and of the column that store a property. -/
def location? (registry : Registry) (key : PropertyKey) : Option ColumnRef :=
  (registry.column? key).map fun (table, column) => table.reference column

theorem Sound.location?_injective (sound : registry.Sound) {key other : PropertyKey}
    {location : ColumnRef} (found : registry.location? key = some location)
    (other_found : registry.location? other = some location) : key = other := by
  obtain ⟨⟨table, column⟩, stored, rfl⟩ := Option.map_eq_some_iff.mp found
  obtain ⟨⟨table', column'⟩, other_stored, same⟩ := Option.map_eq_some_iff.mp other_found
  obtain ⟨mapped, listed, name_eq⟩ := sound.column?_eq_some.mp stored
  obtain ⟨other_mapped, other_listed, other_name_eq⟩ := sound.column?_eq_some.mp other_stored
  obtain ⟨member, record_eq⟩ := table?_eq_some mapped
  obtain ⟨other_member, other_record_eq⟩ := table?_eq_some other_mapped
  obtain rfl : table' = table :=
    sound.eq_of_name_eq other_member member (congrArg ColumnRef.table same)
  obtain rfl : column' = column :=
    List.inj_on_of_nodup_map (sound.tables_sound table' member).names_nodup other_listed listed
      (congrArg ColumnRef.column same)
  obtain ⟨record, name⟩ := key
  obtain ⟨other_record, other_name⟩ := other
  simp_all

end Registry

end TableMapping
