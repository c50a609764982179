import TableMapping.Proofs.Agreement
import TableMapping.Proofs.Request.Creation
import TableMapping.Proofs.Schema.Acceptance

/-!
# Columns that foreign keys refer to

A foreign key that is marked on a column refers to the primary key of its target. One that is
declared on a table refers to the columns that it lists, and it is not looked at whether these are
the primary key. So all foreign keys of a registry, and all that its creations write, refer to
primary keys just if the declarations on tables list them.
-/

namespace TableMapping

/-! ## Lists of names -/

/-- The list has each of the given names once, and no other name. -/
def ListsEach (names given : List String) : Prop :=
  names.Nodup ∧ ∀ name, name ∈ names ↔ name ∈ given

instance (names given : List String) : Decidable (ListsEach names given) :=
  decidable_of_iff
    (names.Nodup ∧ (∀ name ∈ names, name ∈ given) ∧ ∀ name ∈ given, name ∈ names)
    (and_congr_right fun _ => ⟨fun same name => ⟨same.1 name, same.2 name⟩,
      fun same => ⟨fun name => (same name).mp, fun name => (same name).mpr⟩⟩)

theorem ListsEach.map {names given : List String} {replace back : String → String}
    (lists : ListsEach names given) (returns : (names.map replace).map back = names) :
    ListsEach (names.map replace) (given.map replace) := by
  obtain ⟨distinct, same⟩ := lists
  refine ⟨List.Nodup.of_map back (returns.symm ▸ distinct), fun name => ?_⟩
  simp only [List.mem_map, same]

namespace Table

/-- The names of columns list each other just if the properties that the columns store do. -/
theorem Sound.listsEach_iff {table : Table} (sound : table.Sound)
    {properties others names other_names : List String}
    (found : properties.mapM table.columnName = .ok names)
    (other_found : others.mapM table.columnName = .ok other_names) :
    ListsEach names other_names ↔ ListsEach properties others := by
  let name (property : String) : String := (table.columnName property).toOption.getD ""
  let property (name : String) : String :=
    ((table.columns.find? fun column => column.name = name).map fun column =>
      column.property.name).getD ""
  have name_eq (stored named : String) (goes : table.columnName stored = .ok named) :
      named = name stored := by
    simp only [name, goes]
    rfl
  have property_eq (stored named : String) (goes : table.columnName stored = .ok named) :
      property named = stored := by
    obtain ⟨column, listed, rfl⟩ := Option.map_eq_some_iff.mp (expect_eq_ok.mp goes)
    obtain ⟨member, rfl⟩ := sound.columnOf?_eq_some.mp listed
    simp only [property, find?_key_eq_some sound.names_nodup member]
    rfl
  have names_eq : names.map id = properties.map name := map_eq_of_mapM name_eq found
  have other_names_eq : other_names.map id = others.map name := map_eq_of_mapM name_eq other_found
  have properties_eq : names.map property = properties.map id := map_eq_of_mapM property_eq found
  have others_eq : other_names.map property = others.map id :=
    map_eq_of_mapM property_eq other_found
  rw [List.map_id] at names_eq other_names_eq properties_eq others_eq
  constructor
  · intro lists
    have back : (names.map property).map name = names := by rw [properties_eq, ← names_eq]
    have named := lists.map back
    rwa [properties_eq, others_eq] at named
  · intro lists
    have back : (properties.map name).map property = properties := by rw [← names_eq, properties_eq]
    have stored := lists.map back
    rwa [← names_eq, ← other_names_eq] at stored

end Table

/-! ## Keys that refer to primary keys -/

/-- The foreign key refers to the columns of the primary key of its target. -/
def ForeignKey.RefersToKey (registry : Registry) (key : ForeignKey) : Prop :=
  ∃ target ∈ registry.tables, target.record = key.target ∧
    ∃ primary, target.primaryKey = some primary ∧ ListsEach key.references primary.columns

/-- The foreign key lists the columns of the primary key that its target is declared with. -/
def ForeignKeyDeclaration.ListsKey (declarations : List TableDeclaration)
    (key : ForeignKeyDeclaration) : Prop :=
  ∃ target ∈ declarations, target.record = key.target ∧
    ∃ columns, target.keyColumns = [columns] ∧ ListsEach key.references columns

/-- A table is created as what is read from the statement that creates it. -/
def Table.CreatedAs (registry : Registry) (table : Table) (creation : Creation) : Prop :=
  ∃ statement, table.compileCreation registry = .ok statement ∧
    statement.creation? registry.dialect = some creation

/-- If the constraint is a foreign key, then it refers to columns that the creation of a table makes
the primary key of the table. -/
def TableConstraint.NamesKey (registry : Registry) : TableConstraint → Prop
  | primaryKey _ _ => True
  | foreignKey _ _ name references => ∃ target ∈ registry.tables, target.name = name ∧
      ∃ creation, target.CreatedAs registry creation ∧
        ∃ key columns, primaryKey key columns ∈ creation.constraints ∧ ListsEach references columns

namespace TableDeclaration

/-- The foreign keys of the table that a declaration becomes are those that its marks stand for and
those that are declared on the table. -/
def KeysBecome (registry : Registry) (declaration : TableDeclaration) (table : Table) : Prop :=
  declaration.Describes table ∧ ∃ marked declared, table.foreignKeys = marked ++ declared ∧
    List.Forall₂ (ForeignKeyMark.StandsFor registry) declaration.markedReferences marked ∧
    declared.map ForeignKey.declaration = declaration.foreignKeys

end TableDeclaration

theorem ForeignKeyMark.StandsFor.add {registry : Registry} {marked : Column × ForeignKeyMark}
    {key : ForeignKey} (stands : ForeignKeyMark.StandsFor registry marked key) (table : Table) :
    ForeignKeyMark.StandsFor (registry.add table) marked key := by
  obtain ⟨target, member, refers⟩ := stands.references_eq
  exact ⟨stands.name_eq, stands.target_eq, stands.columns_eq, target,
    List.mem_append_left _ member, refers⟩

theorem TableDeclaration.KeysBecome.add {registry : Registry} {declaration : TableDeclaration}
    {table : Table} (become : declaration.KeysBecome registry table) (other : Table) :
    declaration.KeysBecome (registry.add other) table := by
  obtain ⟨describes, marked, declared, keys_eq, stand, declared_eq⟩ := become
  exact ⟨describes, marked, declared, keys_eq,
    stand.imp fun _ _ stands => stands.add other, declared_eq⟩

theorem Draft.Declares.keysBecome {dialect : Dialect} {declarations : List TableDeclaration}
    {draft : Draft} (declared : draft.Declares dialect declarations) {registry : Registry}
    (builds : draft.build = .ok registry) :
    List.Forall₂ (TableDeclaration.KeysBecome registry) declarations registry.tables := by
  rw [← declared.foldl_eq] at builds
  refine build_induction (motive := fun declarations registry =>
    List.Forall₂ (TableDeclaration.KeysBecome registry) declarations registry.tables) ?_ [] .nil
    builds
  intro before earlier declaration table become accepted
  obtain ⟨marked, keys, keys_eq, stand, declared_eq⟩ := accepted.foreignKeys_standFor
  refine List.rel_append (become.imp fun _ _ own => own.add table) (.cons ⟨accepted.describes,
    marked, keys, keys_eq, stand.imp fun _ _ stands => stands.add table, declared_eq⟩ .nil)

namespace Registry

variable {registry : Registry}

theorem Valid.refersToKey_of_standsFor (valid : registry.Valid) {marked : Column × ForeignKeyMark}
    {key : ForeignKey} (stands : ForeignKeyMark.StandsFor registry marked key) :
    key.RefersToKey registry := by
  obtain ⟨target, member, record_eq, primary, has_key, references_eq⟩ := stands.references_eq
  have primary_valid := (valid.tables_valid target member).primaryKey_valid primary has_key
  refine ⟨target, member, record_eq.trans stands.target_eq.symm, primary, has_key, ?_⟩
  rw [references_eq]
  exact ⟨primary_valid.columns_nodup, fun _ => Iff.rfl⟩

end Registry

theorem TableDeclaration.Describes.keyColumns_eq {declaration : TableDeclaration} {table : Table}
    (describes : declaration.Describes table) :
    declaration.keyColumns = table.primaryKey.toList.map PrimaryKey.columns := by
  have same := congrArg (List.map Prod.snd) describes.primaryKey_eq
  simpa [keyColumns, Function.comp_def] using same.symm

/-- A key that is declared on a table refers to the primary key of its target just if the
declaration lists it. -/
theorem refersToKey_iff_listsKey {registry : Registry} {declarations : List TableDeclaration}
    (become : List.Forall₂ TableDeclaration.Describes declarations registry.tables)
    (key : ForeignKey) :
    key.RefersToKey registry ↔ key.declaration.ListsKey declarations := by
  have columns_iff {declaration : TableDeclaration} {table : Table}
      (describes : declaration.Describes table) (columns : List String) :
      declaration.keyColumns = [columns] ↔
        ∃ primary, table.primaryKey = some primary ∧ primary.columns = columns := by
    rw [describes.keyColumns_eq]
    cases table.primaryKey <;> simp
  constructor
  · rintro ⟨target, member, record_eq, primary, has_key, lists⟩
    obtain ⟨declaration, listed, describes⟩ := exists_of_mem_forall₂ become member
    exact ⟨declaration, listed, describes.record_eq.symm.trans record_eq, primary.columns,
      (columns_iff describes _).mpr ⟨primary, has_key, rfl⟩, lists⟩
  · rintro ⟨declaration, listed, record_eq, columns, columns_eq, lists⟩
    obtain ⟨target, member, describes⟩ := exists_of_mem_forall₂ become.flip listed
    obtain ⟨primary, has_key, rfl⟩ := (columns_iff describes columns).mp columns_eq
    exact ⟨target, member, describes.record_eq.trans record_eq, primary, has_key, lists⟩

/-- If a declaration becomes a table, the foreign keys of the table refer to primary keys just if
those that are declared on the table list them. -/
theorem TableDeclaration.KeysBecome.refer_iff {registry : Registry} (valid : registry.Valid)
    {declarations : List TableDeclaration}
    (described : List.Forall₂ TableDeclaration.Describes declarations registry.tables)
    {declaration : TableDeclaration} {table : Table}
    (become : declaration.KeysBecome registry table) :
    (∀ key ∈ declaration.foreignKeys, key.ListsKey declarations) ↔
      ∀ key ∈ table.foreignKeys, key.RefersToKey registry := by
  obtain ⟨-, marked, declared, keys_eq, stand, declared_eq⟩ := become
  have marked_refer : ∀ key ∈ marked, key.RefersToKey registry := by
    intro key member
    obtain ⟨mark, -, stands⟩ := exists_of_mem_forall₂ stand member
    exact valid.refersToKey_of_standsFor stands
  rw [keys_eq, ← declared_eq, List.forall_mem_append, List.forall_mem_map]
  simp only [refersToKey_iff_listsKey described]
  simp only [refersToKey_iff_listsKey described] at marked_refer
  exact (and_iff_right marked_refer).symm

/-! ## Constraints that are written -/

namespace Table

variable {registry : Registry} {table : Table}

theorem primaryKey_mem_constraints {create : CreateTable}
    (found : table.tree registry = .ok create) {name : String} {columns : List String} :
    .primaryKey name columns ∈ create.constraints ↔
      ∃ key, table.primaryKey = some key ∧ table.primaryKeyName key = name ∧
        key.columns.mapM table.columnName = .ok columns := by
  obtain ⟨primary, foreign, constraints_eq, primary_written, foreign_written⟩ :=
    keysWritten_of_tree found
  have not_foreign : .primaryKey name columns ∉ foreign := by
    intro member
    obtain ⟨_, -, _, _, _, _, -, -, -, impossible⟩ := exists_of_mem_forall₂ foreign_written member
    cases impossible
  rw [constraints_eq, List.mem_append, or_iff_left not_foreign]
  constructor
  · intro member
    obtain ⟨key, listed, own, mapped, same⟩ := exists_of_mem_forall₂ primary_written member
    obtain ⟨rfl, rfl⟩ := TableConstraint.primaryKey.inj same
    exact ⟨key, by simpa using listed, rfl, mapped⟩
  · rintro ⟨key, has_key, rfl, mapped⟩
    have listed : key ∈ table.primaryKey.toList := by simp [has_key]
    obtain ⟨_, member, own, own_mapped, rfl⟩ := exists_of_mem_forall₂ primary_written.flip listed
    rwa [Except.ok.inj (mapped.symm.trans own_mapped)]

end Table

namespace Registry

variable {registry : Registry} {table : Table}

theorem Valid.createdAs_iff (valid : registry.Valid) (member : table ∈ registry.tables) :
    ∃ create, table.tree registry = .ok create ∧
      ∀ creation, table.CreatedAs registry creation ↔
        creation = create.reading registry.dialect := by
  obtain ⟨earlier, later, split⟩ := List.append_of_mem member
  obtain ⟨create, statement, found, -, compiles, read⟩ := valid.compileCreation_eq_ok split
  refine ⟨create, found, fun creation => ⟨?_, ?_⟩⟩
  · rintro ⟨other, other_compiles, other_read⟩
    obtain rfl := Except.ok.inj (compiles.symm.trans other_compiles)
    exact Option.some.inj (other_read.symm.trans read)
  · rintro rfl
    exact ⟨statement, compiles, read⟩

/-- A foreign key is written with the columns of a primary key just if it refers to them. -/
theorem Valid.refersToKey_iff_namesKey (valid : registry.Valid) {key : ForeignKey}
    {constraint : TableConstraint} (written : key.WrittenAs registry table constraint) :
    key.RefersToKey registry ↔ constraint.NamesKey registry := by
  obtain ⟨target, number, columns, references, found, -, named, rfl⟩ := written
  obtain ⟨member, record_eq⟩ := table?_eq_some found
  have target_sound := valid.tables_sound target member
  obtain ⟨create, tree, created_iff⟩ := valid.createdAs_iff member
  have own_iff (primary : PrimaryKey) {primary_columns : List String}
      (mapped : primary.columns.mapM target.columnName = .ok primary_columns) :
      ListsEach references primary_columns ↔ ListsEach key.references primary.columns :=
    target_sound.listsEach_iff named mapped
  constructor
  · rintro ⟨other, other_member, other_record, primary, has_key, lists⟩
    obtain rfl : other = target :=
      valid.eq_of_record_eq other_member member (other_record.trans record_eq.symm)
    have primary_valid := (valid.tables_valid other member).primaryKey_valid primary has_key
    have stored : ∀ property ∈ primary.columns, ∃ column ∈ other.columns,
        column.property.name = property := by
      intro property listed
      obtain ⟨column, own, same, -⟩ := primary_valid.columns_required property listed
      exact ⟨column, own, same⟩
    obtain ⟨names, mapped, -⟩ := target_sound.mapM_columnName primary_valid.columns_ne_nil stored
    exact ⟨other, member, rfl, _, (created_iff _).mpr rfl, _, names,
      (Table.primaryKey_mem_constraints tree).mpr ⟨primary, has_key, rfl, mapped⟩,
      (own_iff primary mapped).mpr lists⟩
  · rintro ⟨other, other_member, same_name, creation, created, key_name, names, listed, lists⟩
    obtain rfl : other = target := valid.eq_of_name_eq other_member member same_name
    obtain rfl := (created_iff creation).mp created
    obtain ⟨primary, has_key, -, mapped⟩ := (Table.primaryKey_mem_constraints tree).mp listed
    exact ⟨other, member, record_eq, primary, has_key, (own_iff primary mapped).mp lists⟩

/-- The foreign keys of a table refer to primary keys just if its creation writes them so. -/
theorem Valid.refer_iff_name (valid : registry.Valid) (member : table ∈ registry.tables) :
    (∀ key ∈ table.foreignKeys, key.RefersToKey registry) ↔
      ∀ creation, table.CreatedAs registry creation →
        ∀ constraint ∈ creation.constraints, constraint.NamesKey registry := by
  obtain ⟨create, tree, created_iff⟩ := valid.createdAs_iff member
  obtain ⟨primary, foreign, constraints_eq, primary_written, foreign_written⟩ :=
    Table.keysWritten_of_tree tree
  have primary_name : ∀ constraint ∈ primary, constraint.NamesKey registry := by
    intro constraint listed
    obtain ⟨key, -, columns, -, rfl⟩ := exists_of_mem_forall₂ primary_written listed
    trivial
  have reading_eq : (create.reading registry.dialect).constraints = primary ++ foreign :=
    constraints_eq
  simp only [created_iff, forall_eq, reading_eq, List.forall_mem_append]
  rw [and_iff_right primary_name]
  exact forall_mem_iff_of_forall₂ foreign_written fun key constraint =>
    valid.refersToKey_iff_namesKey

end Registry

/-- A foreign key that is marked on a column refers to the primary key of its target: the target has
one, and the key has each of its columns once. A foreign key that is declared on a table refers to
the columns that it lists. So all foreign keys of a registry refer to the primary keys of their
targets just if the keys that are declared on tables list them, and just if so do all that the
creations of the tables write. -/
theorem marked_keys_refer_to_primary_keys {dialect : Dialect} {declarations : List TableDeclaration}
    {draft : Draft} (declared : draft.Declares dialect declarations) {registry : Registry}
    (builds : draft.build = .ok registry) :
    List.Forall₂ (fun (declaration : TableDeclaration) (table : Table) =>
      ∃ marked keys, table.foreignKeys = marked ++ keys ∧
        List.Forall₂ (ForeignKeyMark.StandsFor registry) declaration.markedReferences marked ∧
        (∀ key ∈ marked, key.RefersToKey registry) ∧
        keys.map ForeignKey.declaration = declaration.foreignKeys) declarations registry.tables ∧
      ((∀ table ∈ registry.tables, ∀ key ∈ table.foreignKeys, key.RefersToKey registry) ↔
        ∀ declaration ∈ declarations, ∀ key ∈ declaration.foreignKeys,
          key.ListsKey declarations) ∧
      (∀ table ∈ registry.tables, ∃ creation, table.CreatedAs registry creation) ∧
      ((∀ table ∈ registry.tables, ∀ creation, table.CreatedAs registry creation →
          ∀ constraint ∈ creation.constraints, constraint.NamesKey registry) ↔
        ∀ declaration ∈ declarations, ∀ key ∈ declaration.foreignKeys,
          key.ListsKey declarations) := by
  have valid := (declared.built builds).valid
  have become := declared.keysBecome builds
  have described : List.Forall₂ TableDeclaration.Describes declarations registry.tables :=
    become.imp fun _ _ own => own.1
  have refer_iff :
      (∀ table ∈ registry.tables, ∀ key ∈ table.foreignKeys, key.RefersToKey registry) ↔
        ∀ declaration ∈ declarations, ∀ key ∈ declaration.foreignKeys,
          key.ListsKey declarations :=
    (forall_mem_iff_of_forall₂ become fun _ _ own => own.refer_iff valid described).symm
  refine ⟨become.imp fun declaration table own => ?_, refer_iff, fun table member => ?_, ?_⟩
  · obtain ⟨-, marked, keys, keys_eq, stand, declared_eq⟩ := own
    refine ⟨marked, keys, keys_eq, stand, fun key member => ?_, declared_eq⟩
    obtain ⟨mark, -, stands⟩ := exists_of_mem_forall₂ stand member
    exact valid.refersToKey_of_standsFor stands
  · obtain ⟨create, -, created_iff⟩ := valid.createdAs_iff member
    exact ⟨_, (created_iff _).mpr rfl⟩
  · rw [← refer_iff]
    exact forall₂_congr fun table member => (valid.refer_iff_name member).symm

namespace Staff

/-- The members of roles. -/
def member : RecordType := ⟨"Member"⟩

/-- The declaration of a table of roles without a primary key. -/
def keylessRoles : TableDeclaration :=
  ⟨role, "roles", [ColumnDeclaration.of ⟨"rank", ⟨.int32, false⟩⟩ .integer rfl], none, []⟩

/-- The column of the role of a member. -/
def memberRole : ColumnDeclaration :=
  ColumnDeclaration.of ⟨"role_rank", ⟨.int32, false⟩⟩ .integer rfl

/-- The declaration of the table of members, whose foreign key is marked on its column. -/
def markedMembers : TableDeclaration :=
  ⟨member, "members", [memberRole.asForeignKey role none], none, []⟩

/-- The declaration of the table of members, whose foreign key is declared on the table. -/
def members : TableDeclaration :=
  ⟨member, "members", [memberRole], none, [⟨none, role, ["role_rank"], ["rank"]⟩]⟩

/-- The registry of members and of roles without a primary key. -/
def keyless : Registry :=
  ([keylessRoles, members].foldl Draft.table (Draft.empty .sqlite)).registry

/-- Roles without a primary key are refused as the target of a column, but not as that of a table.
Then the foreign key does not refer to a primary key, and is written all the same. -/
theorem keyless_roles_referred_to :
    ([keylessRoles, markedMembers].foldl Draft.table (Draft.empty .sqlite)).build =
        .error (.targetWithoutKey "roles" ⟨"members", "role_rank"⟩) ∧
      ([keylessRoles, members].foldl Draft.table (Draft.empty .sqlite)).build = .ok keyless ∧
      keyless.Built ∧
      ∃ table ∈ keyless.tables, (∃ key ∈ table.foreignKeys, ¬key.RefersToKey keyless) ∧
        ∃ creation, table.CreatedAs keyless creation ∧
          ∃ constraint ∈ creation.constraints, ¬constraint.NamesKey keyless := by
  have built : keyless.Built := ⟨[keylessRoles, members], rfl⟩
  have without_key : ∀ table ∈ keyless.tables, table.primaryKey = none := by decide
  obtain ⟨table, listed, key, key_listed⟩ :
      ∃ table ∈ keyless.tables, ∃ key, key ∈ table.foreignKeys :=
    ⟨_, List.mem_cons_of_mem _ List.mem_cons_self, _, List.mem_cons_self⟩
  have refers_elsewhere : ¬key.RefersToKey keyless := by
    rintro ⟨target, target_listed, -, primary, has_key, -⟩
    rw [without_key target target_listed] at has_key
    cases has_key
  have written : ¬∀ creation, table.CreatedAs keyless creation →
      ∀ constraint ∈ creation.constraints, constraint.NamesKey keyless :=
    fun named => refers_elsewhere ((built.valid.refer_iff_name listed).mpr named key key_listed)
  exact ⟨rfl, rfl, built, table, listed, ⟨key, key_listed, refers_elsewhere⟩,
    by simpa only [not_forall, exists_prop] using written⟩

/-- All foreign keys of the rota refer to primary keys, also the one of the reports, which lists the
columns of the primary key of the duties in another order. -/
theorem rota_refers_to_keys :
    ∃ draft, Draft.Declares .sqlite (declarations ++ [duties, reports]) draft ∧
      draft.build = .ok (rota .sqlite) ∧
      (∀ table ∈ (rota .sqlite).tables, ∀ key ∈ table.foreignKeys,
        key.RefersToKey (rota .sqlite)) ∧
      ∀ table ∈ (rota .sqlite).tables, ∀ creation, table.CreatedAs (rota .sqlite) creation →
        ∀ constraint ∈ creation.constraints, constraint.NamesKey (rota .sqlite) := by
  obtain ⟨draft, declared, builds⟩ := rota_declared
  obtain ⟨-, refer_iff, -, name_iff⟩ := marked_keys_refer_to_primary_keys declared builds
  have keys : (declarations ++ [duties, reports]).flatMap TableDeclaration.foreignKeys =
      [⟨none, role, ["role"], ["id"]⟩,
        ⟨some "reported", duty, ["on_role", "on_user"], ["role", "user"]⟩] := rfl
  have listed : ∀ declaration ∈ declarations ++ [duties, reports],
      ∀ key ∈ declaration.foreignKeys, key.ListsKey (declarations ++ [duties, reports]) := by
    intro declaration member key own
    have among := List.mem_flatMap.mpr ⟨declaration, member, own⟩
    simp only [keys, List.mem_cons, List.not_mem_nil, or_false] at among
    rcases among with rfl | rfl
    · exact ⟨_, List.mem_cons_self, rfl, ["id"], rfl, by decide⟩
    · exact ⟨duties, List.mem_append_right _ List.mem_cons_self, rfl, ["user", "role"], rfl,
        by decide⟩
  exact ⟨draft, declared, builds, refer_iff.mpr listed, name_iff.mpr listed⟩

end Staff

end TableMapping
