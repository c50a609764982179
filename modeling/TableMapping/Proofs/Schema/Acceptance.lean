import TableMapping.Proofs.Agreement
import TableMapping.Proofs.Schema.Draft

/-!
# Declarations that are accepted

A declaration is accepted by a registry if its record type and its name are free, its columns go
together, its primary key is declared once, and each of its foreign keys has a target in the
registry. Then exactly its table is added. Otherwise the tables stay as they are, and only the fault
is kept.
-/

namespace TableMapping

/-! ## Declarations that fit -/

namespace TableDeclaration

/-- The columns of each primary key that is declared, on a column or on the table. -/
def keyColumns (declaration : TableDeclaration) : List (List String) :=
  declaration.markedKeys.map PrimaryKey.columns ++
    declaration.primaryKey.toList.map PrimaryKeyDeclaration.columns

/-- A primary key that is declared on a table lists columns of the table, none of them twice, that
always have a value. -/
structure FitsKey (declaration : TableDeclaration) (key : PrimaryKeyDeclaration) : Prop where
  columns_ne_nil : key.columns ≠ []
  columns_nodup : key.columns.Nodup
  columns_required : ∀ property ∈ key.columns, ∃ column ∈ declaration.columnList,
    column.property.name = property ∧ column.nullable = false

/-- The one property is stored in a column of the table, the other in a column of the target, and
the one column can refer to the other. -/
def FitsPair (declaration : TableDeclaration) (target : Table) (property referred : String) :
    Prop :=
  ∃ column ∈ declaration.columnList, column.property.name = property ∧
    ∃ other ∈ target.columns, other.property.name = referred ∧
      column.type.keyCompatible other.type = true

/-- A column can refer to a table whose primary key is a single column. -/
def FitsMark (registry : Registry) (marked : Column × ForeignKeyMark) : Prop :=
  ∃ target ∈ registry.tables, target.record = marked.2.target ∧
    ∃ key, target.primaryKey = some key ∧
      ∃ referred ∈ target.columns, key.columns = [referred.property.name] ∧
        marked.1.type.keyCompatible referred.type = true

/-- A foreign key that is declared on a table refers to another table by as many columns as it has
itself, at least one. -/
def FitsForeignKey (declaration : TableDeclaration) (registry : Registry)
    (key : ForeignKeyDeclaration) : Prop :=
  ∃ target ∈ registry.tables, target.record = key.target ∧ key.columns ≠ [] ∧
    List.Forall₂ (declaration.FitsPair target) key.columns key.references

/-- A declaration goes with the tables of a registry. -/
structure Fits (declaration : TableDeclaration) (registry : Registry) : Prop where
  record_unused : ∀ table ∈ registry.tables, table.record ≠ declaration.record
  name_unused : ∀ table ∈ registry.tables, table.name ≠ declaration.name
  columns_ne_nil : declaration.columns ≠ []
  types_supported : ∀ column ∈ declaration.columnList,
    registry.dialect.supports column.type = true
  names_nodup : (declaration.columnList.map Column.name).Nodup
  properties_nodup : (declaration.columnList.map fun column => column.property.name).Nodup
  keys_le_one : declaration.keyColumns.length ≤ 1
  key_fits : ∀ key, declaration.primaryKey = some key → declaration.FitsKey key
  /-- Where the number of a row is an alias of the primary key, a serial column is that key. -/
  serial_key : registry.dialect = .sqlite → ∀ column ∈ declaration.columnList,
    column.type = .serial → declaration.keyColumns = [[column.property.name]]
  marks_fit : ∀ marked ∈ declaration.markedReferences, FitsMark registry marked
  foreignKeys_fit : ∀ key ∈ declaration.foreignKeys, declaration.FitsForeignKey registry key

end TableDeclaration

/-- The foreign key that a mark on a column stands for has the column alone, and refers to the
primary key of its target. -/
structure ForeignKeyMark.StandsFor (registry : Registry) (marked : Column × ForeignKeyMark)
    (key : ForeignKey) : Prop where
  name_eq : key.name = marked.2.name
  target_eq : key.target = marked.2.target
  columns_eq : key.columns = [marked.1.property.name]
  references_eq : ∃ target ∈ registry.tables, target.record = marked.2.target ∧
    ∃ primary, target.primaryKey = some primary ∧ key.references = primary.columns

/-! ## Checks of declarations -/

namespace TableDeclaration

variable {declaration : TableDeclaration} {registry : Registry}

theorem resolve_eq_ok {table : Table} :
    declaration.resolve registry = .ok table ↔ declaration.Accepted registry table := by
  refine ⟨accepted_of_resolve, fun accepted => ?_⟩
  obtain ⟨marked, declared, marked_resolved, declared_resolved, keys_eq⟩ :=
    accepted.foreignKeys_resolved
  have names := checkNames_eq_ok.mpr ⟨accepted.record_unused, accepted.name_unused⟩
  simp only [resolve, bind_eq_ok, ensure_eq_ok, pure_eq_ok]
  refine ⟨(), names, (), accepted.columns_ne_nil, (), accepted.columns_checked,
    table.primaryKey, accepted.primaryKey_resolved, (), accepted.serials_checked, marked,
    marked_resolved, declared, declared_resolved, ?_⟩
  rw [← accepted.record_eq, ← accepted.name_eq, ← accepted.columns_eq, ← keys_eq]

section Columns

variable (distinct : (declaration.columnList.map fun column => column.property.name).Nodup)

include distinct

theorem columnOf?_eq_some_iff {property : String} {column : Column} :
    declaration.columnOf? property = some column ↔
      column ∈ declaration.columnList ∧ column.property.name = property :=
  find?_key_eq_some_iff distinct

theorem checkKeyColumns_eq_ok_iff_fits {key : PrimaryKeyDeclaration} :
    (key.columns ≠ [] ∧ declaration.checkKeyColumns [] key.columns = .ok ()) ↔
      declaration.FitsKey key := by
  simp only [checkKeyColumns_eq_ok, columnOf?_eq_some_iff distinct]
  constructor
  · rintro ⟨columns_ne_nil, required, columns_nodup, -⟩
    refine ⟨columns_ne_nil, columns_nodup, fun property listed => ?_⟩
    obtain ⟨column, ⟨stored, same⟩, always⟩ := required property listed
    exact ⟨column, stored, same, always⟩
  · rintro ⟨columns_ne_nil, columns_nodup, required⟩
    refine ⟨columns_ne_nil, fun property listed => ?_, columns_nodup, by simp⟩
    obtain ⟨column, stored, same, always⟩ := required property listed
    exact ⟨column, ⟨stored, same⟩, always⟩

theorem exists_resolvePrimaryKey :
    (∃ key, declaration.resolvePrimaryKey = .ok key) ↔
      declaration.keyColumns.length ≤ 1 ∧
        ∀ key, declaration.primaryKey = some key → declaration.FitsKey key := by
  unfold resolvePrimaryKey keyColumns
  -- No column, one column or several columns are marked, and the table has a key or has none.
  rcases declaration.markedKeys with - | ⟨marked, - | ⟨other, rest⟩⟩ <;>
    cases declared : declaration.primaryKey with
    | none => simp
    | some key => simp [← checkKeyColumns_eq_ok_iff_fits distinct, Unique.exists_iff]

end Columns

theorem columns_of_resolvePrimaryKey {key : Option PrimaryKey}
    (resolved : declaration.resolvePrimaryKey = .ok key) :
    key.toList.map PrimaryKey.columns = declaration.keyColumns := by
  have same := congrArg (List.map Prod.snd) (primaryKey_eq_of_resolve resolved)
  simpa [keyColumns, Function.comp_def] using same

theorem checkSerials_eq_ok {dialect : Dialect} {key : Option PrimaryKey} :
    declaration.checkSerials dialect key = .ok () ↔
      (dialect = .sqlite → ∀ column ∈ declaration.columnList, column.type = .serial →
        key.toList.map PrimaryKey.columns = [[column.property.name]]) := by
  have whole (property : String) : isWholeKey key property = true ↔
      key.toList.map PrimaryKey.columns = [[property]] := by
    cases key <;> simp [isWholeKey]
  cases dialect with
  | sqlite =>
      have checks : declaration.checkSerials .sqlite key =
          declaration.columnList.forM fun column =>
            ensure (column.type = .serial → isWholeKey key column.property.name = true)
              (.serialNotKey (declaration.reference column) .sqlite) := rfl
      simp only [checks, forM_eq_ok, ensure_eq_ok, whole, forall_const]
  | _ => simp [checkSerials, Dialect.autoIncrement]

section ForeignKeys

variable (sound : registry.Sound)

include sound

theorem checkReference_eq_ok_iff {column : Column} {target : Table}
    (member : target ∈ registry.tables) {property : String} :
    declaration.checkReference column target property = .ok () ↔
      ∃ referred ∈ target.columns, referred.property.name = property ∧
        column.type.keyCompatible referred.type = true := by
  have target_sound := sound.tables_sound target member
  simp only [checkReference_eq_ok, target_sound.columnOf?_eq_some, and_assoc]

theorem exists_resolveMarked {marked : Column × ForeignKeyMark} :
    (∃ key, declaration.resolveMarked registry marked = .ok key) ↔ FitsMark registry marked := by
  obtain ⟨column, mark⟩ := marked
  simp only [resolveMarked_eq_ok, sound.table?_eq_some_iff]
  constructor
  · rintro ⟨_, target, primary, property, ⟨member, same⟩, has_key, single, checked, rfl⟩
    obtain ⟨referred, stored, rfl, compatible⟩ :=
      (checkReference_eq_ok_iff sound member).mp checked
    exact ⟨target, member, same, primary, has_key, referred, stored, single, compatible⟩
  · rintro ⟨target, member, same, primary, has_key, referred, stored, single, compatible⟩
    have checked : declaration.checkReference column target referred.property.name = .ok () :=
      (checkReference_eq_ok_iff sound member).mpr ⟨referred, stored, rfl, compatible⟩
    exact ⟨_, target, primary, _, ⟨member, same⟩, has_key, single, checked, rfl⟩

theorem checkPair_eq_ok_iff_fits
    (distinct : (declaration.columnList.map fun column => column.property.name).Nodup)
    {target : Table} (member : target ∈ registry.tables) {pair : String × String} :
    declaration.checkPair target pair = .ok () ↔
      declaration.FitsPair target pair.1 pair.2 := by
  simp only [checkPair_eq_ok, columnOf?_eq_some_iff distinct,
    checkReference_eq_ok_iff sound member, FitsPair, and_assoc]

theorem exists_resolveForeignKey
    (distinct : (declaration.columnList.map fun column => column.property.name).Nodup)
    {key : ForeignKeyDeclaration} :
    (∃ resolved, declaration.resolveForeignKey registry key = .ok resolved) ↔
      declaration.FitsForeignKey registry key := by
  simp only [resolveForeignKey_eq_ok, sound.table?_eq_some_iff]
  constructor
  · rintro ⟨_, target, ⟨member, same⟩, columns_ne_nil, same_length, checked, rfl⟩
    refine ⟨target, member, same, columns_ne_nil, List.forall₂_iff_zip.mpr ⟨same_length, ?_⟩⟩
    exact fun listed => (checkPair_eq_ok_iff_fits sound distinct member).mp (checked _ listed)
  · rintro ⟨target, member, same, columns_ne_nil, paired⟩
    obtain ⟨same_length, each⟩ := List.forall₂_iff_zip.mp paired
    refine ⟨_, target, ⟨member, same⟩, columns_ne_nil, same_length, fun pair listed => ?_, rfl⟩
    exact (checkPair_eq_ok_iff_fits sound distinct member).mpr (each listed)

end ForeignKeys

/-- A declaration becomes a table if it goes with the tables of the registry. -/
theorem exists_accepted (sound : registry.Sound) :
    (∃ table, declaration.Accepted registry table) ↔ declaration.Fits registry := by
  constructor
  · rintro ⟨table, accepted⟩
    obtain ⟨types, names, properties, -⟩ := checkColumns_eq_ok.mp accepted.columns_checked
    obtain ⟨keys_le_one, key_fits⟩ :=
      (exists_resolvePrimaryKey properties).mp ⟨_, accepted.primaryKey_resolved⟩
    obtain ⟨marked, declared, marked_resolved, declared_resolved, -⟩ :=
      accepted.foreignKeys_resolved
    have marks := exists_mapM_eq_ok_iff.mp ⟨marked, marked_resolved⟩
    have keys := exists_mapM_eq_ok_iff.mp ⟨declared, declared_resolved⟩
    refine ⟨by simpa [Registry.table?] using accepted.record_unused, accepted.name_unused,
      accepted.columns_ne_nil, types, names, properties, keys_le_one, key_fits, ?_,
      fun mark listed => (exists_resolveMarked sound).mp (marks mark listed),
      fun key listed => (exists_resolveForeignKey sound properties).mp (keys key listed)⟩
    rw [← columns_of_resolvePrimaryKey accepted.primaryKey_resolved]
    exact checkSerials_eq_ok.mp accepted.serials_checked
  · intro fits
    obtain ⟨key, key_resolved⟩ :=
      (exists_resolvePrimaryKey fits.properties_nodup).mpr ⟨fits.keys_le_one, fits.key_fits⟩
    have marks : ∀ mark ∈ declaration.markedReferences,
        ∃ key, declaration.resolveMarked registry mark = .ok key := fun mark listed =>
      (exists_resolveMarked sound).mpr (fits.marks_fit mark listed)
    obtain ⟨marked, marked_resolved⟩ := exists_mapM_eq_ok_iff.mpr marks
    obtain ⟨declared, declared_resolved⟩ := exists_mapM_eq_ok_iff.mpr fun key listed =>
      (exists_resolveForeignKey sound fits.properties_nodup).mpr (fits.foreignKeys_fit key listed)
    have serials := fits.serial_key
    rw [← columns_of_resolvePrimaryKey key_resolved] at serials
    have unused : registry.table? declaration.record = none := by
      simpa [Registry.table?] using fits.record_unused
    have columns : checkColumns registry.dialect declaration.name [] declaration.columnList =
        .ok () :=
      checkColumns_eq_ok.mpr
        ⟨fits.types_supported, fits.names_nodup, fits.properties_nodup, by simp⟩
    exact ⟨⟨declaration.record, declaration.name, declaration.columnList, key,
      marked ++ declared⟩, rfl, rfl, rfl, unused, fits.name_unused, fits.columns_ne_nil, columns,
      key_resolved, checkSerials_eq_ok.mpr serials, marked, declared, marked_resolved,
      declared_resolved, rfl⟩

/-- The foreign keys of an accepted table are those that the marks on its columns stand for, and
behind them those that are declared on the table. -/
theorem Accepted.foreignKeys_standFor {table : Table}
    (accepted : declaration.Accepted registry table) :
    ∃ marked declared, table.foreignKeys = marked ++ declared ∧
      List.Forall₂ (ForeignKeyMark.StandsFor registry) declaration.markedReferences marked ∧
      declared.map ForeignKey.declaration = declaration.foreignKeys := by
  obtain ⟨marked, declared, marked_resolved, declared_resolved, keys_eq⟩ :=
    accepted.foreignKeys_resolved
  refine ⟨marked, declared, keys_eq, forall₂_of_mapM ?_ marked_resolved, ?_⟩
  · rintro ⟨column, mark⟩ key resolved
    obtain ⟨target, primary, property, found, has_key, single, -, rfl⟩ :=
      resolveMarked_eq_ok.mp resolved
    obtain ⟨member, same⟩ := Registry.table?_eq_some found
    exact ⟨rfl, rfl, rfl, target, member, same, primary, has_key, single.symm⟩
  · have same := map_eq_of_mapM (fun _ _ => declaration_of_resolveForeignKey) declared_resolved
    rw [same, List.map_id']

end TableDeclaration

/-! ## Outcomes -/

/-- Behind declarations that were all accepted, one more is accepted if it goes with the tables that
they became. Then its table stands behind these, with the columns, the primary key and the foreign
keys of the declaration, and the registry stays valid. Otherwise the registry stays as it was, and
the fault of the declaration is kept. -/
theorem declaration_accepted_iff_fits {dialect : Dialect} {declarations : List TableDeclaration}
    {draft : Draft} (declared : draft.Declares dialect declarations) {registry : Registry}
    (builds : draft.build = .ok registry) (declaration : TableDeclaration) :
    ((∃ table, (draft.declare declaration).2 = .ok table) ↔ declaration.Fits registry) ∧
      (∀ table, (draft.declare declaration).2 = .ok table →
        (draft.declare declaration).1 = ⟨registry.add table, none⟩ ∧
        (registry.add table).tables = registry.tables ++ [table] ∧
        declaration.Describes table ∧
        (∃ marked keys, table.foreignKeys = marked ++ keys ∧
          List.Forall₂ (ForeignKeyMark.StandsFor registry) declaration.markedReferences marked ∧
          keys.map ForeignKey.declaration = declaration.foreignKeys) ∧
        (registry.add table).Valid) ∧
      (∀ fault, (draft.declare declaration).2 = .error fault →
        (draft.declare declaration).1 = ⟨registry, some fault⟩) ∧
      draft.table declaration = (draft.declare declaration).1 := by
  have valid := (declared.built builds).valid
  obtain rfl := Draft.build_eq_ok.mp builds
  simp only [Draft.declare_snd]
  refine ⟨?_, fun table resolved => ?_, fun fault fails => ?_, (Draft.declare_fst _ _).symm⟩
  · simp only [TableDeclaration.resolve_eq_ok]
    exact TableDeclaration.exists_accepted valid.toSound
  · have accepted := TableDeclaration.accepted_of_resolve resolved
    rw [Draft.declare_of_resolve_eq_ok resolved]
    exact ⟨rfl, rfl, accepted.describes, accepted.foreignKeys_standFor, valid.add accepted⟩
  · rw [Draft.declare_of_resolve_eq_error fails]

namespace Staff

/-- The badges of users. -/
def badge : RecordType := ⟨"Badge"⟩

/-- The declaration of the table of badges, each for a user and one of the duties of that user. -/
def badges : TableDeclaration :=
  ⟨badge, "badges",
    [(ColumnDeclaration.of ⟨"code", ⟨.string, false⟩⟩ .varchar rfl).asPrimaryKey none rfl,
      (ColumnDeclaration.of ⟨"holder", ⟨.int32, false⟩⟩ .integer rfl).asForeignKey user none,
      ColumnDeclaration.of ⟨"purpose", ⟨.int32, false⟩⟩ .integer rfl],
    none, [⟨none, duty, ["holder", "purpose"], ["user", "role"]⟩]⟩

/-- The declaration of the table of badges with a number for each of them. -/
def numberedBadges : TableDeclaration :=
  ⟨badge, "badges",
    badges.columns ++ [ColumnDeclaration.of ⟨"issue", ⟨.int32, true⟩⟩ .serial rfl], none, []⟩

/-- Badges may be declared behind the other tables. They cannot have numbers beside their codes,
since these would have to be the primary key. -/
theorem badges_fit_without_numbers :
    ∃ draft, Draft.Declares .sqlite (declarations ++ [duties, reports]) draft ∧
      draft.build = .ok (rota .sqlite) ∧
      badges.Fits (rota .sqlite) ∧
      (∃ table, draft.table badges = ⟨(rota .sqlite).add table, none⟩ ∧
        badges.Describes table ∧ ((rota .sqlite).add table).Valid) ∧
      ¬numberedBadges.Fits (rota .sqlite) ∧
      draft.table numberedBadges =
        ⟨rota .sqlite, some (.serialNotKey ⟨"badges", "issue"⟩ .sqlite)⟩ := by
  obtain ⟨draft, declared, builds⟩ := rota_declared
  obtain ⟨accepted_iff, accepted, -, same⟩ := declaration_accepted_iff_fits declared builds badges
  obtain ⟨numbered_iff, -, refused, numbered_same⟩ :=
    declaration_accepted_iff_fits declared builds numberedBadges
  have answers : (draft.declare badges).2 = badges.resolve (rota .sqlite) ∧
      (draft.declare numberedBadges).2 = numberedBadges.resolve (rota .sqlite) := by
    obtain rfl := Draft.build_eq_ok.mp builds
    exact ⟨Draft.declare_snd _ _, Draft.declare_snd _ _⟩
  obtain ⟨table, resolved⟩ : ∃ table, badges.resolve (rota .sqlite) = .ok table := ⟨_, rfl⟩
  have taken := answers.1.trans resolved
  have failed : (draft.declare numberedBadges).2 =
      .error (.serialNotKey ⟨"badges", "issue"⟩ .sqlite) := answers.2.trans rfl
  obtain ⟨added, -, described, -, valid⟩ := accepted table taken
  refine ⟨draft, declared, builds, accepted_iff.mp ⟨table, taken⟩,
    ⟨table, same.trans added, described, valid⟩, fun fits => ?_,
    numbered_same.trans (refused _ failed)⟩
  obtain ⟨_, impossible⟩ := numbered_iff.mpr fits
  rw [failed] at impossible
  cases impossible

end Staff

end TableMapping
