import Mathlib.Tactic.Choose
import TableMapping.Proofs.Request.Creation
import TableMapping.Proofs.Request.Mentioned
import TableMapping.Proofs.Schema.Draft

/-!
# The order of declarations

What a declaration becomes depends on the tables that its foreign keys refer to, and otherwise only
on which names are taken. Declarations that can be built in one order can be built in every other
one in which the targets of foreign keys still come first. They become the same tables then, and
requests cannot tell the orders apart.
-/

namespace TableMapping

namespace TableDeclaration

/-- The record types that the foreign keys of a declaration refer to. -/
def targets (declaration : TableDeclaration) : List RecordType :=
  declaration.markedReferences.map (fun marked => marked.2.target) ++
    declaration.foreignKeys.map ForeignKeyDeclaration.target

/-- The targets of the foreign keys of each declaration are declared before it. -/
def TargetsFirst (declarations : List TableDeclaration) : Prop :=
  ∀ before declaration after, declarations = before ++ declaration :: after →
    ∀ target ∈ declaration.targets, ∃ earlier ∈ before, earlier.record = target

/-! ## One declaration -/

variable {declaration : TableDeclaration} {registry other : Registry} {table : Table}

theorem checkNames_eq_ok_iff :
    declaration.checkNames registry = .ok () ↔
      declaration.record ∉ registry.tables.map Table.record ∧
        declaration.name ∉ registry.tables.map Table.name := by
  simp [checkNames_eq_ok, Registry.table?]

/-- Apart from the names in use, a declaration only sees the tables that its foreign keys
refer to. -/
theorem resolve_congr (dialects : registry.dialect = other.dialect)
    (names : declaration.checkNames registry = declaration.checkNames other)
    (same : ∀ target ∈ declaration.targets, registry.table? target = other.table? target) :
    declaration.resolve registry = declaration.resolve other := by
  have marked : declaration.markedReferences.mapM (declaration.resolveMarked registry) =
      declaration.markedReferences.mapM (declaration.resolveMarked other) := by
    refine mapM_congr_of_mem fun marked listed => ?_
    have target_eq := same marked.2.target
      (List.mem_append_left _ (List.mem_map_of_mem listed))
    simp only [resolveMarked, target, target_eq]
  have declared : declaration.foreignKeys.mapM (declaration.resolveForeignKey registry) =
      declaration.foreignKeys.mapM (declaration.resolveForeignKey other) := by
    refine mapM_congr_of_mem fun key listed => ?_
    have target_eq := same key.target (List.mem_append_right _ (List.mem_map_of_mem listed))
    simp only [resolveForeignKey, target, target_eq]
  simp only [resolve, names, dialects, marked, declared]

theorem Accepted.targets_mapped (accepted : declaration.Accepted registry table)
    {target : RecordType} (mentioned : target ∈ declaration.targets) :
    ∃ referred, registry.table? target = some referred := by
  obtain ⟨marked, declared, marked_resolved, declared_resolved, -⟩ :=
    accepted.foreignKeys_resolved
  rcases List.mem_append.mp mentioned with by_column | by_table
  · obtain ⟨⟨column, mark⟩, listed, rfl⟩ := List.mem_map.mp by_column
    obtain ⟨key, -, resolved⟩ := exists_result_of_mapM marked_resolved listed
    obtain ⟨referred, -, -, found, -⟩ := resolveMarked_eq_ok.mp resolved
    exact ⟨referred, found⟩
  · obtain ⟨key, listed, rfl⟩ := List.mem_map.mp by_table
    obtain ⟨foreign, -, resolved⟩ := exists_result_of_mapM declared_resolved listed
    obtain ⟨referred, found, -⟩ := resolveForeignKey_eq_ok.mp resolved
    exact ⟨referred, found⟩

end TableDeclaration

/-! ## Declarations in a row -/

namespace Registry

variable {registry : Registry} {declarations before after : List TableDeclaration}
  {tables : List Table}

theorem takes_append_iff :
    registry.Takes (before ++ after) tables ↔
      ∃ first rest, registry.Takes before first ∧ (registry.addAll first).Takes after rest ∧
        first ++ rest = tables := by
  induction before generalizing registry tables with
  | nil =>
      constructor
      · intro taken
        exact ⟨[], tables, .nil registry, by rwa [addAll_nil], rfl⟩
      · rintro ⟨first, rest, none, taken, rfl⟩
        cases none
        rwa [addAll_nil] at taken
  | cons declaration before ih =>
      constructor
      · rintro (_ | ⟨resolved, later⟩)
        obtain ⟨first, rest, earlier, taken, rfl⟩ := ih.mp later
        rw [addAll_add] at taken
        exact ⟨_ :: first, rest, .cons resolved earlier, taken, rfl⟩
      · rintro ⟨_, rest, _ | ⟨resolved, later⟩, taken, rfl⟩
        rw [← addAll_add] at taken
        exact .cons resolved (ih.mpr ⟨_, rest, later, taken, rfl⟩)

theorem Takes.unique (taken : registry.Takes declarations tables) {others : List Table}
    (again : registry.Takes declarations others) : tables = others := by
  induction taken generalizing others with
  | nil registry =>
      cases again
      rfl
  | cons resolved _ ih =>
      obtain _ | ⟨other_resolved, later⟩ := again
      obtain rfl := Except.ok.inj (resolved.symm.trans other_resolved)
      rw [ih later]

theorem Takes.names_eq (taken : registry.Takes declarations tables) :
    tables.map Table.record = declarations.map TableDeclaration.record ∧
      tables.map Table.name = declarations.map TableDeclaration.name := by
  induction taken with
  | nil registry => exact ⟨rfl, rfl⟩
  | cons resolved _ ih =>
      have accepted := TableDeclaration.accepted_of_resolve resolved
      constructor
      · rw [List.map_cons, List.map_cons, accepted.record_eq, ih.1]
      · rw [List.map_cons, List.map_cons, accepted.name_eq, ih.2]

theorem Takes.built {dialect : Dialect} (taken : (empty dialect).Takes declarations tables) :
    Built ⟨dialect, tables⟩ :=
  ⟨declarations, Draft.build_eq_ok_iff_takes.mpr ⟨tables, taken, rfl⟩⟩

theorem table?_addAll {record : RecordType} {table : Table}
    (found : registry.table? record = some table) (tables : List Table) :
    (registry.addAll tables).table? record = some table := by
  rw [table?] at found ⊢
  rw [addAll, List.find?_append, found, Option.some_or]

/-- Declarations are only taken if the targets of foreign keys come first. -/
theorem Takes.targetsFirst {dialect : Dialect}
    (taken : (empty dialect).Takes declarations tables) :
    TableDeclaration.TargetsFirst declarations := by
  rintro before declaration after rfl target mentioned
  obtain ⟨first, _, earlier, _ | ⟨resolved, _⟩, -⟩ := takes_append_iff.mp taken
  have accepted := TableDeclaration.accepted_of_resolve resolved
  obtain ⟨referred, found⟩ := accepted.targets_mapped mentioned
  obtain ⟨member, same⟩ := table?_eq_some found
  have listed : target ∈ first.map Table.record := List.mem_map.mpr ⟨referred, member, same⟩
  rw [earlier.names_eq.1] at listed
  exact List.mem_map.mp listed

end Registry

/-! ## Declarations in another order -/

/-- The table is the one of the declaration in a registry. The declaration also becomes this table
elsewhere, provided that its names are free and that the targets of its foreign keys have the same
tables there. -/
structure TableDeclaration.Settles (declaration : TableDeclaration) (registry : Registry)
    (table : Table) : Prop where
  record_eq : table.record = declaration.record
  name_eq : table.name = declaration.name
  mapped : registry.table? declaration.record = some table
  resolves : ∀ other : Registry, other.dialect = registry.dialect →
    declaration.checkNames other = .ok () →
    (∀ target ∈ declaration.targets, other.table? target = registry.table? target) →
      declaration.resolve other = .ok table

namespace Registry

variable {dialect : Dialect} {declarations : List TableDeclaration} {tables : List Table}

theorem Takes.exists_settles (taken : (empty dialect).Takes declarations tables)
    {declaration : TableDeclaration} (member : declaration ∈ declarations) :
    ∃ table, declaration.Settles ⟨dialect, tables⟩ table := by
  have sound := taken.built.sound
  obtain ⟨before, after, rfl⟩ := List.append_of_mem member
  obtain ⟨first, _, earlier, _ | @⟨_, _, table, _, later, resolved, _⟩, rfl⟩ :=
    takes_append_iff.mp taken
  have accepted := TableDeclaration.accepted_of_resolve resolved
  have listed : table ∈ first ++ table :: later := by simp
  refine ⟨table, accepted.record_eq, accepted.name_eq, ?_, fun other dialects names same => ?_⟩
  · rw [← accepted.record_eq]
    exact sound.table?_record listed
  · have free : declaration.checkNames ((empty dialect).addAll first) = .ok () :=
      TableDeclaration.checkNames_eq_ok.mpr ⟨accepted.record_unused, accepted.name_unused⟩
    have targets_eq : ∀ target ∈ declaration.targets,
        other.table? target = ((empty dialect).addAll first).table? target := by
      intro target mentioned
      obtain ⟨referred, found⟩ := accepted.targets_mapped mentioned
      rw [same target mentioned, found]
      exact table?_addAll found (table :: later)
    have same_outcome : declaration.resolve other =
        declaration.resolve ((empty dialect).addAll first) :=
      TableDeclaration.resolve_congr dialects (names.trans free.symm) targets_eq
    exact same_outcome.trans resolved

/-- Settled declarations of different names are taken in every order in which the targets of foreign
keys come first. -/
theorem takes_of_settles {registry : Registry} {become : TableDeclaration → Table}
    (settles : ∀ declaration ∈ declarations, declaration.Settles registry (become declaration))
    (records_nodup : (declarations.map TableDeclaration.record).Nodup)
    (names_nodup : (declarations.map TableDeclaration.name).Nodup)
    (targets_first : TableDeclaration.TargetsFirst declarations)
    {before after : List TableDeclaration} (split : declarations = before ++ after) :
    Takes ⟨registry.dialect, before.map become⟩ after (after.map become) := by
  -- From one declaration to the next, its table moves to those that are there already.
  induction after generalizing before with
  | nil => exact .nil _
  | cons declaration after ih =>
      let stage : Registry := ⟨registry.dialect, before.map become⟩
      have own := settles declaration (by simp [split])
      have among : ∀ earlier ∈ before, earlier ∈ declarations := by
        intro earlier listed
        rw [split]
        exact List.mem_append_left _ listed
      have stage_records : stage.tables.map Table.record =
          before.map TableDeclaration.record := by
        rw [List.map_map]
        exact List.map_congr_left fun earlier listed =>
          (settles earlier (among earlier listed)).record_eq
      have stage_names : stage.tables.map Table.name = before.map TableDeclaration.name := by
        rw [List.map_map]
        exact List.map_congr_left fun earlier listed =>
          (settles earlier (among earlier listed)).name_eq
      rw [split, List.map_append, List.map_cons, List.nodup_append] at records_nodup names_nodup
      have free : declaration.checkNames stage = .ok () := by
        rw [TableDeclaration.checkNames_eq_ok_iff, stage_records, stage_names]
        exact ⟨fun again => records_nodup.2.2 _ again _ List.mem_cons_self rfl,
          fun again => names_nodup.2.2 _ again _ List.mem_cons_self rfl⟩
      have found : ∀ earlier ∈ before, stage.table? earlier.record = some (become earlier) := by
        intro earlier listed
        rw [← (settles earlier (among earlier listed)).record_eq]
        exact find?_key_eq_some (stage_records ▸ records_nodup.1) (List.mem_map_of_mem listed)
      have same : ∀ target ∈ declaration.targets,
          stage.table? target = registry.table? target := by
        intro target mentioned
        obtain ⟨earlier, listed, rfl⟩ :=
          targets_first before declaration after split target mentioned
        rw [found earlier listed, (settles earlier (among earlier listed)).mapped]
      have moved : stage.add (become declaration) =
          ⟨registry.dialect, (before ++ [declaration]).map become⟩ := by
        simp [stage, add]
      refine .cons (own.resolves stage rfl free same) ?_
      rw [moved]
      exact ih (by simp [split])

/-- Declarations that are taken in one order are taken in another one exactly if the targets of
foreign keys come first in it, and become the same tables. -/
theorem Takes.perm_iff (taken : (empty dialect).Takes declarations tables)
    {become : TableDeclaration → Table}
    (settles : ∀ declaration ∈ declarations,
      declaration.Settles ⟨dialect, tables⟩ (become declaration))
    {permuted : List TableDeclaration} (same : permuted.Perm declarations) {others : List Table} :
    (empty dialect).Takes permuted others ↔
      TableDeclaration.TargetsFirst permuted ∧ permuted.map become = others := by
  have sound := taken.built.sound
  obtain ⟨records_eq, names_eq⟩ := taken.names_eq
  have records_nodup : (declarations.map TableDeclaration.record).Nodup :=
    records_eq ▸ sound.records_nodup
  have names_nodup : (declarations.map TableDeclaration.name).Nodup :=
    names_eq ▸ sound.names_nodup
  have rearranged (targets_first : TableDeclaration.TargetsFirst permuted) :
      (empty dialect).Takes permuted (permuted.map become) :=
    takes_of_settles (fun declaration member => settles declaration (same.mem_iff.mp member))
      ((same.map _).nodup_iff.mpr records_nodup) ((same.map _).nodup_iff.mpr names_nodup)
      targets_first (List.nil_append permuted).symm
  constructor
  · intro other_taken
    exact ⟨other_taken.targetsFirst, (rearranged other_taken.targetsFirst).unique other_taken⟩
  · rintro ⟨targets_first, rfl⟩
    exact rearranged targets_first

theorem Takes.exists_become (taken : (empty dialect).Takes declarations tables) :
    ∃ become : TableDeclaration → Table, tables = declarations.map become ∧
      ∀ declaration ∈ declarations,
        declaration.Settles ⟨dialect, tables⟩ (become declaration) := by
  have inhabited : Nonempty Table := ⟨⟨⟨""⟩, "", [], none, []⟩⟩
  choose! become settles using
    fun (declaration : TableDeclaration) (member : declaration ∈ declarations) =>
      taken.exists_settles member
  exact ⟨become, ((taken.perm_iff settles (.refl declarations)).mp taken).2.symm, settles⟩

/-! ## The same tables in another order -/

variable {registry other : Registry}

theorem Sound.table?_eq_of_perm (sound : registry.Sound) (other_sound : other.Sound)
    (same : other.tables.Perm registry.tables) (record : RecordType) :
    other.table? record = registry.table? record := by
  ext table
  constructor
  · intro found
    obtain ⟨member, rfl⟩ := table?_eq_some found
    exact sound.table?_record (same.mem_iff.mp member)
  · intro found
    obtain ⟨member, rfl⟩ := table?_eq_some found
    exact other_sound.table?_record (same.mem_iff.mpr member)

theorem Sound.column?_eq_of_table?_eq (sound : registry.Sound) (other_sound : other.Sound)
    (same : ∀ record, other.table? record = registry.table? record) (key : PropertyKey) :
    other.column? key = registry.column? key := by
  ext ⟨table, column⟩
  rw [other_sound.column?_eq_some, sound.column?_eq_some, same]

theorem Valid.exists_create (valid : registry.Valid) :
    ∃ create : Table → CompiledStatement, ∀ table ∈ registry.tables,
      table.compileCreation registry = .ok (create table) := by
  have inhabited : Nonempty CompiledStatement := ⟨⟨"", []⟩⟩
  have creatable : ∀ table ∈ registry.tables, ∃ statement,
      table.compileCreation registry = .ok statement := by
    intro table member
    obtain ⟨earlier, later, split⟩ := List.append_of_mem member
    obtain ⟨-, statement, -, -, compiled, -⟩ := valid.compileCreation_eq_ok split
    exact ⟨statement, compiled⟩
  choose! create creates using creatable
  exact ⟨create, creates⟩

end Registry

/-- Declarations that are built become tables that only depend on the declarations. In another order
the same declarations are built exactly if the target of every foreign key is still declared before
the key. The tables then have the other order, and so have the statements that create them. Every
record type has the same table in both registries, every property the same column, and requests have
the same outcomes. -/
theorem order_matters_for_targets_only {dialect : Dialect} {declarations : List TableDeclaration}
    {registry : Registry}
    (builds : (declarations.foldl Draft.table (Draft.empty dialect)).build = .ok registry) :
    ∃ (become : TableDeclaration → Table) (write : TableDeclaration → CompiledStatement),
      registry.tables = declarations.map become ∧
      registry.compileAllCreations = .ok (declarations.map write) ∧
      ∀ permuted : List TableDeclaration, permuted.Perm declarations →
        ((∃ other, (permuted.foldl Draft.table (Draft.empty dialect)).build = .ok other) ↔
          TableDeclaration.TargetsFirst permuted) ∧
        ∀ other, (permuted.foldl Draft.table (Draft.empty dialect)).build = .ok other →
          other.dialect = registry.dialect ∧
          other.tables = permuted.map become ∧
          other.compileAllCreations = .ok (permuted.map write) ∧
          (∀ record, other.table? record = registry.table? record) ∧
          (∀ key, other.column? key = registry.column? key) ∧
          (∀ record, other.compileCreation record = registry.compileCreation record) ∧
          (∀ insertion : Insertion, insertion.compile other = insertion.compile registry) ∧
          ∀ source : Source, source.SameOutcomes other registry := by
  obtain ⟨tables, taken, rfl⟩ := Draft.build_eq_ok_iff_takes.mp builds
  obtain ⟨become, tables_eq, settles⟩ := taken.exists_become
  have valid := taken.built.valid
  obtain ⟨create, creates⟩ := valid.exists_create
  have listed (order : List TableDeclaration) :
      (order.map become).map create = order.map fun declaration => create (become declaration) :=
    List.map_map
  refine ⟨become, fun declaration => create (become declaration), tables_eq, ?_,
    fun permuted same => ⟨?_, fun other other_builds => ?_⟩⟩
  · rw [← listed, ← tables_eq]
    exact mapM_eq_ok_of_forall creates
  · simp [Draft.build_eq_ok_iff_takes, taken.perm_iff settles same]
  · obtain ⟨others, other_taken, rfl⟩ := Draft.build_eq_ok_iff_takes.mp other_builds
    obtain ⟨-, rfl⟩ := (taken.perm_iff settles same).mp other_taken
    have other_sound := other_taken.built.sound
    have tables_perm : (permuted.map become).Perm tables := tables_eq ▸ same.map become
    have tables_same := valid.toSound.table?_eq_of_perm other_sound tables_perm
    have alike (records : List RecordType) :
        Registry.SameTables ⟨dialect, permuted.map become⟩ ⟨dialect, tables⟩ records :=
      ⟨rfl, fun record _ => tables_same record⟩
    refine ⟨rfl, rfl, ?_, tables_same,
      valid.toSound.column?_eq_of_table?_eq other_sound tables_same,
      fun record => Registry.compileCreation_congr (alike _),
      fun insertion => Insertion.compile_congr (alike _),
      fun source => Source.sameOutcomes (alike _)⟩
    rw [← listed]
    refine mapM_eq_ok_of_forall fun table member => ?_
    have written : table.compileCreation ⟨dialect, permuted.map become⟩ =
        table.compileCreation ⟨dialect, tables⟩ :=
      Table.compileCreation_congr rfl fun key _ => tables_same key.target
    exact written.trans (creates table (tables_perm.mem_iff.mp member))

namespace Staff

/-- The declaration of the table of rooms, which is apart from all others. -/
def rooms : TableDeclaration :=
  ⟨⟨"Room"⟩, "rooms",
    [(ColumnDeclaration.of ⟨"number", ⟨.int32, false⟩⟩ .integer rfl).asPrimaryKey none rfl],
    none, []⟩

/-- Rooms may as well be declared before roles and users, but users not before roles. -/
theorem rooms_declared_anywhere :
    ∃ registry other,
      ((declarations ++ [rooms]).foldl Draft.table (Draft.empty .h2)).build = .ok registry ∧
      ((rooms :: declarations).foldl Draft.table (Draft.empty .h2)).build = .ok other ∧
      registry.tables.map Table.name = ["roles", "users", "rooms"] ∧
      other.tables.map Table.name = ["rooms", "roles", "users"] ∧
      other.compileCreation user = registry.compileCreation user ∧
      usersWithRoles.SameOutcomes other registry ∧
      ¬∃ refused,
        ((rooms :: declarations.reverse).foldl Draft.table (Draft.empty .h2)).build =
          .ok refused := by
  have builds : ((declarations ++ [rooms]).foldl Draft.table (Draft.empty .h2)).build =
      .ok ((declarations ++ [rooms]).foldl Draft.table (Draft.empty .h2)).registry := rfl
  have other_builds : ((rooms :: declarations).foldl Draft.table (Draft.empty .h2)).build =
      .ok ((rooms :: declarations).foldl Draft.table (Draft.empty .h2)).registry := rfl
  obtain ⟨become, write, -, -, orders⟩ := order_matters_for_targets_only builds
  have in_front : (rooms :: declarations).Perm (declarations ++ [rooms]) :=
    (List.perm_append_singleton rooms declarations).symm
  have backwards : (rooms :: declarations.reverse).Perm (declarations ++ [rooms]) :=
    ((List.reverse_perm declarations).cons rooms).trans in_front
  obtain ⟨-, -, -, -, -, creations, -, sources⟩ := (orders _ in_front).2 _ other_builds
  refine ⟨_, _, builds, other_builds, rfl, rfl, creations user, sources usersWithRoles, ?_⟩
  intro refused
  obtain ⟨earlier, listed, same⟩ :=
    (orders _ backwards).1.mp refused [rooms] _ _ rfl role List.mem_cons_self
  obtain rfl := List.mem_singleton.mp listed
  exact absurd same (by decide)

end Staff

end TableMapping
