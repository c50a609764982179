import TableMapping.Proofs.Request.Creation
import TableMapping.Text.Numeral

/-!
# Names of constraints

A key without a name of its own is named for its table, and a foreign key also for its target, with
a number from the second key to the same target on. A number behind the name of one target may read
like the name of another one. Apart from that, the names of the keys of a table are distinct.
-/

namespace TableMapping

/-! ## Numbers behind names -/

theorem eq_nil_of_separator_notMem {α : Type} {separator : α} {extra back rest : List α}
    (back_free : separator ∉ back) (same : separator :: back = extra ++ separator :: rest) :
    extra = [] := by
  cases extra with
  | nil => rfl
  | cons first extra =>
      obtain ⟨-, rfl⟩ := List.cons.inj same
      exact absurd (List.mem_append_right extra List.mem_cons_self) back_free

theorem append_separator_inj {α : Type} {separator : α} {front back other rest : List α}
    (back_free : separator ∉ back) (rest_free : separator ∉ rest) :
    front ++ separator :: back = other ++ separator :: rest ↔ front = other ∧ back = rest := by
  constructor
  · intro same
    rcases List.append_eq_append_iff.mp same with ⟨extra, rfl, behind⟩ | ⟨extra, rfl, behind⟩
    · obtain rfl := eq_nil_of_separator_notMem back_free behind
      exact ⟨(List.append_nil front).symm, (List.cons.inj behind).2⟩
    · obtain rfl := eq_nil_of_separator_notMem rest_free behind
      exact ⟨List.append_nil other, (List.cons.inj behind).2.symm⟩
  · rintro ⟨rfl, rfl⟩
    rfl

theorem Decimal.underscore_notMem_digits (number : Nat) : '_' ∉ digits number := by
  intro member
  exact absurd (isDigit_of_mem_digits member) (by decide)

/-- A name with a number behind it, unless the number is one. -/
def numbered (name : String) (number : Nat) : String :=
  name ++ if number = 1 then "" else "_" ++ toString number

@[simp]
theorem numbered_one (name : String) : numbered name 1 = name := by
  simp [numbered]

theorem numbered_of_ne_one {number : Nat} (later : number ≠ 1) (name : String) :
    numbered name number = name ++ "_" ++ toString number := by
  rw [numbered, if_neg later, String.append_assoc]

theorem append_number_inj {name other : String} {number count : Nat} :
    name ++ "_" ++ toString number = other ++ "_" ++ toString count ↔
      name = other ∧ number = count := by
  have separator : "_".toList = ['_'] := rfl
  rw [← String.toList_inj, ← String.toList_inj]
  simp only [String.toList_append, separator, Decimal.toList_toString, List.append_assoc,
    List.singleton_append]
  rw [append_separator_inj (Decimal.underscore_notMem_digits number)
    (Decimal.underscore_notMem_digits count), Decimal.digits_injective.eq_iff]

theorem numbered_eq_iff {name other : String} {number count : Nat} :
    numbered name number = numbered other count ↔
      name = other ∧ number = count ∨
      number = 1 ∧ count ≠ 1 ∧ name = other ++ "_" ++ toString count ∨
      count = 1 ∧ number ≠ 1 ∧ other = name ++ "_" ++ toString number := by
  by_cases first : number = 1
  · by_cases only : count = 1
    · simp [first, only]
    · simp [first, only, numbered_of_ne_one, Ne.symm only]
  · by_cases only : count = 1
    · simp [first, only, numbered_of_ne_one, eq_comm]
    · rw [numbered_of_ne_one first, numbered_of_ne_one only, append_number_inj]
      simp [first, only]

/-! ## Numbers of foreign keys -/

namespace ForeignKey

variable {earlier keys : List ForeignKey}

/-- How many of the keys refer to a record type. -/
def countTo (record : RecordType) (keys : List ForeignKey) : Nat :=
  keys.countP fun key => key.target = record

@[simp]
theorem countTo_nil (record : RecordType) : countTo record [] = 0 := rfl

@[simp]
theorem countTo_cons (record : RecordType) (key : ForeignKey) (keys : List ForeignKey) :
    countTo record (key :: keys) = countTo record keys + if key.target = record then 1 else 0 := by
  simp [countTo, List.countP_cons]

@[simp]
theorem countTo_append (record : RecordType) (keys others : List ForeignKey) :
    countTo record (keys ++ others) = countTo record keys + countTo record others :=
  List.countP_append

/-- The targets of keys that follow the given ones, each with the number of the key among those with
the same target. -/
def numberedTargets (earlier : List ForeignKey) : List ForeignKey → List (RecordType × Nat)
  | [] => []
  | key :: rest =>
      (key.target, 1 + countTo key.target earlier) :: numberedTargets (earlier ++ [key]) rest

theorem mem_numberedTargets {record : RecordType} {number : Nat} :
    (record, number) ∈ numberedTargets earlier keys ↔
      countTo record earlier < number ∧
        number ≤ countTo record earlier + countTo record keys := by
  induction keys generalizing earlier with
  | nil => simp [numberedTargets]
  | cons key keys ih =>
      -- The number of the key itself is the first one above those of the keys before it.
      by_cases own : key.target = record
      · subst own
        simp only [numberedTargets, List.mem_cons, Prod.mk.injEq, ih, countTo_append,
          countTo_cons, countTo_nil, true_and, if_true]
        omega
      · simp [numberedTargets, ih, own, Ne.symm own]

theorem nodup_numberedTargets : (numberedTargets earlier keys).Nodup := by
  induction keys generalizing earlier with
  | nil => exact List.nodup_nil
  | cons key keys ih =>
      refine List.nodup_cons.mpr ⟨fun again => ?_, ih⟩
      have above := (mem_numberedTargets.mp again).1
      simp only [countTo_append, countTo_cons, countTo_nil, if_true] at above
      omega

end ForeignKey

/-! ## Names of the keys of a table -/

/-- The name of a constraint. -/
def TableConstraint.name : TableConstraint → String
  | primaryKey name _ => name
  | foreignKey name _ _ _ => name

namespace Table

/-- The keys of a table have no names of their own. -/
structure Unnamed (table : Table) : Prop where
  primaryKey_name : ∀ key ∈ table.primaryKey, key.name = none
  foreignKey_name : ∀ key ∈ table.foreignKeys, key.name = none

instance (table : Table) : Decidable table.Unnamed :=
  decidable_of_iff
    ((∀ key ∈ table.primaryKey, key.name = none) ∧ ∀ key ∈ table.foreignKeys, key.name = none)
    ⟨fun ⟨primary, foreign⟩ => ⟨primary, foreign⟩,
      fun unnamed => ⟨unnamed.primaryKey_name, unnamed.foreignKey_name⟩⟩

/-- How many foreign keys of a table refer to another one. -/
def keysTo (table target : Table) : Nat := ForeignKey.countTo target.record table.foreignKeys

/-- The targets of the foreign keys of a table, each with the number of the key among those with the
same target. -/
def numberedTargets (table : Table) : List (RecordType × Nat) :=
  ForeignKey.numberedTargets [] table.foreignKeys

theorem mem_numberedTargets {table target : Table} {number : Nat} :
    (target.record, number) ∈ table.numberedTargets ↔
      0 < number ∧ number ≤ table.keysTo target := by
  rw [numberedTargets, ForeignKey.mem_numberedTargets, ForeignKey.countTo_nil, Nat.zero_add]
  rfl

theorem numberedTargets_nodup (table : Table) : table.numberedTargets.Nodup :=
  ForeignKey.nodup_numberedTargets

end Table

namespace Registry

/-- The default name of the foreign key of a table with the given number among those with the same
target, if the target is mapped. -/
def keyName? (registry : Registry) (table : Table) (entry : RecordType × Nat) : Option String :=
  (registry.table? entry.1).map fun target =>
    "FK_" ++ table.name ++ "_" ++ numbered target.name entry.2

/-- A foreign key of the table refers to a table that is called like another target of its foreign
keys with the number of one of them behind it. -/
def NumbersClash (registry : Registry) (table : Table) : Prop :=
  ∃ target ∈ registry.tables, ∃ other ∈ registry.tables, ∃ number ≤ table.keysTo target,
    2 ≤ number ∧ 0 < table.keysTo other ∧ other.name = target.name ++ "_" ++ toString number

instance (registry : Registry) (table : Table) : Decidable (registry.NumbersClash table) :=
  inferInstanceAs <| Decidable <| ∃ target ∈ registry.tables, ∃ other ∈ registry.tables,
    ∃ number ≤ table.keysTo target,
      2 ≤ number ∧ 0 < table.keysTo other ∧ other.name = target.name ++ "_" ++ toString number

end Registry

namespace Table

variable {registry : Registry} {table : Table}

theorem names_primaryKey {primary : List TableConstraint}
    (found : table.primaryKey.toList.mapM table.primaryKeyConstraint = .ok primary) :
    primary.map TableConstraint.name = table.primaryKey.toList.map table.primaryKeyName := by
  refine map_eq_of_mapM (fun key constraint written => ?_) found
  simp only [primaryKeyConstraint, bind_eq_ok, pure_eq_ok] at written
  obtain ⟨names, -, rfl⟩ := written
  rfl

/-- Keys without names of their own have the default names of their targets and numbers. -/
theorem names_foreignKeyConstraints {earlier keys : List ForeignKey}
    {constraints : List TableConstraint} (unnamed : ∀ key ∈ keys, key.name = none)
    (found : table.foreignKeyConstraints registry earlier keys = .ok constraints) :
    (ForeignKey.numberedTargets earlier keys).map (registry.keyName? table) =
      (constraints.map TableConstraint.name).map some := by
  induction keys generalizing earlier constraints with
  | nil =>
      obtain rfl := Except.ok.inj found
      rfl
  | cons key keys ih =>
      simp only [foreignKeyConstraints, foreignKeyConstraint, bind_eq_ok, pure_eq_ok,
        expect_eq_ok] at found
      obtain ⟨_, ⟨target, mapped, columns, -, references, -, rfl⟩, rest, later, rfl⟩ := found
      have others := ih (fun other listed => unnamed other (List.mem_cons_of_mem key listed)) later
      have own : key.name = none := unnamed key List.mem_cons_self
      simp only [ForeignKey.numberedTargets, List.map_cons, others, List.cons.injEq, and_true]
      simp [Registry.keyName?, mapped, TableConstraint.name, foreignKeyName, own, numbered,
        ForeignKey.countTo, String.append_assoc]

theorem primaryKeyName_notMem (unnamed : table.Unnamed) {key : PrimaryKey}
    (is_key : table.primaryKey = some key) {foreign : List TableConstraint}
    (found : table.foreignKeyConstraints registry [] table.foreignKeys = .ok foreign) :
    table.primaryKeyName key ∉ foreign.map TableConstraint.name := by
  intro listed
  have named : some (table.primaryKeyName key) ∈
      table.numberedTargets.map (registry.keyName? table) := by
    rw [numberedTargets, names_foreignKeyConstraints unnamed.foreignKey_name found]
    exact List.mem_map_of_mem listed
  obtain ⟨entry, -, is_name⟩ := List.mem_map.mp named
  obtain ⟨target, -, same⟩ := Option.map_eq_some_iff.mp is_name
  rw [primaryKeyName, unnamed.primaryKey_name key is_key, Option.getD_none] at same
  have first := congrArg (fun name => name.toList.head?) same
  simp at first

end Table

/-! ## Distinct names -/

namespace Registry

variable {registry : Registry} {table target other : Table} {number count : Nat}

theorem Sound.keyName?_eq_iff (sound : registry.Sound) (target_member : target ∈ registry.tables)
    (other_member : other ∈ registry.tables) :
    registry.keyName? table (target.record, number) =
        registry.keyName? table (other.record, count) ↔
      numbered target.name number = numbered other.name count := by
  simp [keyName?, sound.table?_record target_member, sound.table?_record other_member]

/-- Keys of the same default name are the same, unless a number is taken for a part of a name. -/
theorem Sound.eq_of_keyName?_eq (sound : registry.Sound) (apart : ¬registry.NumbersClash table)
    (target_member : target ∈ registry.tables) (other_member : other ∈ registry.tables)
    (key_listed : (target.record, number) ∈ table.numberedTargets)
    (other_listed : (other.record, count) ∈ table.numberedTargets)
    (same_name : registry.keyName? table (target.record, number) =
      registry.keyName? table (other.record, count)) :
    target = other ∧ number = count := by
  obtain ⟨number_pos, number_le⟩ := Table.mem_numberedTargets.mp key_listed
  obtain ⟨count_pos, count_le⟩ := Table.mem_numberedTargets.mp other_listed
  rw [sound.keyName?_eq_iff target_member other_member, numbered_eq_iff] at same_name
  rcases same_name with ⟨same, same_number⟩ | ⟨-, later, called⟩ | ⟨-, later, called⟩
  · exact ⟨sound.eq_of_name_eq target_member other_member same, same_number⟩
  · exact absurd ⟨other, other_member, target, target_member, count, count_le, by omega, by omega,
      called⟩ apart
  · exact absurd ⟨target, target_member, other, other_member, number, number_le, by omega, by omega,
      called⟩ apart

/-- The default names of the foreign keys of a table are distinct exactly if no number is taken for
a part of a name. -/
theorem Sound.keyName?_injective_iff (sound : registry.Sound)
    (mapped : ∀ entry ∈ table.numberedTargets, ∃ target ∈ registry.tables,
      target.record = entry.1) :
    (∀ entry ∈ table.numberedTargets, ∀ next ∈ table.numberedTargets,
        registry.keyName? table entry = registry.keyName? table next → entry = next) ↔
      ¬registry.NumbersClash table := by
  constructor
  · rintro injective ⟨target, target_member, other, other_member, number, among, later, present,
      called⟩
    have numbered_key : (target.record, number) ∈ table.numberedTargets :=
      Table.mem_numberedTargets.mpr ⟨by omega, among⟩
    have first_key : (other.record, 1) ∈ table.numberedTargets :=
      Table.mem_numberedTargets.mpr ⟨Nat.one_pos, present⟩
    have same_name : registry.keyName? table (target.record, number) =
        registry.keyName? table (other.record, 1) := by
      rw [sound.keyName?_eq_iff target_member other_member, numbered_one, called,
        numbered_of_ne_one (by omega)]
    have same_number : number = 1 :=
      congrArg Prod.snd (injective _ numbered_key _ first_key same_name)
    omega
  · rintro apart ⟨record, number⟩ listed ⟨next, count⟩ next_listed same_name
    obtain ⟨target, target_member, rfl⟩ := mapped _ listed
    obtain ⟨other, other_member, rfl⟩ := mapped _ next_listed
    obtain ⟨rfl, rfl⟩ := sound.eq_of_keyName?_eq apart target_member other_member listed
      next_listed same_name
    rfl

theorem Sound.foreignKey_names_nodup_iff (sound : registry.Sound)
    (unnamed : ∀ key ∈ table.foreignKeys, key.name = none) {foreign : List TableConstraint}
    (found : table.foreignKeyConstraints registry [] table.foreignKeys = .ok foreign) :
    (foreign.map TableConstraint.name).Nodup ↔ ¬registry.NumbersClash table := by
  have names : table.numberedTargets.map (registry.keyName? table) =
      (foreign.map TableConstraint.name).map some :=
    Table.names_foreignKeyConstraints unnamed found
  have mapped : ∀ entry ∈ table.numberedTargets, ∃ target ∈ registry.tables,
      target.record = entry.1 := by
    intro entry listed
    have named : registry.keyName? table entry ∈ (foreign.map TableConstraint.name).map some :=
      names ▸ List.mem_map_of_mem listed
    obtain ⟨name, -, is_name⟩ := List.mem_map.mp named
    obtain ⟨target, found, -⟩ := Option.map_eq_some_iff.mp is_name.symm
    exact ⟨target, table?_eq_some found⟩
  have some_injective : Function.Injective (some : String → Option String) :=
    fun _ _ => Option.some.inj
  rw [← List.nodup_map_iff some_injective, ← names,
    List.nodup_map_iff_inj_on table.numberedTargets_nodup]
  exact sound.keyName?_injective_iff mapped

end Registry

/-- Every table of a built registry can be created. If its keys have no names of their own, the
constraints that are read from the text of the statement have distinct names exactly if no number
behind the name of one target reads like the name of another one. -/
theorem default_names_distinct_iff {registry : Registry} (built : registry.Built) {table : Table}
    (member : table ∈ registry.tables) (unnamed : table.Unnamed) :
    ∃ statement creation, registry.compileCreation table.record = .ok statement ∧
      statement.creation? registry.dialect = some creation ∧
      ((creation.constraints.map TableConstraint.name).Nodup ↔ ¬registry.NumbersClash table) := by
  have valid := built.valid
  obtain ⟨earlier, later, split⟩ := List.append_of_mem member
  obtain ⟨create, statement, found, -, compiled, read⟩ := valid.compileCreation_eq_ok split
  simp only [Table.tree, bind_eq_ok, pure_eq_ok] at found
  obtain ⟨primary, primary_found, foreign, foreign_found, rfl⟩ := found
  refine ⟨statement, _, ?_, read, ?_⟩
  · rw [valid.toSound.compileCreation_record member]
    exact compiled
  · have foreign_nodup := valid.toSound.foreignKey_names_nodup_iff unnamed.foreignKey_name
      foreign_found
    rw [CreateTable.reading, List.map_append, Table.names_primaryKey primary_found,
      ← foreign_nodup]
    cases is_key : table.primaryKey with
    | none => rw [Option.toList_none, List.map_nil, List.nil_append]
    | some key =>
        have apart := Table.primaryKeyName_notMem unnamed is_key foreign_found
        rw [Option.toList_some, List.map_singleton, List.singleton_append, List.nodup_cons]
        exact and_iff_right apart

namespace Staff

/-- The roles of former times. -/
def formerRole : RecordType := ⟨"FormerRole"⟩

/-- The grants of roles in exchange for others. -/
def grant : RecordType := ⟨"Grant"⟩

/-- The declaration of the table of former roles under some name. -/
def formerRoles (name : String) : TableDeclaration :=
  ⟨formerRole, name,
    [(ColumnDeclaration.of ⟨"role_number", ⟨.int32, false⟩⟩ .integer rfl).asPrimaryKey none rfl],
    none, []⟩

/-- The declaration of the table of grants, with two foreign keys to roles and one to former
roles. -/
def grants : TableDeclaration :=
  ⟨grant, "grants",
    [(ColumnDeclaration.of ⟨"given", ⟨.int32, false⟩⟩ .integer rfl).asForeignKey role none,
      (ColumnDeclaration.of ⟨"taken", ⟨.int32, false⟩⟩ .integer rfl).asForeignKey role none,
      (ColumnDeclaration.of ⟨"first", ⟨.int32, false⟩⟩ .integer rfl).asForeignKey formerRole none],
    some ⟨none, ["given", "taken"]⟩, []⟩

/-- The registry of users, roles and grants, with former roles under some name. -/
def archive (name : String) : Registry :=
  ((declarations ++ [formerRoles name, grants]).foldl Draft.table
    (Draft.empty .postgresql)).registry

/-- Both foreign keys of grants to roles are named apart from the one to former roles. -/
theorem grants_named_apart :
    ∃ statement creation, (archive "old_roles").compileCreation grant = .ok statement ∧
      statement.creation? .postgresql = some creation ∧
      (creation.constraints.map TableConstraint.name).Nodup := by
  have built : (archive "old_roles").Built :=
    ⟨declarations ++ [formerRoles "old_roles", grants], rfl⟩
  have fine : ∀ table ∈ (archive "old_roles").tables,
      table.Unnamed ∧ ¬(archive "old_roles").NumbersClash table := by decide
  obtain ⟨table, found⟩ : ∃ table, (archive "old_roles").table? grant = some table := ⟨_, rfl⟩
  obtain ⟨member, same⟩ := Registry.table?_eq_some found
  obtain ⟨unnamed, apart⟩ := fine table member
  obtain ⟨statement, creation, compiled, read, distinct⟩ :=
    default_names_distinct_iff built member unnamed
  exact ⟨statement, creation, same ▸ compiled, read, distinct.mpr apart⟩

/-- If the table of former roles is called `roles_2`, the foreign key to it has the same name as the
second one to roles, although no key was given a name. -/
theorem grants_named_alike :
    (archive "roles_2").Built ∧ (∀ table ∈ (archive "roles_2").tables, table.Unnamed) ∧
      ∃ statement creation, (archive "roles_2").compileCreation grant = .ok statement ∧
        statement.creation? .postgresql = some creation ∧
        creation.constraints.map TableConstraint.name =
          ["PK_grants", "FK_grants_roles", "FK_grants_roles_2", "FK_grants_roles_2"] ∧
        ¬(creation.constraints.map TableConstraint.name).Nodup := by
  have built : (archive "roles_2").Built :=
    ⟨declarations ++ [formerRoles "roles_2", grants], rfl⟩
  obtain ⟨table, found, names⟩ : ∃ table, (archive "roles_2").table? grant = some table ∧
      (table.tree (archive "roles_2")).map (fun create =>
        create.constraints.map TableConstraint.name) =
          .ok ["PK_grants", "FK_grants_roles", "FK_grants_roles_2", "FK_grants_roles_2"] :=
    ⟨_, rfl, rfl⟩
  obtain ⟨member, same⟩ := Registry.table?_eq_some found
  obtain ⟨earlier, later, split⟩ := List.append_of_mem member
  obtain ⟨create, statement, is_tree, -, compiled, read⟩ :=
    built.valid.compileCreation_eq_ok split
  rw [is_tree] at names
  have names_eq : create.constraints.map TableConstraint.name =
      ["PK_grants", "FK_grants_roles", "FK_grants_roles_2", "FK_grants_roles_2"] :=
    Except.ok.inj names
  refine ⟨built, by decide, statement, _, ?_, read, names_eq, ?_⟩
  · rw [← same, built.sound.compileCreation_record member]
    exact compiled
  · rw [CreateTable.reading, names_eq]
    decide

end Staff

end TableMapping
