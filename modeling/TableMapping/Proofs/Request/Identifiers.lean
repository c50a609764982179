import TableMapping.Proofs.Dialect.Identifier
import TableMapping.Proofs.Request.Creation

/-!
# Identifiers of tables and columns

The names of the tables of a registry are distinct, and so are those of the columns of each table.
A database that ignores the case of ASCII letters in bare identifiers tells them apart all the same,
unless two of them are written bare and differ in nothing but that case.
-/

namespace TableMapping

namespace Dialect

/-- A database tells the identifiers of any two of the names apart. -/
def TellsApart (dialect : Dialect) (names : List String) : Prop :=
  names.Pairwise fun name other =>
    ¬SameIdentifier (dialect.identifier name.toList) (dialect.identifier other.toList)

instance (dialect : Dialect) (names : List String) : Decidable (dialect.TellsApart names) :=
  inferInstanceAs (Decidable (List.Pairwise _ _))

/-- Distinct names are told apart unless two of them are confused for their case. -/
theorem tellsApart_iff {dialect : Dialect} {names : List String} (distinct : names.Nodup) :
    dialect.TellsApart names ↔
      names.Pairwise fun name other => ¬dialect.Confuses name other := by
  refine ⟨fun apart => ?_, fun apart => ?_⟩
  · exact (apart.and distinct).imp fun ⟨same, different⟩ =>
      mt (sameIdentifier_iff different).mpr same
  · exact (apart.and distinct).imp fun ⟨confused, different⟩ =>
      mt (sameIdentifier_iff different).mp confused

end Dialect

/-- A database takes the identifiers of two tables of a built registry for the same one exactly if
their names are written bare and differ in the case of ASCII letters only, and so it does for two
columns of a table. Apart from that, the statements that create the tables name each table and each
column of a table only once. -/
theorem identifiers_confused_iff {registry : Registry} (built : registry.Built) :
    (∀ record other first second, registry.table? record = some first →
      registry.table? other = some second → record ≠ other →
        (SameIdentifier (registry.dialect.identifier first.name.toList)
            (registry.dialect.identifier second.name.toList) ↔
          registry.dialect.Confuses first.name second.name)) ∧
      (∀ table ∈ registry.tables, ∀ column ∈ table.columns, ∀ other ∈ table.columns,
        column ≠ other →
          (SameIdentifier (registry.dialect.identifier column.name.toList)
              (registry.dialect.identifier other.name.toList) ↔
            registry.dialect.Confuses column.name other.name)) ∧
      ∃ statements creations, registry.compileAllCreations = .ok statements ∧
        statements.mapM (CompiledStatement.creation? registry.dialect) = some creations ∧
        creations.map Creation.heading = registry.tables.map Table.heading ∧
        (registry.dialect.TellsApart (creations.map Creation.table) ↔
          (registry.tables.map Table.name).Pairwise fun name other =>
            ¬registry.dialect.Confuses name other) ∧
        ∀ creation ∈ creations,
          (registry.dialect.TellsApart (creation.columns.map CreatedColumn.name) ↔
            (creation.columns.map CreatedColumn.name).Pairwise fun name other =>
              ¬registry.dialect.Confuses name other) := by
  have valid := built.valid
  have sound := valid.toSound
  refine ⟨fun record other first second found other_found different => ?_,
    fun table member column stored other other_stored different => ?_, ?_⟩
  · obtain ⟨first_member, rfl⟩ := Registry.table?_eq_some found
    obtain ⟨second_member, rfl⟩ := Registry.table?_eq_some other_found
    refine Dialect.sameIdentifier_iff fun same => different ?_
    rw [sound.eq_of_name_eq first_member second_member same]
  · have names_nodup := (sound.tables_sound table member).names_nodup
    exact Dialect.sameIdentifier_iff fun same =>
      different (List.inj_on_of_nodup_map names_nodup stored other_stored same)
  · obtain ⟨statements, creations, compiled, read, headings, -⟩ :=
      valid.mapM_compileCreation (List.nil_append registry.tables).symm
    have tables : creations.map Creation.table = registry.tables.map Table.name := by
      simpa [Function.comp_def, Creation.heading, Table.heading] using
        congrArg (List.map Heading.table) headings
    refine ⟨statements, creations, compiled, read, headings, ?_, fun creation member => ?_⟩
    · rw [tables, Dialect.tellsApart_iff sound.names_nodup]
    · have listed : creation.heading ∈ registry.tables.map Table.heading :=
        headings ▸ List.mem_map_of_mem member
      obtain ⟨table, table_member, same⟩ := List.mem_map.mp listed
      have columns : creation.columns.map CreatedColumn.name = table.columns.map Column.name :=
        (congrArg Heading.columns same).symm
      rw [columns]
      exact Dialect.tellsApart_iff (sound.tables_sound table table_member).names_nodup

namespace Staff

/-- The tables of roles and users are told apart, and so are the columns of each. -/
theorem roles_and_users_told_apart :
    ∃ statements creations, (registry .sqlite).compileAllCreations = .ok statements ∧
      statements.mapM (CompiledStatement.creation? .sqlite) = some creations ∧
      creations.map Creation.heading =
        [Heading.mk "roles" ["id", "label"],
          Heading.mk "users" ["seq", "lname", "alias", "role_id"]] ∧
      Dialect.sqlite.TellsApart (creations.map Creation.table) := by
  obtain ⟨-, -, statements, creations, compiled, read, headings, tables, -⟩ :=
    identifiers_confused_iff (registry_built .sqlite)
  exact ⟨statements, creations, compiled, read, headings, tables.mpr (by decide)⟩

/-- The users of former times. -/
def formerUser : RecordType := ⟨"FormerUser"⟩

/-- The declaration of the table of former users, whose name and columns look like others. -/
def formerUsers : TableDeclaration :=
  ⟨formerUser, "Users",
    [(ColumnDeclaration.of ⟨"n", ⟨.int32, false⟩⟩ .integer rfl).asPrimaryKey none rfl,
      ColumnDeclaration.of ⟨"N", ⟨.int32, false⟩⟩ .integer rfl],
    none, []⟩

/-- The registry of roles, users and former users. -/
def lookalikes : Registry :=
  ((declarations ++ [formerUsers]).foldl Draft.table (Draft.empty .sqlite)).registry

/-- The tables of users and of former users share one identifier up to the case of its letters, and
the statement that creates the latter lists such a column twice. -/
theorem former_users_confused :
    lookalikes.Built ∧
      (∃ first second, lookalikes.table? user = some first ∧
        lookalikes.table? formerUser = some second ∧ first.record ≠ second.record ∧
        SameIdentifier (Dialect.sqlite.identifier first.name.toList)
          (Dialect.sqlite.identifier second.name.toList) ∧
        ∃ column ∈ second.columns, ∃ other ∈ second.columns, column ≠ other ∧
          SameIdentifier (Dialect.sqlite.identifier column.name.toList)
            (Dialect.sqlite.identifier other.name.toList)) ∧
      lookalikes.compileCreation formerUser = .ok
        ⟨"CREATE TABLE IF NOT EXISTS Users (n INTEGER NOT NULL, N INTEGER NOT NULL, " ++
          "CONSTRAINT PK_Users PRIMARY KEY (n))", []⟩ := by
  refine ⟨⟨declarations ++ [formerUsers], rfl⟩, ⟨_, _, rfl, rfl, ?_⟩, rfl⟩
  decide

end Staff

end TableMapping
