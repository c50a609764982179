import TableMapping.Proofs.Agreement
import TableMapping.Proofs.Reading.Create
import TableMapping.Proofs.Schema.Valid
import TableMapping.Request.Creation

/-!
# Creations of the tables of a registry

The tables of a valid registry can all be created, in the order of their declaration: each statement
only refers to tables that the ones before it create.
-/

namespace TableMapping

/-! ## Names of columns -/

namespace Table

variable {registry : Registry} {table : Table}

theorem Sound.columnName_eq_ok (sound : table.Sound) {column : Column}
    (stored : column ∈ table.columns) :
    table.columnName column.property.name = .ok column.name := by
  have found : table.columnOf? column.property.name = some column :=
    find?_key_eq_some sound.properties_nodup stored
  rw [columnName, found]
  rfl

theorem mem_names_of_columnName {property name : String}
    (found : table.columnName property = .ok name) : name ∈ table.columns.map Column.name := by
  obtain ⟨column, listed, rfl⟩ := Option.map_eq_some_iff.mp (expect_eq_ok.mp found)
  exact List.mem_map_of_mem (List.mem_of_find?_eq_some listed)

/-- The properties of a key whose columns are all there have names in order. -/
theorem Sound.mapM_columnName (sound : table.Sound) {properties : List String}
    (present : properties ≠ [])
    (stored : ∀ property ∈ properties, ∃ column ∈ table.columns,
      column.property.name = property) :
    ∃ names, properties.mapM table.columnName = .ok names ∧ names ≠ [] ∧
      ∀ name ∈ names, name ∈ table.columns.map Column.name := by
  have goes : ∀ property ∈ properties, ∃ name, table.columnName property = .ok name := by
    intro property member
    obtain ⟨column, listed, rfl⟩ := stored property member
    exact ⟨column.name, sound.columnName_eq_ok listed⟩
  obtain ⟨names, mapped⟩ := exists_mapM_eq_ok goes
  obtain ⟨property, member⟩ := List.exists_mem_of_ne_nil properties present
  obtain ⟨name, listed, -⟩ := exists_result_of_mapM mapped member
  refine ⟨names, mapped, List.ne_nil_of_mem listed, fun name listed => ?_⟩
  obtain ⟨_, -, found⟩ := exists_of_mem_mapM mapped listed
  exact mem_names_of_columnName found

end Table

/-! ## Keys -/

/-- The name of a table with the names of its columns. -/
structure Heading where
  table : String
  columns : List String
deriving DecidableEq, Repr

/-- The names of a table and of its columns. -/
def Table.heading (table : Table) : Heading := ⟨table.name, table.columns.map Column.name⟩

/-- A foreign key refers to columns of one of the given tables. -/
def TableConstraint.RefersTo (headings : List Heading) : TableConstraint → Prop
  | primaryKey _ _ => True
  | foreignKey _ _ table references => ∃ heading ∈ headings, heading.table = table ∧
      ∀ reference ∈ references, reference ∈ heading.columns

namespace Table

variable {registry : Registry} {table : Table} {earlier : List Table}

theorem primaryKeyConstraint_of_valid (sound : table.Sound) {key : PrimaryKey}
    (valid : key.Valid table) :
    ∃ constraint, table.primaryKeyConstraint key = .ok constraint ∧ constraint.Filled ∧
      ∀ created, constraint.RefersTo created := by
  have stored : ∀ property ∈ key.columns, ∃ column ∈ table.columns,
      column.property.name = property := by
    intro property member
    obtain ⟨column, listed, same, -⟩ := valid.columns_required property member
    exact ⟨column, listed, same⟩
  obtain ⟨names, mapped, present, -⟩ := sound.mapM_columnName valid.columns_ne_nil stored
  refine ⟨.primaryKey (table.primaryKeyName key) names, ?_, present, fun _ => trivial⟩
  rw [primaryKeyConstraint, mapped]
  rfl

/-- A foreign key is written with the names of its columns and of those of an earlier table. -/
theorem foreignKeyConstraint_of_valid (valid : registry.Valid) (sound : table.Sound)
    (among : ∀ target ∈ earlier, target ∈ registry.tables) {key : ForeignKey}
    (key_valid : key.Valid table earlier) (numbered : List ForeignKey) :
    ∃ constraint, table.foreignKeyConstraint registry numbered key = .ok constraint ∧
      constraint.Filled ∧ constraint.RefersTo (earlier.map Table.heading) := by
  obtain ⟨target, target_earlier, target_record, paired⟩ := key_valid.refers
  have target_member := among target target_earlier
  have target_found : registry.table? key.target = some target := by
    rw [← target_record]
    exact valid.toSound.table?_record target_member
  have own : ∀ property ∈ key.columns, ∃ column ∈ table.columns,
      column.property.name = property := by
    intro property member
    obtain ⟨pair, listed, rfl⟩ := List.mem_map.mp member
    obtain ⟨column, stored, -, -, same, -⟩ := paired pair listed
    exact ⟨column, stored, same⟩
  have referred : ∀ property ∈ key.references, ∃ column ∈ target.columns,
      column.property.name = property := by
    intro property member
    obtain ⟨pair, listed, rfl⟩ := List.mem_map.mp member
    obtain ⟨-, -, column, stored, -, same, -⟩ := paired pair listed
    exact ⟨column, stored, same⟩
  have references_ne_nil : key.references ≠ [] := by
    intro absent
    have none : key.columns.length = 0 := by rw [key_valid.length_eq, absent, List.length_nil]
    exact key_valid.columns_ne_nil (List.eq_nil_of_length_eq_zero none)
  obtain ⟨columns, own_mapped, columns_ne_nil, -⟩ :=
    sound.mapM_columnName key_valid.columns_ne_nil own
  obtain ⟨references, mapped, present, named⟩ :=
    (valid.tables_sound target target_member).mapM_columnName references_ne_nil referred
  let number := 1 + numbered.countP fun other => other.target = key.target
  refine ⟨.foreignKey (table.foreignKeyName target key number) columns target.name references, ?_,
    ⟨columns_ne_nil, present⟩, target.heading, List.mem_map_of_mem target_earlier, rfl, named⟩
  simp [foreignKeyConstraint, target_found, own_mapped, mapped, number]

theorem foreignKeyConstraints_of_valid (valid : registry.Valid) (sound : table.Sound)
    (among : ∀ target ∈ earlier, target ∈ registry.tables) {keys : List ForeignKey}
    (keys_valid : ∀ key ∈ keys, key.Valid table earlier) (numbered : List ForeignKey) :
    ∃ constraints, table.foreignKeyConstraints registry numbered keys = .ok constraints ∧
      ∀ constraint ∈ constraints, constraint.Filled ∧
        constraint.RefersTo (earlier.map Table.heading) := by
  induction keys generalizing numbered with
  | nil => exact ⟨[], rfl, nofun⟩
  | cons key keys ih =>
      obtain ⟨constraint, found, own⟩ := foreignKeyConstraint_of_valid valid sound among
        (keys_valid key List.mem_cons_self) numbered
      obtain ⟨constraints, later, others⟩ :=
        ih (fun other member => keys_valid other (List.mem_cons_of_mem key member))
          (numbered ++ [key])
      refine ⟨constraint :: constraints, ?_, List.forall_mem_cons.mpr ⟨own, others⟩⟩
      simp [foreignKeyConstraints, found, later]

end Table

/-! ## Keys that are written -/

/-- A primary key of a table is written with its name and the names of its columns. -/
def PrimaryKey.WrittenAs (table : Table) (key : PrimaryKey) (constraint : TableConstraint) : Prop :=
  ∃ columns, key.columns.mapM table.columnName = .ok columns ∧
    constraint = .primaryKey (table.primaryKeyName key) columns

/-- A foreign key of a table is written with a name of its own and the names of its columns, and
with the names of its target and of the columns there that it refers to. -/
def ForeignKey.WrittenAs (registry : Registry) (table : Table) (key : ForeignKey)
    (constraint : TableConstraint) : Prop :=
  ∃ target number columns references, registry.table? key.target = some target ∧
    key.columns.mapM table.columnName = .ok columns ∧
    key.references.mapM target.columnName = .ok references ∧
    constraint = .foreignKey (table.foreignKeyName target key number) columns target.name references

/-- The constraints are the keys of the table, one for each: the primary key, if there is one, and
behind it the foreign keys in their order. -/
def Table.KeysWritten (registry : Registry) (table : Table) (constraints : List TableConstraint) :
    Prop :=
  ∃ primary foreign, constraints = primary ++ foreign ∧
    List.Forall₂ (PrimaryKey.WrittenAs table) table.primaryKey.toList primary ∧
    List.Forall₂ (ForeignKey.WrittenAs registry table) table.foreignKeys foreign

namespace Table

variable {registry : Registry} {table : Table}

theorem writtenAs_of_primaryKeyConstraint {key : PrimaryKey} {constraint : TableConstraint}
    (found : table.primaryKeyConstraint key = .ok constraint) : key.WrittenAs table constraint := by
  simp only [primaryKeyConstraint, bind_eq_ok, pure_eq_ok] at found
  obtain ⟨columns, mapped, rfl⟩ := found
  exact ⟨columns, mapped, rfl⟩

theorem writtenAs_of_foreignKeyConstraints {earlier keys : List ForeignKey}
    {constraints : List TableConstraint}
    (found : table.foreignKeyConstraints registry earlier keys = .ok constraints) :
    List.Forall₂ (ForeignKey.WrittenAs registry table) keys constraints := by
  induction keys generalizing earlier constraints with
  | nil =>
      obtain rfl := Except.ok.inj found
      exact .nil
  | cons key keys ih =>
      simp only [foreignKeyConstraints, foreignKeyConstraint, bind_eq_ok, pure_eq_ok,
        expect_eq_ok] at found
      obtain ⟨_, ⟨target, mapped, columns, own, references, named, rfl⟩, rest, later, rfl⟩ := found
      exact .cons ⟨target, _, columns, references, mapped, own, named, rfl⟩ (ih later)

theorem keysWritten_of_tree {create : CreateTable} (found : table.tree registry = .ok create) :
    table.KeysWritten registry create.constraints := by
  simp only [tree, bind_eq_ok, pure_eq_ok] at found
  obtain ⟨primary, primary_found, foreign, foreign_found, rfl⟩ := found
  exact ⟨primary, foreign, rfl,
    forall₂_of_mapM (fun _ _ => writtenAs_of_primaryKeyConstraint) primary_found,
    writtenAs_of_foreignKeyConstraints foreign_found⟩

end Table

/-! ## Tables -/

/-- The names of the table that is created and of its columns. -/
def CreateTable.heading (create : CreateTable) : Heading :=
  ⟨create.table, create.columns.map ColumnDefinition.name⟩

/-- The creation of a table has all parts that its text needs, columns of types that the dialect
has, and keys that refer to the given tables only. -/
structure CreateTable.Creates (dialect : Dialect) (earlier : List Table) (table : Table)
    (create : CreateTable) : Prop where
  heading_eq : create.heading = table.heading
  filled : create.Filled
  types_supported : ∀ column ∈ create.columns, dialect.supports column.type = true
  refers : ∀ constraint ∈ create.constraints, constraint.RefersTo (earlier.map Table.heading)

theorem CreateTable.Creates.fault?_eq_none {dialect : Dialect} {earlier : List Table}
    {table : Table} {create : CreateTable} (creates : create.Creates dialect earlier table) :
    create.fault? dialect = none := by
  refine List.findSome?_eq_none_iff.mpr fun column member => ?_
  rw [if_pos (creates.types_supported column member)]

namespace Registry

variable {registry : Registry} {earlier later : List Table} {table : Table}

/-- The creation of a table of a valid registry refers to tables before it. -/
theorem Valid.tree_eq_ok (valid : registry.Valid)
    (split : registry.tables = earlier ++ table :: later) :
    ∃ create, table.tree registry = .ok create ∧
      create.Creates registry.dialect earlier table := by
  have member : table ∈ registry.tables := by simp [split]
  have among : ∀ target ∈ earlier, target ∈ registry.tables := by
    intro target listed
    rw [split]
    exact List.mem_append_left _ listed
  have table_valid := valid.tables_valid table member
  have sound := table_valid.toSound
  have primary_goes : ∀ key ∈ table.primaryKey.toList, ∃ constraint,
      table.primaryKeyConstraint key = .ok constraint := by
    intro key is_key
    obtain ⟨constraint, found, -⟩ := Table.primaryKeyConstraint_of_valid sound
      (table_valid.primaryKey_valid key (by simpa using is_key))
    exact ⟨constraint, found⟩
  obtain ⟨primary, primary_found⟩ := exists_mapM_eq_ok primary_goes
  obtain ⟨foreign, foreign_found, foreign_fine⟩ := Table.foreignKeyConstraints_of_valid valid sound
    among (valid.foreignKeys_valid earlier table later split) []
  have constraints_fine : ∀ constraint ∈ primary ++ foreign, constraint.Filled ∧
      constraint.RefersTo (earlier.map Table.heading) := by
    intro constraint listed
    rcases List.mem_append.mp listed with is_primary | is_foreign
    · obtain ⟨key, is_key, found⟩ := exists_of_mem_mapM primary_found is_primary
      obtain ⟨other, other_found, filled, refers⟩ := Table.primaryKeyConstraint_of_valid sound
        (table_valid.primaryKey_valid key (by simpa using is_key))
      obtain rfl := Except.ok.inj (other_found.symm.trans found)
      exact ⟨filled, refers _⟩
    · exact foreign_fine constraint is_foreign
  refine ⟨⟨table.name, table.columns.map fun column => ⟨column.name, column.type, column.nullable⟩,
    primary ++ foreign⟩, ?_, ?_, ⟨?_, ?_⟩, ?_, ?_⟩
  · simp [Table.tree, primary_found, foreign_found]
  · simp [CreateTable.heading, Table.heading, Function.comp_def]
  · simpa using sound.columns_ne_nil
  · exact fun constraint listed => (constraints_fine constraint listed).1
  · intro column listed
    obtain ⟨stored, stored_member, rfl⟩ := List.mem_map.mp listed
    exact table_valid.types_supported stored stored_member
  · exact fun constraint listed => (constraints_fine constraint listed).2

end Registry

/-! ## Statements -/

namespace Creation

/-- The names of the table that is created and of its columns. -/
def heading (creation : Creation) : Heading :=
  ⟨creation.table, creation.columns.map CreatedColumn.name⟩

/-- Each of the creations refers only to the given tables and to those that the creations before it
create. -/
def InOrder : List Heading → List Creation → Prop
  | _, [] => True
  | earlier, creation :: rest =>
      (∀ constraint ∈ creation.constraints, constraint.RefersTo earlier) ∧
        InOrder (earlier ++ [creation.heading]) rest

end Creation

theorem CreateTable.heading_reading (dialect : Dialect) (create : CreateTable) :
    (create.reading dialect).heading = create.heading := by
  simp [reading, Creation.heading, heading, ColumnDefinition.reading, Function.comp_def]

namespace Registry

variable {registry : Registry}

theorem Sound.compileCreation_record (sound : registry.Sound) {table : Table}
    (member : table ∈ registry.tables) :
    registry.compileCreation table.record = table.compileCreation registry := by
  rw [compileCreation, requested, sound.table?_record member]
  rfl

/-- The creation of a table of a valid registry is written, and is read from its text. -/
theorem Valid.compileCreation_eq_ok (valid : registry.Valid) {earlier later : List Table}
    {table : Table} (split : registry.tables = earlier ++ table :: later) :
    ∃ create statement, table.tree registry = .ok create ∧
      create.Creates registry.dialect earlier table ∧
      table.compileCreation registry = .ok statement ∧
      statement.creation? registry.dialect = some (create.reading registry.dialect) := by
  obtain ⟨create, found, creates⟩ := valid.tree_eq_ok split
  have written : (Statement.createTable create).compile registry.dialect =
      .ok (CompiledStatement.ofTokens registry.dialect (create.tokens registry.dialect)) :=
    Statement.compile_eq_ok.mpr ⟨creates.fault?_eq_none, rfl⟩
  refine ⟨create, _, found, creates, ?_, Creation.creation?_compile creates.filled written⟩
  rw [Table.compileCreation, found]
  exact mapError_eq_ok.mpr written

/-- The statements that create the last tables of a valid registry are written with the keys of the
tables, and refer to tables that are created before. -/
theorem Valid.mapM_compileCreation (valid : registry.Valid) {earlier tables : List Table}
    (split : registry.tables = earlier ++ tables) :
    ∃ statements creations, tables.mapM (Table.compileCreation registry) = .ok statements ∧
      statements.mapM (CompiledStatement.creation? registry.dialect) = some creations ∧
      creations.map Creation.heading = tables.map Table.heading ∧
      List.Forall₂ (fun table creation => Table.KeysWritten registry table creation.constraints)
        tables creations ∧
      Creation.InOrder (earlier.map Table.heading) creations := by
  -- From one table to the next, the table moves to those that are created.
  induction tables generalizing earlier with
  | nil => exact ⟨[], [], rfl, rfl, rfl, .nil, trivial⟩
  | cons table tables ih =>
      obtain ⟨create, statement, found, creates, compiled, own⟩ :=
        valid.compileCreation_eq_ok split
      have moved : registry.tables = (earlier ++ [table]) ++ tables := by simp [split]
      obtain ⟨statements, creations, later, read, headings, keys, in_order⟩ := ih moved
      have heading : (create.reading registry.dialect).heading = table.heading := by
        rw [create.heading_reading, creates.heading_eq]
      refine ⟨statement :: statements, create.reading registry.dialect :: creations,
        mapM_cons_eq_ok.mpr ⟨_, _, compiled, later, rfl⟩, ?_, ?_,
        .cons (Table.keysWritten_of_tree found) keys, creates.refers, ?_⟩
      · rw [List.mapM_cons, own, read]
        rfl
      · rw [List.map_cons, List.map_cons, heading, headings]
      · rw [heading]
        simpa using in_order

end Registry

end TableMapping
