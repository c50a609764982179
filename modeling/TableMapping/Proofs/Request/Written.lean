import TableMapping.Proofs.Request.Creation
import TableMapping.Proofs.Request.Insertion
import TableMapping.Proofs.Request.Refusal
import TableMapping.Proofs.Request.WellScoped

/-!
# Statements that can be written

The statements that requests against a valid registry have written are without empty parts, so that
nothing but a comparison with the absent value keeps one of them from having a text. The creations
have one, and each refers to tables that are created before.
-/

namespace TableMapping

/-! ## Statements without empty parts -/

theorem Condition.exists_of_fault?_eq_some {condition : Condition} {fault : StatementFault}
    (found : condition.fault? = some fault) : ∃ column, fault = .nullComparison column := by
  rw [fault?_eq_findSome?] at found
  obtain ⟨atom, -, faulty⟩ := List.exists_of_findSome?_eq_some found
  obtain ⟨column, comparison, rfl, rfl⟩ := Atom.fault?_eq_some_iff.mp faulty
  exact ⟨column, rfl⟩

namespace Statement

/-- The statement is without empty parts and has no type that the dialect lacks. -/
def Sound (dialect : Dialect) (statement : Statement) : Prop :=
  statement.Filled ∧
    ∀ create, statement = .createTable create → create.fault? dialect = none

/-- The only fault of a statement without empty parts is a comparison with the absent value. -/
theorem Sound.exists_of_fault?_eq_some {dialect : Dialect} {statement : Statement}
    (sound : statement.Sound dialect) {fault : StatementFault}
    (found : statement.fault? dialect = some fault) : ∃ column, fault = .nullComparison column := by
  have filtered {filter : Option Condition} (found : Condition.filterFault? filter = some fault) :
      ∃ column, fault = .nullComparison column := by
    obtain ⟨condition, -, faulty⟩ := Option.bind_eq_some_iff.mp found
    exact Condition.exists_of_fault?_eq_some faulty
  obtain ⟨filled, supported⟩ := sound
  cases statement with
  | createTable tree =>
      rw [fault?, supported tree rfl] at found
      cases found
  | insert tree =>
      rw [fault?, Insert.Filled.fault?_eq_none filled] at found
      cases found
  | select tree =>
      rw [fault?, if_neg filled.1] at found
      exact filtered found
  | update tree =>
      rw [fault?, if_neg filled.1] at found
      exact filtered found
  | delete tree => exact filtered found

end Statement

/-! ## Insertions -/

namespace RowGroup

variable {table : Table}

theorem filled_alone (row : InsertedRow) :
    (insert table ⟨row.columns, [row.values]⟩).Filled := by
  refine ⟨List.cons_ne_nil _ _, fun no_columns => ?_, fun values member => ?_⟩
  · obtain rfl : row = [] := by simpa [insert, InsertedRow.columns] using no_columns
    rfl
  · obtain rfl := List.mem_singleton.mp member
    simp [insert, InsertedRow.values, InsertedRow.columns]

theorem filled_add (row : InsertedRow) {groups : List RowGroup}
    (filled : ∀ group ∈ groups, (group.insert table).Filled) :
    ∀ group ∈ add row groups, (group.insert table).Filled := by
  cases groups with
  | nil => simpa [add] using filled_alone row
  | cons first rest =>
      obtain ⟨first_filled, rest_filled⟩ := List.forall_mem_cons.mp filled
      rw [add]
      split
      · rename_i joins
        refine List.forall_mem_cons.mpr ⟨⟨List.cons_ne_nil _ _, ?_, ?_⟩, rest_filled⟩
        · intro no_columns
          exact absurd (joins.1.trans (List.map_eq_nil_iff.mp no_columns)) joins.2
        · refine List.forall_mem_cons.mpr ⟨?_, first_filled.lengths_eq⟩
          simp [insert, ← joins.1, InsertedRow.values, InsertedRow.columns]
      · exact List.forall_mem_cons.mpr ⟨filled_alone row, filled⟩

theorem filled_collect (rows : List InsertedRow) :
    ∀ group ∈ collect rows, (group.insert table).Filled := by
  induction rows with
  | nil => nofun
  | cons row rows ih => exact filled_add row ih

end RowGroup

/-- A record with a missing value is the only one that is refused. -/
theorem Table.exists_of_insertedRows_eq_error {table : Table} {number : Nat}
    {records : List Record} {error : Error}
    (refused : table.insertedRows number records = .error error) :
    ∃ row column, error = .validation (.missingValue row column) := by
  have single {number : Nat} {record : Record} {columns : List Column}
      (refused : table.insertedRow number record columns = .error error) :
      ∃ row column, error = .validation (.missingValue row column) := by
    induction columns with
    | nil => cases refused
    | cons column columns ih =>
        rw [insertedRow] at refused
        split at refused
        · exact ih refused
        rcases bind_eq_error.mp refused with missing | ⟨_, -, refused⟩
        · obtain ⟨-, rfl⟩ := ensure_eq_error.mp missing
          exact ⟨number, table.reference column, rfl⟩
        exact ih (bind_pure_eq_error.mp refused)
  induction records generalizing number with
  | nil => cases refused
  | cons record records ih =>
      rw [insertedRows] at refused
      rcases bind_eq_error.mp refused with own | ⟨_, -, refused⟩
      · exact single own
      exact ih (bind_pure_eq_error.mp refused)

namespace Insertion

variable {registry : Registry} {insertion : Insertion}

theorem filled_of_trees {inserts : List Insert} (found : insertion.trees registry = .ok inserts) :
    ∀ insert ∈ inserts, insert.Filled := by
  simp only [trees, bind_eq_ok, pure_eq_ok] at found
  obtain ⟨table, -, -, -, rows, -, rfl⟩ := found
  intro insert member
  obtain ⟨group, listed, rfl⟩ := List.mem_map.mp member
  exact RowGroup.filled_collect rows group listed

/-- An insertion is refused before its statements are written, if at all. -/
theorem compile_ne_statement (fault : StatementFault) :
    insertion.compile registry ≠ .error (.validation (.statement fault)) := by
  intro refused
  rw [compile] at refused
  rcases bind_eq_error.mp refused with no_trees | ⟨inserts, found, unwritten⟩
  · rw [trees] at no_trees
    rcases bind_eq_error.mp no_trees with unmapped | ⟨table, -, no_trees⟩
    · cases (expect_eq_error.mp unmapped).2
    rcases bind_eq_error.mp no_trees with empty | ⟨_, -, no_trees⟩
    · cases (ensure_eq_error.mp empty).2
    obtain ⟨_, _, impossible⟩ :=
      Table.exists_of_insertedRows_eq_error (bind_pure_eq_error.mp no_trees)
    cases impossible
  · obtain ⟨insert, member, stops⟩ := exists_of_mapM_eq_error unwritten
    have no_fault : (Statement.insert insert).fault? registry.dialect = none :=
      (filled_of_trees found insert member).fault?_eq_none
    rw [Statement.write, Statement.compile, no_fault] at stops
    cases stops

end Insertion

/-! ## Requests about rows -/

namespace RowRequest

/-- The requests that can be made: an update assigns a property at least. -/
inductive Runnable : RowRequest → Prop
  | select : Runnable .select
  | update (property : String) (value : SqlValue) (assignments : Assignments) :
      Runnable (.update (assignments.set property value))
  | delete : Runnable .delete

end RowRequest

theorem Assignments.set_ne_nil (property : String) (value : SqlValue)
    (assignments : Assignments) : assignments.set property value ≠ [] := by
  cases assignments with
  | nil => exact List.cons_ne_nil _ _
  | cons first rest =>
      rw [set]
      split <;> exact List.cons_ne_nil _ _

theorem Join.AllScoped.filled {registry : Registry} {before tables : List Table}
    {joins : List Join} (all_scoped : AllScoped registry before tables joins) :
    AllFilled joins := by
  induction all_scoped with
  | nil => nofun
  | cons first _ ih => exact List.forall_mem_cons.mpr ⟨first.on_ne_nil, ih⟩

namespace RowRequest

variable {registry : Registry} {source : Source} {request : RowRequest} {statement : Statement}

theorem filled_of_statement (valid : registry.Valid) (runnable : request.Runnable)
    (found : request.statement registry source = .ok statement) : statement.Filled := by
  obtain ⟨resolved, assigned, resolves, assigns, rfl⟩ := statement_eq_ok.mp found
  have sound := Source.sound_of_resolve valid resolves
  have joins_filled := sound.joins_scoped.filled
  cases runnable with
  | select =>
      have root_member := (Registry.table?_eq_some sound.root_found).1
      exact ⟨Selection.columns_query_ne_nil valid.toSound root_member, joins_filled⟩
  | update property value assignments =>
      refine ⟨?_, joins_filled⟩
      obtain ⟨entry, listed⟩ :=
        List.exists_mem_of_ne_nil _ (assignments.set_ne_nil property value)
      obtain ⟨result, member, -⟩ := exists_result_of_mapM assigns listed
      exact List.ne_nil_of_mem member
  | delete => exact joins_filled

end RowRequest

/-! ## All requests -/

namespace Registry

/-- The statements that requests have written. -/
inductive Writes (registry : Registry) : Statement → Prop
  | creation {table : Table} {create : CreateTable} (member : table ∈ registry.tables)
      (found : table.tree registry = .ok create) : Writes registry (.createTable create)
  | insertion {insertion : Insertion} {inserts : List Insert} {insert : Insert}
      (found : insertion.trees registry = .ok inserts) (member : insert ∈ inserts) :
      Writes registry (.insert insert)
  | rows {request : RowRequest} {source : Source} {statement : Statement}
      (runnable : request.Runnable)
      (found : request.statement registry source = .ok statement) : Writes registry statement

variable {registry : Registry}

theorem Valid.sound_of_writes (valid : registry.Valid) {statement : Statement}
    (writes : registry.Writes statement) : statement.Sound registry.dialect := by
  cases writes with
  | @creation table create member found =>
      obtain ⟨earlier, later, split⟩ := List.append_of_mem member
      obtain ⟨tree, tree_found, creates⟩ := valid.tree_eq_ok split
      obtain rfl := Except.ok.inj (tree_found.symm.trans found)
      refine ⟨creates.filled, fun create same => ?_⟩
      obtain rfl := Statement.createTable.inj same
      exact creates.fault?_eq_none
  | insertion found member => exact ⟨Insertion.filled_of_trees found _ member, nofun⟩
  | @rows request source statement runnable found =>
      refine ⟨RowRequest.filled_of_statement valid runnable found, fun create same => ?_⟩
      obtain ⟨resolved, assigned, -, -, rfl⟩ := RowRequest.statement_eq_ok.mp found
      cases request <;> cases same

theorem Valid.compile_null_comparison (valid : registry.Valid) {table : Table}
    (member : table ∈ registry.tables) {column : Column} (stored : column ∈ table.columns)
    (comparison : Comparison) :
    RowRequest.delete.compile registry ((Source.all table.record).filtered
        (Predicate.compare (table.key column.property.name) comparison .null)) =
      .error (.validation (.statement (.nullComparison (table.reference column)))) := by
  let source := (Source.all table.record).filtered
    (Predicate.compare (table.key column.property.name) comparison .null)
  have in_scope : Scope.ofSource registry source = .ok ⟨table, []⟩ :=
    Scope.ofSource_eq_ok.mpr ⟨table, valid.toSound.table?_record member, rfl⟩
  have named : Scope.reference ⟨table, []⟩ (table.key column.property.name) =
      .ok (table.reference column) :=
    ((Scope.sound_of_ofSource valid in_scope).reference_eq_ok valid.toSound).mpr
      ⟨table, List.mem_cons_self, column, stored, rfl, rfl⟩
  have filtered : Scope.filter ⟨table, []⟩ source.filter =
      .ok (some (.atom (.test (.compare (table.reference column) comparison .null)))) := by
    refine Scope.filter_some_eq_ok.mpr ⟨_, ?_, rfl⟩
    simp [Predicate.compare, Formula.traverse, Scope.atom, named]
  have resolved : source.resolve registry = .ok ⟨⟨table, []⟩, [], _⟩ :=
    Source.resolve_eq_ok.mpr ⟨in_scope, filtered, rfl⟩
  have asked : RowRequest.delete.statement registry source = .ok _ :=
    RowRequest.statement_eq_ok.mpr ⟨_, [], resolved, rfl, rfl⟩
  rw [RowRequest.compile_eq, asked]
  rfl

end Registry

/-- The tables of a built registry can be created, one statement for each in the order of their
declaration. The keys in the text of a statement are those of its table, and every foreign key
refers to columns of a table that is created before. Every statement that a request has written is
without empty parts, so that only a comparison with the absent value keeps it from having a text, as
it does for every column. -/
theorem built_registry_writes {registry : Registry} (built : registry.Built) :
    (∃ statements creations, registry.compileAllCreations = .ok statements ∧
      registry.tables.mapM (fun table => registry.compileCreation table.record) =
        .ok statements ∧
      statements.mapM (CompiledStatement.creation? registry.dialect) = some creations ∧
      creations.map Creation.heading = registry.tables.map Table.heading ∧
      List.Forall₂ (fun table creation => Table.KeysWritten registry table creation.constraints)
        registry.tables creations ∧
      Creation.InOrder [] creations) ∧
      (∀ statement, registry.Writes statement → statement.Filled ∧
        ∀ fault, statement.fault? registry.dialect = some fault →
          ∃ column, fault = .nullComparison column) ∧
      (∀ (insertion : Insertion) (fault : StatementFault),
        insertion.compile registry ≠ .error (.validation (.statement fault))) ∧
      (∀ (request : RowRequest) (source : Source) (fault : StatementFault), request.Runnable →
        request.compile registry source = .error (.validation (.statement fault)) →
          ∃ column, fault = .nullComparison column) ∧
      ∀ table ∈ registry.tables, ∀ column ∈ table.columns, ∀ comparison,
        RowRequest.delete.compile registry ((Source.all table.record).filtered
            (Predicate.compare (table.key column.property.name) comparison .null)) =
          .error (.validation (.statement (.nullComparison (table.reference column)))) := by
  have valid := built.valid
  refine ⟨?_, fun statement writes => ?_, fun insertion => insertion.compile_ne_statement,
    fun request source fault runnable refused => ?_,
    fun table member column stored => valid.compile_null_comparison member stored⟩
  · obtain ⟨statements, creations, compiled, read, headings, keys, in_order⟩ :=
      valid.mapM_compileCreation (List.nil_append registry.tables).symm
    refine ⟨statements, creations, compiled, ?_, read, headings, keys, in_order⟩
    rw [← compiled]
    refine mapM_congr_of_mem fun table member => ?_
    rw [Registry.compileCreation, Registry.requested, valid.toSound.table?_record member]
    rfl
  · have sound := valid.sound_of_writes writes
    exact ⟨sound.1, fun fault found => sound.exists_of_fault?_eq_some found⟩
  · obtain ⟨statement, asked, found⟩ := RowRequest.statement_of_compile_eq_error refused
    exact (valid.sound_of_writes (.rows runnable asked)).exists_of_fault?_eq_some found

/-! ## Tables that keys refer to -/

/-- The name of the table that a foreign key refers to, with those of its columns there. -/
def TableConstraint.referred? : TableConstraint → Option (String × List String)
  | primaryKey _ _ => none
  | foreignKey _ _ table references => some (table, references)

/-- What a foreign key of a registry is to refer to. -/
def ForeignKey.referred? (registry : Registry) (key : ForeignKey) :
    Option (String × List String) := do
  let target ← registry.table? key.target
  let references ← (key.references.mapM target.columnName).toOption
  return (target.name, references)

/-- The keys of a table are written with what they are to refer to. -/
theorem Table.KeysWritten.map_referred? {registry : Registry} {table : Table}
    {constraints : List TableConstraint} (written : table.KeysWritten registry constraints) :
    constraints.map TableConstraint.referred? =
      table.primaryKey.toList.map (fun _ => none) ++
        table.foreignKeys.map (ForeignKey.referred? registry) := by
  obtain ⟨primary, foreign, rfl, primary_written, foreign_written⟩ := written
  have primary_eq : primary.map TableConstraint.referred? =
      table.primaryKey.toList.map fun _ => none := by
    refine (forall₂_map_eq_iff.mp (primary_written.imp ?_)).symm
    rintro key _ ⟨columns, -, rfl⟩
    rfl
  have foreign_eq : foreign.map TableConstraint.referred? =
      table.foreignKeys.map (ForeignKey.referred? registry) := by
    refine (forall₂_map_eq_iff.mp (foreign_written.imp ?_)).symm
    rintro key _ ⟨target, number, columns, references, found, -, named, rfl⟩
    rw [ForeignKey.referred?, found, Option.bind_eq_bind, Option.bind_some, named]
    rfl
  rw [List.map_append, primary_eq, foreign_eq]

namespace Staff

/-- The tables of roles, users, duties and reports can be created in this order, with the foreign
keys from users to roles, from duties to users and roles, and from reports to duties. A role whose
number is compared with the absent value is refused for that alone. -/
theorem rota_writes :
    ∃ statements creations, (rota .postgresql).compileAllCreations = .ok statements ∧
      statements.mapM (CompiledStatement.creation? .postgresql) = some creations ∧
      creations.map Creation.heading =
        [⟨"roles", ["id", "label"]⟩, ⟨"users", ["seq", "lname", "alias", "role_id"]⟩,
          ⟨"duties", ["user", "role"]⟩, ⟨"reports", ["id", "on_user", "on_role"]⟩] ∧
      (creations.map fun creation => creation.constraints.map TableConstraint.referred?) =
        [[none], [none, some ("roles", ["id"])],
          [none, some ("users", ["seq"]), some ("roles", ["id"])],
          [none, some ("duties", ["role", "user"])]] ∧
      Creation.InOrder [] creations ∧
      ∃ fault, RowRequest.delete.compile (rota .postgresql) ((Source.all role).filtered
          (Predicate.compare ⟨role, "id"⟩ .lt .null)) =
            .error (.validation (.statement fault)) ∧
        ∃ column, fault = .nullComparison column := by
  obtain ⟨⟨statements, creations, compiled, -, read, headings, keys, in_order⟩, -, -, refusals,
    -⟩ := built_registry_writes (rota_built .postgresql)
  have references : (creations.map fun creation =>
      creation.constraints.map TableConstraint.referred?) =
      (rota .postgresql).tables.map fun table => table.primaryKey.toList.map (fun _ => none) ++
        table.foreignKeys.map (ForeignKey.referred? (rota .postgresql)) := by
    exact (forall₂_map_eq_iff.mp (keys.imp fun _ _ written => written.map_referred?.symm)).symm
  have refused : RowRequest.delete.compile (rota .postgresql) ((Source.all role).filtered
      (Predicate.compare ⟨role, "id"⟩ .lt .null)) =
        .error (.validation (.statement (.nullComparison ⟨"roles", "id"⟩))) := rfl
  exact ⟨statements, creations, compiled, read, headings, references, in_order, _, refused,
    refusals .delete _ _ .delete refused⟩

end Staff

end TableMapping
