import Mathlib.Data.List.Chain
import TableMapping.Proofs.Request.Written

/-!
# Records that are inserted together

Records that are inserted together are inserted as they would be one by one. The statements give the
rows of the records in order, and each statement takes as many of them as it can: two neighbours
never list the same columns, unless they list none. If a record lacks a value, the first such record
is reported with the first column that it lacks a value for.
-/

namespace TableMapping

/-! ## Missing values -/

namespace Record

/-- The record has no value for a column that must have one and that the database does not
number. -/
def Lacks (record : Record) (column : Column) : Prop :=
  record column.property.name = .null ∧ column.nullable = false ∧ column.type ≠ .serial

instance (record : Record) (column : Column) : Decidable (record.Lacks column) :=
  inferInstanceAs (Decidable (_ ∧ _))

/-- The first of the columns that the record lacks a value for. -/
def firstLack? (record : Record) (columns : List Column) : Option Column :=
  columns.find? fun column => record.Lacks column

theorem firstLack?_of_lacks {record : Record} {column : Column} (lacks : record.Lacks column)
    (rest : List Column) : record.firstLack? (column :: rest) = some column :=
  List.find?_cons_of_pos (decide_eq_true lacks)

theorem firstLack?_of_not_lacks {record : Record} {column : Column}
    (fine : ¬record.Lacks column) (rest : List Column) :
    record.firstLack? (column :: rest) = record.firstLack? rest :=
  List.find?_cons_of_neg (mt of_decide_eq_true fine)

theorem not_lacks_of_leftOut {record : Record} {column : Column}
    (left_out : column.LeftOut record) : ¬record.Lacks column :=
  fun lacks => lacks.2.2 left_out.2

theorem lacks_iff {record : Record} {column : Column} (kept : ¬column.LeftOut record) :
    record.Lacks column ↔ ¬(record column.property.name = .null → column.nullable = true) := by
  constructor
  · rintro ⟨absent, required, -⟩ allowed
    rw [allowed absent] at required
    cases required
  · intro refused
    obtain ⟨absent, required⟩ := Classical.not_imp.mp refused
    exact ⟨absent, by simpa using required, fun serial => kept ⟨absent, serial⟩⟩

theorem complete_iff {record : Record} {columns : List Column} :
    record.Complete columns ↔ ∀ column ∈ columns, ¬record.Lacks column := by
  refine forall₂_congr fun column _ => ?_
  by_cases left_out : column.LeftOut record
  · simp [not_lacks_of_leftOut left_out, left_out]
  · simp [lacks_iff left_out, left_out]

end Record

namespace Table

variable {table : Table} {number : Nat} {error : Error}

/-- A record is refused for the first of the columns that it lacks a value for. -/
theorem insertedRow_eq_error {record : Record} {columns : List Column} :
    table.insertedRow number record columns = .error error ↔
      ∃ column, record.firstLack? columns = some column ∧
        error = .validation (.missingValue number (table.reference column)) := by
  induction columns with
  | nil => simp [insertedRow, Record.firstLack?]
  | cons column rest ih =>
      by_cases left_out : column.LeftOut record
      · have skipped : table.insertedRow number record (column :: rest) =
            table.insertedRow number record rest := if_pos left_out
        rw [skipped, ih, Record.firstLack?_of_not_lacks (Record.not_lacks_of_leftOut left_out)]
      · have kept : table.insertedRow number record (column :: rest) = (do
            ensure (record column.property.name = .null → column.nullable = true)
              (Error.validation (.missingValue number (table.reference column)))
            return (column, record column.property.name) ::
              (← table.insertedRow number record rest)) := if_neg left_out
        rw [kept, bind_eq_error, ensure_eq_error, ← Record.lacks_iff left_out]
        by_cases lacks : record.Lacks column
        · have refused := (Record.lacks_iff left_out).mp lacks
          simp only [Record.firstLack?_of_lacks lacks, lacks, true_and, ensure_eq_ok, refused,
            false_and, exists_false, or_false, Option.some.injEq, exists_eq_left']
          exact eq_comm
        · have allowed := not_not.mp (mt (Record.lacks_iff left_out).mpr lacks)
          rw [Record.firstLack?_of_not_lacks lacks, ← ih]
          simp only [lacks, false_and, false_or, ensure_eq_ok, bind_eq_error, pure, Except.pure,
            reduceCtorEq, and_false, exists_false, or_false]
          constructor
          · rintro ⟨-, -, later⟩
            exact later
          · exact fun later => ⟨(), allowed, later⟩

/-- Records are refused for the first of them that lacks a value. -/
theorem insertedRows_eq_error {records : List Record} :
    table.insertedRows number records = .error error ↔
      ∃ before record after column, records = before ++ record :: after ∧
        (∀ earlier ∈ before, earlier.Complete table.columns) ∧
        record.firstLack? table.columns = some column ∧
        error = .validation
          (.missingValue (number + before.length) (table.reference column)) := by
  induction records generalizing number with
  | nil => simp [insertedRows]
  | cons record rest ih =>
      simp only [insertedRows, bind_eq_error, insertedRow_eq_error, insertedRow_eq_ok, ih]
      constructor
      · rintro (⟨column, lacks, rfl⟩ | ⟨row, ⟨complete, -⟩, later | ⟨_, -, impossible⟩⟩)
        · exact ⟨[], record, rest, column, rfl, List.forall_mem_nil _, lacks, rfl⟩
        · obtain ⟨before, failing, after, column, rfl, earlier, lacks, rfl⟩ := later
          refine ⟨record :: before, failing, after, column, rfl,
            List.forall_mem_cons.mpr ⟨complete, earlier⟩, lacks, ?_⟩
          rw [List.length_cons, Nat.add_assoc, Nat.add_comm 1]
        · cases impossible
      · rintro ⟨before, failing, after, column, split, complete, lacks, rfl⟩
        cases before with
        | nil =>
            obtain ⟨rfl, rfl⟩ := List.cons.inj split
            exact Or.inl ⟨column, lacks, rfl⟩
        | cons first before =>
            obtain ⟨rfl, rfl⟩ := List.cons.inj split
            obtain ⟨own, others⟩ := List.forall_mem_cons.mp complete
            refine Or.inr ⟨_, ⟨own, rfl⟩,
              Or.inl ⟨before, failing, after, column, rfl, others, lacks, ?_⟩⟩
            rw [List.length_cons, Nat.add_assoc, Nat.add_comm 1]

end Table

/-! ## Neighbouring groups -/

/-- Rows of the one list of columns are not inserted by the statement that inserts those of the
other list: the lists differ, or there are no columns. -/
def Apart {α : Type} (first second : List α) : Prop :=
  first ≠ second ∨ first = [] ∧ second = []

namespace RowGroup

/-- A row is only kept from the group behind it if the two do not go together. -/
theorem isChain_add (row : InsertedRow) {groups : List RowGroup}
    (apart : groups.IsChain fun first second => Apart first.columns second.columns) :
    (add row groups).IsChain fun first second => Apart first.columns second.columns := by
  cases groups with
  | nil => exact List.isChain_singleton _
  | cons group rest =>
      rw [add]
      split
      · exact List.isChain_cons.mpr (List.isChain_cons.mp apart)
      · rename_i alone
        refine List.isChain_cons_cons.mpr ⟨?_, apart⟩
        by_cases same : row.columns = group.columns
        · have no_columns : row.columns = [] := by
            by_contra present
            exact alone ⟨same, present⟩
          exact Or.inr ⟨no_columns, same ▸ no_columns⟩
        · exact Or.inl same

/-- Neighbouring groups could not be one. -/
theorem isChain_collect (rows : List InsertedRow) :
    (collect rows).IsChain fun first second => Apart first.columns second.columns := by
  induction rows with
  | nil => exact List.isChain_nil
  | cons row rows ih => exact isChain_add row ih

/-- The columns of a group are those of one of the rows. -/
theorem exists_of_mem_collect {rows : List InsertedRow} {group : RowGroup}
    (member : group ∈ collect rows) : ∃ row ∈ rows, row.columns = group.columns := by
  induction rows generalizing group with
  | nil => cases member
  | cons row rows ih =>
      have later {other : RowGroup} (listed : other ∈ collect rows) :
          ∃ next ∈ row :: rows, next.columns = other.columns := by
        obtain ⟨next, is_row, same⟩ := ih listed
        exact ⟨next, List.mem_cons_of_mem row is_row, same⟩
      have added : group ∈ add row (collect rows) := member
      cases groups : collect rows with
      | nil =>
          rw [groups, add, List.mem_singleton] at added
          exact ⟨row, List.mem_cons_self, added ▸ rfl⟩
      | cons first rest =>
          rw [groups] at later added
          have of_first := later (List.mem_cons_self : first ∈ first :: rest)
          rw [add] at added
          split at added
          · rcases List.mem_cons.mp added with rfl | listed
            · exact of_first
            · exact later (List.mem_cons_of_mem first listed)
          · rcases List.mem_cons.mp added with rfl | listed
            · exact ⟨row, List.mem_cons_self, rfl⟩
            · exact later listed

end RowGroup

theorem Table.Sound.eq_of_names_eq {table : Table} (sound : table.Sound)
    {first second : List Column} (first_stored : ∀ column ∈ first, column ∈ table.columns)
    (second_stored : ∀ column ∈ second, column ∈ table.columns)
    (same : first.map Column.name = second.map Column.name) : first = second := by
  induction first generalizing second with
  | nil => exact (List.map_eq_nil_iff.mp same.symm).symm
  | cons column first ih =>
      obtain ⟨other, rest, rfl, name_eq, rest_eq⟩ := List.map_eq_cons_iff.mp same.symm
      obtain ⟨stored, later⟩ := List.forall_mem_cons.mp first_stored
      obtain ⟨other_stored, other_later⟩ := List.forall_mem_cons.mp second_stored
      obtain rfl := List.inj_on_of_nodup_map sound.names_nodup other_stored stored name_eq
      rw [ih later other_later rest_eq.symm]

theorem Table.Sound.apart_names {table : Table} (sound : table.Sound)
    {first second : List Column} (first_stored : ∀ column ∈ first, column ∈ table.columns)
    (second_stored : ∀ column ∈ second, column ∈ table.columns) (apart : Apart first second) :
    Apart (first.map Column.name) (second.map Column.name) := by
  rcases apart with different | ⟨rfl, rfl⟩
  · exact Or.inl (mt (sound.eq_of_names_eq first_stored second_stored) different)
  · exact Or.inr ⟨rfl, rfl⟩

/-! ## Insertions as a whole -/

theorem Insert.Filled.bound {insert : Insert} (filled : insert.Filled) (dialect : Dialect) :
    (insert.bound dialect).Filled := by
  refine ⟨?_, fun no_columns => ?_, fun row listed => ?_⟩
  · simpa [Insert.bound] using filled.rows_ne_nil
  · simp [Insert.bound, filled.rows_eq_of_no_columns no_columns]
  · obtain ⟨values, member, rfl⟩ := List.mem_map.mp listed
    rw [List.length_map]
    exact filled.lengths_eq values member

namespace Insertion

variable {registry : Registry} {record : RecordType} {table : Table} {records : List Record}

/-- Nothing but a missing value keeps records of a mapped type from being inserted. -/
theorem compile_eq_ok_iff (mapped : registry.table? record = some table)
    (present : records ≠ []) :
    (∃ statements, compile registry ⟨record, records⟩ = .ok statements) ↔
      ∀ single ∈ records, single.Complete table.columns := by
  constructor
  · rintro ⟨statements, compiles⟩
    exact (groups_of_compile mapped compiles).1
  · intro complete
    obtain ⟨inserts, found⟩ : ∃ inserts, trees registry ⟨record, records⟩ = .ok inserts := by
      have rows : table.insertedRows 0 records =
          .ok (records.map fun single => single.given table.columns) :=
        Table.insertedRows_eq_ok.mpr ⟨complete, rfl⟩
      simp [trees, Registry.requested, mapped, present, rows]
    have writes : ∀ insert ∈ inserts, ∃ statement,
        (Statement.insert insert).write registry.dialect = .ok statement := by
      intro insert member
      have no_fault : (Statement.insert insert).fault? registry.dialect = none :=
        (filled_of_trees found insert member).fault?_eq_none
      exact ⟨_, mapError_eq_ok.mpr (Statement.compile_eq_ok.mpr ⟨no_fault, rfl⟩)⟩
    obtain ⟨statements, written⟩ := exists_mapM_eq_ok writes
    exact ⟨statements, bind_eq_ok.mpr ⟨inserts, found, written⟩⟩

theorem compile_single_eq_ok_iff (mapped : registry.table? record = some table)
    (single : Record) :
    (∃ statements, compile registry ⟨record, [single]⟩ = .ok statements) ↔
      single.Complete table.columns := by
  rw [compile_eq_ok_iff mapped (List.cons_ne_nil single []), List.forall_mem_singleton]

/-- Records of a mapped type are refused for the first of them that lacks a value. -/
theorem compile_eq_error_iff (mapped : registry.table? record = some table)
    (present : records ≠ []) {error : Error} :
    compile registry ⟨record, records⟩ = .error error ↔
      ∃ before failing after column, records = before ++ failing :: after ∧
        (∀ earlier ∈ before, earlier.Complete table.columns) ∧
        failing.firstLack? table.columns = some column ∧
        error = .validation (.missingValue before.length (table.reference column)) := by
  have refusal : compile registry ⟨record, records⟩ = .error error ↔
      table.insertedRows 0 records = .error error := by
    constructor
    · intro refused
      cases rows : table.insertedRows 0 records with
      | ok rows =>
          obtain ⟨_, compiles⟩ :=
            (compile_eq_ok_iff mapped present).mpr (Table.insertedRows_eq_ok.mp rows).1
          rw [compiles] at refused
          cases refused
      | error other =>
          have stops : compile registry ⟨record, records⟩ = .error other := by
            simp [compile, trees, Registry.requested, mapped, present, rows, bind, Except.bind,
              expect, ensure]
          rw [Except.error.inj (stops.symm.trans refused)]
    · intro rows
      simp [compile, trees, Registry.requested, mapped, present, rows, bind, Except.bind, expect,
        ensure]
  rw [refusal, Table.insertedRows_eq_error]
  simp only [Nat.zero_add]

/-- One record alone has one statement, which gives its row. -/
theorem compile_single (mapped : registry.table? record = some table) {single : Record}
    (complete : single.Complete table.columns) :
    ∃ statement insert, compile registry ⟨record, [single]⟩ = .ok [statement] ∧
      statement.insert? registry.dialect = some insert ∧
      insert.listings = [listing registry.dialect (single.given table.columns)] := by
  let row := single.given table.columns
  let group : RowGroup := ⟨row.columns, [row.values]⟩
  have filled : (group.insert table).Filled := RowGroup.filled_alone row
  have written : (Statement.insert (group.insert table)).compile registry.dialect = .ok _ :=
    Statement.compile_eq_ok.mpr ⟨filled.fault?_eq_none, rfl⟩
  have found : trees registry ⟨record, [single]⟩ = .ok [group.insert table] := by
    have rows : table.insertedRows 0 [single] = .ok [row] :=
      Table.insertedRows_eq_ok.mpr ⟨List.forall_mem_singleton.mpr complete, rfl⟩
    simp only [trees, Registry.requested, mapped, bind_eq_ok, expect_eq_ok, ensure_eq_ok,
      pure_eq_ok]
    exact ⟨table, rfl, (), List.cons_ne_nil single [], [row], rows, rfl⟩
  have compiles : compile registry ⟨record, [single]⟩ = .ok [_] :=
    bind_eq_ok.mpr ⟨_, found,
      mapM_cons_eq_ok.mpr ⟨_, [], mapError_eq_ok.mpr written, rfl, rfl⟩⟩
  refine ⟨_, _, compiles, Insert.insert?_compile written, ?_⟩
  rw [listings_bound_insert, RowGroup.unfold, List.map_singleton, RowGroup.zip_columns_values,
    List.map_singleton]

/-- No two neighbours among the insertions of records could be one statement. -/
theorem isChain_groups (sound : table.Sound) (dialect : Dialect) (records : List Record) :
    ((RowGroup.collect (records.map fun record => record.given table.columns)).map
        fun group => (group.insert table).bound dialect).IsChain
      fun first second => Apart first.columns second.columns := by
  refine (List.isChain_map _).mpr ((RowGroup.isChain_collect _).imp_of_mem_imp
    fun first second first_member second_member apart => ?_)
  have stored {group : RowGroup} (member : group ∈ RowGroup.collect
      (records.map fun record => record.given table.columns)) :
      ∀ column ∈ group.columns, column ∈ table.columns := by
    obtain ⟨row, is_row, same⟩ := RowGroup.exists_of_mem_collect member
    obtain ⟨single, -, rfl⟩ := List.mem_map.mp is_row
    intro column listed
    rw [← same] at listed
    simp only [InsertedRow.columns, Record.given, List.map_map, List.mem_map] at listed
    obtain ⟨_, kept, rfl⟩ := listed
    exact List.mem_of_mem_filter kept
  exact sound.apart_names (stored first_member) (stored second_member) apart

end Insertion

/-- Records that are inserted together are inserted as they would be one by one. They are inserted
if each of them alone is. Otherwise the first one that is not is reported by its place, with the
first of its columns that lacks a value. The statements give one row for each record, in order: the
columns of the table that it does not leave out, each with the value of its own property. A
statement takes as many rows as it can, but without columns only one. -/
theorem records_inserted_one_by_one {registry : Registry} (built : registry.Built)
    {record : RecordType} {table : Table} (mapped : registry.table? record = some table)
    {records : List Record} (present : records ≠ []) :
    ((∃ statements, Insertion.compile registry ⟨record, records⟩ = .ok statements) ↔
      ∀ single ∈ records, ∃ statements,
        Insertion.compile registry ⟨record, [single]⟩ = .ok statements) ∧
    (∀ error, Insertion.compile registry ⟨record, records⟩ = .error error ↔
      ∃ before failing after column, records = before ++ failing :: after ∧
        (∀ earlier ∈ before, ∃ statements,
          Insertion.compile registry ⟨record, [earlier]⟩ = .ok statements) ∧
        failing.firstLack? table.columns = some column ∧
        error = .validation (.missingValue before.length (table.reference column))) ∧
    ∀ statements, Insertion.compile registry ⟨record, records⟩ = .ok statements →
      ∃ inserts, statements.mapM (CompiledStatement.insert? registry.dialect) = some inserts ∧
        (∀ insert ∈ inserts, insert.table = table.name ∧ insert.Filled) ∧
        inserts.flatMap Insert.listings = (records.map fun single =>
          (table.columns.filter fun column => ¬column.LeftOut single).map fun column =>
            (column.name, registry.dialect.bind (single column.property.name))) ∧
        (inserts.IsChain fun first second => Apart first.columns second.columns) ∧
        ∀ single ∈ records, ∃ statement insert,
          Insertion.compile registry ⟨record, [single]⟩ = .ok [statement] ∧
          statement.insert? registry.dialect = some insert ∧
          insert.listings = [(table.columns.filter fun column => ¬column.LeftOut single).map
            fun column => (column.name, registry.dialect.bind (single column.property.name))] := by
  have table_sound := built.sound.tables_sound table (Registry.table?_eq_some mapped).1
  have row (single : Record) : Insertion.listing registry.dialect (single.given table.columns) =
      (table.columns.filter fun column => ¬column.LeftOut single).map fun column =>
        (column.name, registry.dialect.bind (single column.property.name)) := by
    simp [Insertion.listing, Record.given]
  refine ⟨?_, fun error => ?_, fun statements compiles => ?_⟩
  · simp only [Insertion.compile_eq_ok_iff mapped present,
      Insertion.compile_single_eq_ok_iff mapped]
  · simp only [Insertion.compile_eq_error_iff mapped present,
      Insertion.compile_single_eq_ok_iff mapped]
  · obtain ⟨complete, read⟩ := Insertion.groups_of_compile mapped compiles
    refine ⟨_, read, fun insert member => ?_, ?_,
      Insertion.isChain_groups table_sound registry.dialect records, fun single listed => ?_⟩
    · obtain ⟨group, listed, rfl⟩ := List.mem_map.mp member
      exact ⟨rfl, (RowGroup.filled_collect _ group listed).bound registry.dialect⟩
    · rw [Insertion.listings_groups, List.map_map]
      exact List.map_congr_left fun single _ => row single
    · obtain ⟨statement, insert, alone, asks, gives⟩ :=
        Insertion.compile_single mapped (complete single listed)
      exact ⟨statement, insert, alone, asks, by rw [gives, row]⟩

namespace Staff

/-- Two users who are to be numbered, and one who has a number already. -/
def arrivals : List Record := [named .null "Doe", named .null "Poe", named (.int 7) "Roe"]

/-- A user without a name. -/
def nameless : Record
  | "role_id" => .int 1
  | _ => .null

/-- The first two of the users share the columns that they give values to. With a user without a
name behind them, none of them is inserted. -/
theorem arrivals_inserted_one_by_one :
    ∃ statements inserts,
      Insertion.compile (registry .postgresql) ⟨user, arrivals⟩ = .ok statements ∧
      statements.mapM (CompiledStatement.insert? .postgresql) = some inserts ∧
      inserts.flatMap Insert.listings =
        [[("lname", .text "Doe"), ("alias", .null), ("role_id", .int 1)],
          [("lname", .text "Poe"), ("alias", .null), ("role_id", .int 1)],
          [("seq", .int 7), ("lname", .text "Roe"), ("alias", .null), ("role_id", .int 1)]] ∧
      (inserts.IsChain fun first second => Apart first.columns second.columns) ∧
      Insertion.compile (registry .postgresql) ⟨user, arrivals ++ [nameless]⟩ =
        .error (.validation (.missingValue 3 ⟨"users", "lname"⟩)) := by
  have built := registry_built .postgresql
  have mapped : (registry .postgresql).table? user = some users := rfl
  have present : arrivals ≠ [] := List.cons_ne_nil _ _
  have longer_present : arrivals ++ [nameless] ≠ [] := List.cons_ne_nil _ _
  obtain ⟨singly, -, together⟩ := records_inserted_one_by_one built mapped present
  obtain ⟨-, refused, -⟩ := records_inserted_one_by_one built mapped longer_present
  have each : ∀ single ∈ arrivals, ∃ statements,
      Insertion.compile (registry .postgresql) ⟨user, [single]⟩ = .ok statements := by
    intro single listed
    refine (Insertion.compile_single_eq_ok_iff mapped single).mpr ?_
    rw [Record.complete_iff]
    revert single
    decide
  obtain ⟨statements, compiles⟩ := singly.mpr each
  obtain ⟨inserts, read, -, listings, apart, -⟩ := together statements compiles
  refine ⟨statements, inserts, compiles, read, listings, apart, (refused _).mpr ?_⟩
  exact ⟨arrivals, nameless, [], _, rfl, each, rfl, rfl⟩

end Staff

end TableMapping
