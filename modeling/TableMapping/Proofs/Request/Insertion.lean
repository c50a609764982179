import TableMapping.Proofs.Reading.Insert
import TableMapping.Proofs.Request.Scope
import TableMapping.Proofs.Row
import TableMapping.Proofs.ValueType
import TableMapping.Request.Insertion

/-!
# Records that are inserted and read back

A database stores the rows that insertions give it, each column under the value that is handed over
for it. Serial columns that an insertion leaves out get numbers from the database. The records of
the table are then read back as they were inserted, with those numbers. On text storage, a time
within a leap second that does not end a minute is read back as the time that its text shows.
-/

namespace TableMapping

/-! ## What records give to columns -/

/-- The record leaves it to the database to number the column. -/
def Column.LeftOut (column : Column) (record : Record) : Prop :=
  record column.property.name = .null ∧ column.type = .serial

instance (column : Column) (record : Record) : Decidable (column.LeftOut record) :=
  inferInstanceAs (Decidable (_ ∧ _))

namespace Record

/-- The values that a record gives to the listed columns, apart from those that it leaves out. -/
def given (record : Record) (columns : List Column) : InsertedRow :=
  (columns.filter fun column => ¬column.LeftOut record).map fun column =>
    (column, record column.property.name)

/-- Every column that the record has no value for may be without one, or is left out. -/
def Complete (record : Record) (columns : List Column) : Prop :=
  ∀ column ∈ columns, record column.property.name = .null → ¬column.LeftOut record →
    column.nullable = true

end Record

namespace Table

theorem insertedRow_eq_ok {table : Table} {number : Nat} {record : Record}
    {columns : List Column} {row : InsertedRow} :
    table.insertedRow number record columns = .ok row ↔
      record.Complete columns ∧ record.given columns = row := by
  induction columns generalizing row with
  | nil => simp [insertedRow, Record.Complete, Record.given]
  | cons column rest ih =>
      by_cases left_out : column.LeftOut record
      · have skipped : table.insertedRow number record (column :: rest) =
            table.insertedRow number record rest := if_pos left_out
        rw [skipped, ih]
        simp [Record.Complete, Record.given, left_out]
      · have kept : table.insertedRow number record (column :: rest) = (do
            ensure (record column.property.name = .null → column.nullable = true)
              (Error.validation (.missingValue number (table.reference column)))
            return (column, record column.property.name) ::
              (← table.insertedRow number record rest)) := if_neg left_out
        simp only [kept, bind_eq_ok, ensure_eq_ok, pure_eq_ok, ih, Record.Complete, Record.given,
          List.forall_mem_cons, left_out, not_false_eq_true, decide_true, List.filter_cons_of_pos,
          List.map_cons, forall_const]
        constructor
        · rintro ⟨_, nullable, later, ⟨complete, rfl⟩, rfl⟩
          exact ⟨⟨nullable, complete⟩, rfl⟩
        · rintro ⟨⟨nullable, complete⟩, rfl⟩
          exact ⟨(), nullable, _, ⟨complete, rfl⟩, rfl⟩

theorem insertedRows_eq_ok {table : Table} {number : Nat} {records : List Record}
    {rows : List InsertedRow} :
    table.insertedRows number records = .ok rows ↔
      (∀ record ∈ records, record.Complete table.columns) ∧
        (records.map fun record => record.given table.columns) = rows := by
  induction records generalizing number rows with
  | nil => simp [insertedRows]
  | cons record rest ih =>
      simp only [insertedRows, bind_eq_ok, pure_eq_ok, insertedRow_eq_ok, ih,
        List.forall_mem_cons, List.map_cons]
      constructor
      · rintro ⟨_, ⟨complete, rfl⟩, _, ⟨later, rfl⟩, rfl⟩
        exact ⟨⟨complete, later⟩, rfl⟩
      · rintro ⟨⟨complete, later⟩, rfl⟩
        exact ⟨_, ⟨complete, rfl⟩, _, ⟨later, rfl⟩, rfl⟩

end Table

/-! ## Groups of rows -/

namespace RowGroup

/-- The rows of a group, each with the columns that it gives values to. -/
def unfold (group : RowGroup) : List InsertedRow := group.rows.map group.columns.zip

theorem zip_columns_values (row : InsertedRow) : row.columns.zip row.values = row := by
  have pairs : row.columns.zip row.values = row.map fun given => (given.1, given.2) :=
    List.zip_map'
  rw [pairs]
  exact List.map_id row

/-- Grouping keeps the rows and their order. -/
theorem flatMap_unfold_collect (rows : List InsertedRow) :
    (collect rows).flatMap unfold = rows := by
  have step (row : InsertedRow) (groups : List RowGroup) :
      (add row groups).flatMap unfold = row :: groups.flatMap unfold := by
    cases groups with
    | nil => simp [add, unfold, zip_columns_values]
    | cons group rest =>
        rw [add]
        split
        · rename_i joins
          simp [unfold, ← joins.1, zip_columns_values]
        · simp [unfold, zip_columns_values]
  induction rows with
  | nil => rfl
  | cons row rest ih =>
      have added : collect (row :: rest) = add row (collect rest) := rfl
      rw [added, step, ih]

end RowGroup

/-! ## Rows that are stored -/

namespace Insert

/-- The listed columns of each row with the values that are handed over for them. -/
def listings (insert : Insert) : List (List (String × SqlValue)) :=
  insert.rows.map insert.columns.zip

/-- The row that a database stores: a column that is listed has its value there, and any other one
the number that the database gives it. -/
def stored (numbers : String → Int64) (listing : List (String × SqlValue)) : Row := fun column =>
  match listing.find? fun given => given.1 = column with
  | some given => given.2
  | none => .int (numbers column)

/-- The rows that a database stores for insertions in order. The numbers are those of each row. -/
def storedRows (numbers : Nat → String → Int64) (inserts : List Insert) : List Row :=
  (inserts.flatMap listings).zipIdx.map fun (listing, index) => stored (numbers index) listing

end Insert

namespace Insertion

/-- A row of an insertion as it is handed to a database. -/
def listing (dialect : Dialect) (row : InsertedRow) : List (String × SqlValue) :=
  row.map fun given => (given.1.name, dialect.bind given.2)

theorem listings_bound_insert (dialect : Dialect) (table : Table) (group : RowGroup) :
    ((group.insert table).bound dialect).listings = group.unfold.map (listing dialect) := by
  have bound (row : List SqlValue) :
      (group.columns.map Column.name).zip (row.map dialect.bind) =
        listing dialect (group.columns.zip row) := by
    rw [List.zip_map]
    rfl
  simp [Insert.listings, Insert.bound, RowGroup.insert, RowGroup.unfold, bound]

theorem mapM_insert?_of_write {dialect : Dialect} {trees : List Insert}
    {statements : List CompiledStatement}
    (written : trees.mapM (fun tree => (Statement.insert tree).write dialect) = .ok statements) :
    statements.mapM (CompiledStatement.insert? dialect) =
      some (trees.map (Insert.bound dialect)) := by
  induction trees generalizing statements with
  | nil =>
      obtain rfl : [] = statements := by simpa using written
      rfl
  | cons tree trees ih =>
      obtain ⟨statement, rest, first, later, rfl⟩ := mapM_cons_eq_ok.mp written
      have read := Insert.insert?_compile (mapError_eq_ok.mp first)
      rw [List.mapM_cons, read, ih later]
      rfl

/-- The statements of an insertion are read as the groups of the rows of the records. -/
theorem groups_of_compile {registry : Registry} {record : RecordType} {table : Table}
    (mapped : registry.table? record = some table) {records : List Record}
    {statements : List CompiledStatement}
    (compiles : compile registry ⟨record, records⟩ = .ok statements) :
    (∀ record ∈ records, record.Complete table.columns) ∧
      statements.mapM (CompiledStatement.insert? registry.dialect) =
        some ((RowGroup.collect (records.map fun record => record.given table.columns)).map
          fun group => (group.insert table).bound registry.dialect) := by
  simp only [compile, trees, Registry.requested, mapped, bind_eq_ok, expect_eq_ok, ensure_eq_ok,
    pure_eq_ok, Table.insertedRows_eq_ok] at compiles
  obtain ⟨trees, ⟨_, same, _, -, rows, ⟨complete, rfl⟩, rfl⟩, written⟩ := compiles
  obtain rfl := Option.some.inj same
  refine ⟨complete, ?_⟩
  rw [mapM_insert?_of_write written, List.map_map]
  rfl

theorem listings_groups (dialect : Dialect) (table : Table) (rows : List InsertedRow) :
    ((RowGroup.collect rows).map fun group => (group.insert table).bound dialect).flatMap
        Insert.listings = rows.map (listing dialect) := by
  calc
    _ = (RowGroup.collect rows).flatMap fun group => group.unfold.map (listing dialect) := by
      simp only [List.flatMap_map, listings_bound_insert]
    _ = ((RowGroup.collect rows).flatMap RowGroup.unfold).map (listing dialect) := by
      rw [List.map_flatMap]
    _ = _ := by rw [RowGroup.flatMap_unfold_collect]

/-- The statements of an insertion give the rows of the records, in order. -/
theorem insert?_of_compile {registry : Registry} {record : RecordType} {table : Table}
    (mapped : registry.table? record = some table) {records : List Record}
    {statements : List CompiledStatement}
    (compiles : compile registry ⟨record, records⟩ = .ok statements) :
    (∀ record ∈ records, record.Complete table.columns) ∧
      ∃ inserts : List Insert,
        statements.mapM (CompiledStatement.insert? registry.dialect) = some inserts ∧
        (∀ insert ∈ inserts, insert.table = table.name) ∧
        inserts.flatMap Insert.listings = records.map fun record =>
          listing registry.dialect (record.given table.columns) := by
  obtain ⟨complete, read⟩ := groups_of_compile mapped compiles
  refine ⟨complete, _, read, fun insert member => ?_, ?_⟩
  · obtain ⟨group, -, rfl⟩ := List.mem_map.mp member
    rfl
  · rw [listings_groups, List.map_map]
    rfl

end Insertion

/-! ## Records that are read back -/

namespace Table

/-- The record with the numbers of the columns that it leaves out. -/
def numbered (table : Table) (numbers : String → Int64) (record : Record) : Record :=
  fun property =>
    match table.columnOf? property with
    | some column =>
        if column.LeftOut record then .int (numbers column.name) else record property
    | none => record property

/-- The columns of the table store the listed properties. -/
def Stores (table : Table) (properties : List Property) : Prop :=
  ∀ property, property ∈ properties ↔ ∃ column ∈ table.columns, column.property = property

variable {table : Table} {record : Record} {numbers : String → Int64}

/-- A column that is left out is stored with its number, any other one as it is handed over. -/
theorem stored_given (sound : table.Sound) (dialect : Dialect) {column : Column}
    (member : column ∈ table.columns) :
    Insert.stored numbers (Insertion.listing dialect (record.given table.columns)) column.name =
      if column.LeftOut record then
        .int (numbers column.name)
      else
        dialect.bind (record column.property.name) := by
  have listing_eq : Insertion.listing dialect (record.given table.columns) =
      (table.columns.filter fun column => ¬column.LeftOut record).map fun column =>
        (column.name, dialect.bind (record column.property.name)) := by
    simp [Insertion.listing, Record.given]
  rw [Insert.stored, listing_eq]
  split_ifs with left_out
  · have unlisted : ((table.columns.filter fun column => ¬column.LeftOut record).map fun column =>
        (column.name, dialect.bind (record column.property.name))).find?
          (fun given => given.1 = column.name) = none := by
      refine List.find?_eq_none.mpr fun given listed same => ?_
      obtain ⟨other, kept, rfl⟩ := List.mem_map.mp listed
      obtain ⟨other_member, other_given⟩ := List.mem_filter.mp kept
      have other_eq : other = column :=
        List.inj_on_of_nodup_map sound.names_nodup other_member member (by simpa using same)
      simp [other_eq, left_out] at other_given
    rw [unlisted]
  · have distinct : (((table.columns.filter fun column => ¬column.LeftOut record).map
        fun column => (column.name, dialect.bind (record column.property.name))).map
          Prod.fst).Nodup := by
      rw [List.map_map]
      exact sound.names_nodup.sublist (List.filter_sublist.map Column.name)
    have listed : (column.name, dialect.bind (record column.property.name)) ∈
        (table.columns.filter fun column => ¬column.LeftOut record).map fun column =>
          (column.name, dialect.bind (record column.property.name)) := by
      refine List.mem_map.mpr ⟨column, List.mem_filter.mpr ⟨member, ?_⟩, rfl⟩
      simpa using left_out
    rw [find?_key_eq_some distinct listed]

theorem read_stored {dialect : Dialect} {column : Column}
    (admitted : column.property.type.admits (record column.property.name) = true)
    (complete : record column.property.name = .null → ¬column.LeftOut record →
      column.nullable = true)
    (reads : dialect.Reads (record column.property.name))
    (range : FitsInt32 (numbers column.name)) :
    column.property.type.read (if column.LeftOut record then .int (numbers column.name)
        else dialect.bind (record column.property.name)) =
      .ok (dialect.shown (if column.LeftOut record then .int (numbers column.name)
        else record column.property.name)) := by
  split
  · rename_i left_out
    have scalar : column.property.type.scalar = .int32 := by
      have storable := column.storable
      simp only [ValueType.storable, left_out.2, if_true, Bool.and_eq_true,
        decide_eq_true_eq] at storable
      exact storable.1
    have shown : dialect.shown (.int (numbers column.name)) = .int (numbers column.name) :=
      Dialect.shown_eq_self.mpr fun _ => trivial
    simp [shown, ValueType.read, SqlValue.isNull, scalar, Scalar.read,
      Scalar.readInt32_eq_ok range]
  · rename_i given
    refine ValueType.read_bind admitted (fun absent => ?_) reads
    have nullable := complete absent given
    simp only [Column.nullable, Bool.and_eq_true] at nullable
    exact nullable.2

theorem keeps_numbered {dialect : Dialect} {property : String} :
    dialect.Keeps (table.numbered numbers record property) ↔ dialect.Keeps (record property) := by
  unfold numbered
  split
  · rename_i column found
    split
    · rename_i left_out
      have named : column.property.name = property := by
        simpa using List.find?_some found
      rw [← named, left_out.1]
      exact iff_of_true (fun _ => trivial) fun _ => trivial
    · exact Iff.rfl
  · exact Iff.rfl

end Table

namespace Selection

/-- All records of a type, each with the values of its properties. -/
def ofRecords (record : RecordType) (properties : List Property) : Selection (List SqlValue) where
  source := Source.all record
  projection view := view.getAll (properties.map fun property =>
    ⟨⟨record, property.name⟩, property.type⟩)

theorem prepare_all {registry : Registry} (sound : registry.Sound) {record : RecordType}
    {table : Table} (mapped : registry.table? record = some table) :
    ∃ query, prepare registry (Source.all record) = .ok (query, RowLayout.ofTable table) ∧
      query.rowStatement? registry.dialect = some (.select ⟨table.name, [], none⟩) := by
  have resolved : (Source.all record).resolve registry = .ok ⟨⟨table, []⟩, [], none⟩ :=
    Source.resolve_eq_ok.mpr ⟨Scope.ofSource_eq_ok.mpr ⟨table, mapped, rfl⟩, rfl, rfl⟩
  obtain ⟨query, written, prepared⟩ :=
    prepare_of_resolve sound resolved (Registry.table?_eq_some mapped).1 rfl
  refine ⟨query, ?_, Statement.rowStatement?_compile written rfl⟩
  simpa [RowLayout.ofTables, Scope.tables] using prepared

theorem result_fetchAll {α : Type} {registry : Registry} {selection : Selection α}
    {query : CompiledStatement} {layout : RowLayout}
    (prepared : prepare registry selection.source = .ok (query, layout)) {backend : Backend}
    {rows : List RawRow} (answers : backend.query 0 query = .ok rows) :
    (selection.fetchAll registry backend).result = .ok ⟨rows, layout, selection.projection⟩ := by
  simp only [fetchAll, prepared, Backend.queryOne, answers]
  rfl

end Selection

namespace Table

variable {table : Table} {properties : List Property} {record : Record}
  {numbers : String → Int64}

theorem keys_nodup (sound : table.Sound) :
    ((RowLayout.ofTable table).columns.map LayoutColumn.key).Nodup := by
  have keys : (RowLayout.ofTable table).columns.map LayoutColumn.key =
      (table.columns.map fun column => column.property.name).map table.key := by
    simp [RowLayout.ofTable]
  have injective : Function.Injective table.key := fun _ _ same =>
    congrArg PropertyKey.name same
  rw [keys]
  exact sound.properties_nodup.map injective

/-- The properties of a stored record are read as the database shows those of the record with its
numbers. -/
theorem getAll_stored (sound : table.Sound) (stores : table.Stores properties)
    (fits : record.Fits properties) (complete : record.Complete table.columns)
    {dialect : Dialect} (reads : ∀ property ∈ properties, dialect.Reads (record property.name))
    (range : ∀ column, FitsInt32 (numbers column)) :
    RowView.getAll ⟨RowLayout.ofTable table, (RowLayout.ofTable table).columns.map fun column =>
        Insert.stored numbers (Insertion.listing dialect (record.given table.columns))
          column.reference.column⟩
        (properties.map fun property => ⟨⟨table.record, property.name⟩, property.type⟩) =
      .ok (properties.map fun property =>
        dialect.shown (table.numbered numbers record property.name)) := by
  rw [RowView.getAll, List.mapM_map]
  refine mapM_eq_ok_of_forall fun property listed => ?_
  obtain ⟨column, member, rfl⟩ := (stores property).mp listed
  have place : (⟨table.key column.property.name, table.reference column, column.type⟩ :
      LayoutColumn) ∈ (RowLayout.ofTable table).columns := List.mem_map.mpr ⟨column, member, rfl⟩
  have cell := RowView.cell_eq_ok (keys_nodup sound) (fun column =>
    Insert.stored numbers (Insertion.listing dialect (record.given table.columns))
      column.reference.column) place
  have found : table.columnOf? column.property.name = some column :=
    find?_key_eq_some sound.properties_nodup member
  have read := read_stored (fits column.property listed) (complete column member)
    (reads column.property listed) (range column.name)
  rw [← stored_given sound dialect member] at read
  rw [Function.comp_apply, RowView.get, numbered, found]
  change (RowView.cell _ (table.key column.property.name) >>= _) = _
  rw [cell]
  change (column.property.type.read (Insert.stored numbers
    (Insertion.listing dialect (record.given table.columns)) column.name)).mapError _ = _
  rw [read]
  rfl

end Table

/-- The rows of listed records are drawn one by one, as the database shows the records. -/
theorem Cursor.results_draw_storedRows {table : Table} (sound : table.Sound)
    {properties : List Property} (stores : table.Stores properties) {records : List Record}
    (fits : ∀ record ∈ records, record.Fits properties)
    (complete : ∀ record ∈ records, record.Complete table.columns) {dialect : Dialect}
    (reads : ∀ record ∈ records, ∀ property ∈ properties, dialect.Reads (record property.name))
    {inserts : List Insert}
    (listings : inserts.flatMap Insert.listings = records.map fun record =>
      Insertion.listing dialect (record.given table.columns))
    {numbers : Nat → String → Int64} (range : ∀ index column, FitsInt32 (numbers index column))
    {count : Nat} (enough : records.length ≤ count) :
    ((⟨(Insert.storedRows numbers inserts).map table.handOut, RowLayout.ofTable table,
        (Selection.ofRecords table.record properties).projection⟩ : Cursor _).draw count).map
          Reading.result =
      records.zipIdx.map fun (record, index) => .ok (properties.map fun property =>
        dialect.shown (table.numbered (numbers index) record property.name)) := by
  have rows : Insert.storedRows numbers inserts =
      records.zipIdx.map fun (record, index) => Insert.stored (numbers index)
        (Insertion.listing dialect (record.given table.columns)) := by
    rw [Insert.storedRows, listings, List.zipIdx_map, List.map_map]
    rfl
  rw [results_draw (by simpa [remaining, rows] using enough), List.map_map, rows, List.map_map]
  -- Row by row: the row at an index is the one of the record there, with the numbers of the index.
  refine List.map_congr_left fun numbered listed => ?_
  obtain ⟨record, index⟩ := numbered
  have record_listed : record ∈ records := List.fst_mem_of_mem_zipIdx listed
  have values := Table.getAll_stored sound stores (fits record record_listed)
    (complete record record_listed) (reads record record_listed) (range index)
  have decoded := RowLayout.result_decode_handOut table (Insert.stored (numbers index)
    (Insertion.listing dialect (record.given table.columns)))
  simp only [Function.comp_apply, RowLayout.project, decoded]
  exact values

/-- Rows are shown as the records with their numbers just if the database keeps what the records
give to the properties. -/
theorem Dialect.map_shown_numbered_eq_iff {dialect : Dialect} {table : Table}
    {properties : List Property} {records : List Record} {numbers : Nat → String → Int64} :
    (records.zipIdx.map fun (record, index) =>
        (.ok (properties.map fun property : Property =>
          dialect.shown (table.numbered (numbers index) record property.name)) :
            Except Error (List SqlValue))) =
      (records.zipIdx.map fun (record, index) => .ok (properties.map fun property : Property =>
        table.numbered (numbers index) record property.name)) ↔
      ∀ record ∈ records, ∀ property ∈ properties, dialect.Keeps (record property.name) := by
  simp only [List.map_inj_left, Except.ok.injEq, shown_eq_self, Table.keeps_numbered]
  constructor
  · intro kept record listed
    obtain ⟨index, below, rfl⟩ := List.getElem_of_mem listed
    exact kept (records[index], index) (by simp [List.mem_zipIdx_iff_getElem?])
  · intro kept numbered listed
    exact kept numbered.1 (List.fst_mem_of_mem_zipIdx listed)

/-- Records that are inserted are read back in order, as the database shows them. A database that
stores, for every row of the statements, the values that it is handed for the listed columns and a
number for any other column gives back the records, with its numbers for the serial properties that
have no value. It gives them back as they were just if it keeps all their values, which text storage
does apart from times within a leap second that does not end a minute. -/
theorem records_read_back_as_shown {registry : Registry} (built : registry.Built)
    {record : RecordType} {table : Table} (mapped : registry.table? record = some table)
    {properties : List Property} (stores : table.Stores properties) {records : List Record}
    (fits : ∀ record ∈ records, record.Fits properties)
    (regular : ∀ record ∈ records, ∀ property ∈ properties,
      registry.dialect.Reads (record property.name))
    {statements : List CompiledStatement}
    (compiles : Insertion.compile registry ⟨record, records⟩ = .ok statements) :
    ∃ inserts query,
      statements.mapM (CompiledStatement.insert? registry.dialect) = some inserts ∧
      (∀ insert ∈ inserts, insert.table = table.name) ∧
      (inserts.flatMap Insert.listings).map (List.map Prod.fst) = records.map (fun record =>
        (table.columns.filter fun column => ¬column.LeftOut record).map Column.name) ∧
      (Selection.ofRecords record properties).compile registry = .ok query ∧
      query.rowStatement? registry.dialect = some (.select ⟨table.name, [], none⟩) ∧
      ∀ numbers : Nat → String → Int64, (∀ index column, FitsInt32 (numbers index column)) →
        ∀ backend : Backend,
          backend.query 0 query = .ok ((Insert.storedRows numbers inserts).map table.handOut) →
          ∃ cursor,
            ((Selection.ofRecords record properties).fetchAll registry backend).result =
              .ok cursor ∧
            ∀ count ≥ records.length,
              (cursor.draw count).map Reading.result =
                (records.zipIdx.map fun (record, index) => .ok (properties.map fun property =>
                  registry.dialect.shown
                    (table.numbered (numbers index) record property.name))) ∧
              ((cursor.draw count).map Reading.result =
                  (records.zipIdx.map fun (record, index) => .ok (properties.map fun property =>
                    table.numbered (numbers index) record property.name)) ↔
                ∀ record ∈ records, ∀ property ∈ properties,
                  registry.dialect.Keeps (record property.name)) := by
  have sound := built.sound
  obtain ⟨member, rfl⟩ := Registry.table?_eq_some mapped
  obtain ⟨complete, inserts, read, tables, listings⟩ := Insertion.insert?_of_compile mapped compiles
  obtain ⟨query, prepared, asks⟩ := Selection.prepare_all sound mapped
  refine ⟨inserts, query, read, tables, ?_, ?_, asks, fun numbers range backend answers => ?_⟩
  · rw [listings, List.map_map]
    refine List.map_congr_left fun record _ => ?_
    simp [Insertion.listing, Record.given]
  · exact map_eq_ok.mpr ⟨_, prepared, rfl⟩
  · have source : (Selection.ofRecords table.record properties).source =
        Source.all table.record := rfl
    rw [← source] at prepared
    refine ⟨_, Selection.result_fetchAll prepared answers, fun count enough => ?_⟩
    have drawn := Cursor.results_draw_storedRows (sound.tables_sound table member) stores fits
      complete regular listings range enough
    exact ⟨drawn, drawn ▸ Dialect.map_shown_numbered_eq_iff⟩

namespace Staff

/-- The table of users. -/
def users : Table := (registry .sqlite).tables.getLast (by decide)

/-- A user without an alias. -/
def named (seq : SqlValue) (lastname : String) : Record
  | "seq" => seq
  | "lastname" => .text lastname
  | "role_id" => .int 1
  | _ => .null

/-- A user who is to be numbered and one who has a number already. -/
def newcomers : List Record := [named .null "Doe", named (.int 7) "Roe"]

/-- The users are read back with the number of the first one. -/
theorem newcomers_read_back :
    ∃ statements inserts, Insertion.compile (registry .sqlite) ⟨user, newcomers⟩ = .ok statements ∧
      statements.mapM (CompiledStatement.insert? .sqlite) = some inserts ∧
      (inserts.flatMap Insert.listings).map (List.map Prod.fst) =
        [["lname", "alias", "role_id"], ["seq", "lname", "alias", "role_id"]] ∧
      ∃ backend cursor,
        backend.query = (fun _ _ =>
          .ok ((Insert.storedRows (fun _ _ => 41) inserts).map users.handOut)) ∧
        ((Selection.ofRecords user (users.columns.map Column.property)).fetchAll
          (registry .sqlite) backend).result = .ok cursor ∧
        (cursor.draw 2).map Reading.result =
          [.ok [.int 41, .text "Doe", .null, .int 1],
            .ok [.int 7, .text "Roe", .null, .int 1]] := by
  obtain ⟨statements, compiles⟩ : ∃ statements,
      Insertion.compile (registry .sqlite) ⟨user, newcomers⟩ = .ok statements := ⟨_, rfl⟩
  have mapped : (registry .sqlite).table? user = some users := rfl
  have stores : users.Stores (users.columns.map Column.property) := fun _ => List.mem_map
  have fits : ∀ record ∈ newcomers, record.Fits (users.columns.map Column.property) := by
    unfold Record.Fits
    decide
  have regular : ∀ record ∈ newcomers, ∀ property ∈ users.columns.map Column.property,
      (registry .sqlite).dialect.Reads (record property.name) := by
    have kinds : ∀ record ∈ newcomers, ∀ property ∈ users.columns.map Column.property,
        (record property.name).kind ≠ .timestamp := by decide
    intro record member property listed _ moment stamp
    have kind := kinds record member property listed
    rw [stamp] at kind
    exact absurd rfl kind
  obtain ⟨inserts, query, read, -, listed, -, -, reads⟩ :=
    records_read_back_as_shown (registry_built .sqlite) mapped stores fits regular compiles
  have range : ∀ (index : Nat) (column : String), FitsInt32 41 := fun _ _ => by decide
  obtain ⟨cursor, fetched, drawn⟩ := reads (fun _ _ => 41) range ⟨fun _ _ => .ok 0, fun _ _ =>
    .ok ((Insert.storedRows (fun _ _ => 41) inserts).map users.handOut)⟩ rfl
  exact ⟨statements, inserts, compiles, read, listed, _, cursor, rfl, fetched,
    (drawn 2 (Nat.le_refl 2)).1⟩

/-- The breaks of users. -/
def pause : RecordType := ⟨"Break"⟩

/-- The declaration of the table of breaks, with the time at which each began. -/
def breakDeclarations : List TableDeclaration :=
  [⟨pause, "breaks", [ColumnDeclaration.of ⟨"began_at", ⟨.time, false⟩⟩ .time rfl], none, []⟩]

/-- The registry of breaks on text storage. -/
def breakRegistry : Registry := (breakDeclarations.foldl Draft.table (Draft.empty .sqlite)).registry

/-- The table of breaks. -/
def breaks : Table := breakRegistry.tables.getLast (by decide)

/-- A break that began within a leap second that does not end a minute. -/
def lateBreak : Record := fun _ => .time .withinMinute

/-- A break that began within a leap second that does not end a minute is read back as one that
began at another time. -/
theorem late_break_misread :
    breakRegistry.Built ∧ breakRegistry.table? pause = some breaks ∧
      lateBreak.Fits (breaks.columns.map Column.property) ∧
      ∃ statements inserts,
        Insertion.compile breakRegistry ⟨pause, [lateBreak]⟩ = .ok statements ∧
        statements.mapM (CompiledStatement.insert? .sqlite) = some inserts ∧
        ∃ backend cursor,
          backend.query = (fun _ _ =>
            .ok ((Insert.storedRows (fun _ _ => 0) inserts).map breaks.handOut)) ∧
          ((Selection.ofRecords pause (breaks.columns.map Column.property)).fetchAll
            breakRegistry backend).result = .ok cursor ∧
          (cursor.draw 1).map Reading.result = [.ok [.time .afterFifthSecond]] ∧
          (breaks.columns.map Column.property).map (fun property => lateBreak property.name) =
            [.time .withinMinute] ∧
          TimeOfDay.withinMinute ≠ .afterFifthSecond := by
  have built : breakRegistry.Built := ⟨breakDeclarations, rfl⟩
  have mapped : breakRegistry.table? pause = some breaks := rfl
  have fits : lateBreak.Fits (breaks.columns.map Column.property) := by
    unfold Record.Fits
    decide
  obtain ⟨statements, compiles⟩ : ∃ statements,
      Insertion.compile breakRegistry ⟨pause, [lateBreak]⟩ = .ok statements := ⟨_, rfl⟩
  obtain ⟨complete, inserts, read, -, listings⟩ := Insertion.insert?_of_compile mapped compiles
  obtain ⟨query, prepared, -⟩ := Selection.prepare_all built.sound mapped
  refine ⟨built, mapped, fits, statements, inserts, compiles, read, ⟨fun _ _ => .ok 0, fun _ _ =>
    .ok ((Insert.storedRows (fun _ _ => 0) inserts).map breaks.handOut)⟩, _, rfl,
    Selection.result_fetchAll prepared rfl, ?_, rfl, by decide⟩
  have stores : breaks.Stores (breaks.columns.map Column.property) := fun _ => List.mem_map
  have sound : breaks.Sound :=
    built.sound.tables_sound breaks (Registry.table?_eq_some mapped).1
  have regular : ∀ record ∈ [lateBreak], ∀ property ∈ breaks.columns.map Column.property,
      Dialect.sqlite.Reads (record property.name) := by
    intro record member property _ _ moment stamp
    rw [List.mem_singleton.mp member] at stamp
    cases stamp
  have range : ∀ (_ : Nat) (_ : String), FitsInt32 0 := fun _ _ => by decide
  have shown : Dialect.sqlite.shown (.time .withinMinute) = .time .afterFifthSecond := by decide
  have drawn := Cursor.results_draw_storedRows sound stores (List.forall_mem_singleton.mpr fits)
    complete regular listings range (Nat.le_refl 1)
  rw [← shown]
  exact drawn

end Staff

end TableMapping
