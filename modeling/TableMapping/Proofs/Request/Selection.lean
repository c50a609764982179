import TableMapping.Proofs.Reading.SelectList
import TableMapping.Proofs.Request.Filter
import TableMapping.Proofs.Request.Scope
import TableMapping.Proofs.Row

/-!
# Layouts of selections

The layout that goes with a query lists the selected columns in the order in which they stand in its
text. A property is read at the position of its column there, and further joins leave the positions
that are there already as they are.
-/

namespace TableMapping

/-! ## Layouts of tables -/

/-- The position of a row that holds a column of the table. -/
def Table.layoutColumn (table : Table) (column : Column) : LayoutColumn :=
  ⟨table.key column.property.name, table.reference column, column.type⟩

namespace RowLayout

/-- The positions of a layout hold the columns of the tables, table after table, each with the
property that it stores and with its type. None of them is there twice. -/
structure Spans (layout : RowLayout) (tables : List Table) : Prop where
  columns_eq : layout.columns = tables.flatMap fun table => table.columns.map table.layoutColumn
  keys_nodup : (layout.columns.map LayoutColumn.key).Nodup
  references_nodup : (layout.columns.map LayoutColumn.reference).Nodup

theorem Spans.mem_columns {layout : RowLayout} {tables : List Table} (spans : layout.Spans tables)
    {entry : LayoutColumn} :
    entry ∈ layout.columns ↔
      ∃ table ∈ tables, ∃ column ∈ table.columns, table.layoutColumn column = entry := by
  simp only [spans.columns_eq, List.mem_flatMap, List.mem_map]

end RowLayout

namespace Scope.Sound

variable {registry : Registry} {scope : Scope}

theorem spans (sound : scope.Sound registry) (registry_sound : registry.Sound) :
    (RowLayout.ofTables scope.tables).Spans scope.tables where
  columns_eq := rfl
  keys_nodup := by
    simp only [RowLayout.ofTables, RowLayout.ofTable, List.map_flatMap, List.map_map]
    exact nodup_keys_of_records sound.records_nodup fun _ => sound.table_sound registry_sound
  references_nodup := by
    simp only [RowLayout.ofTables, RowLayout.ofTable, List.map_flatMap, List.map_map]
    refine nodup_flatMap_of_key ColumnRef.table (sound.names_nodup registry_sound)
      (fun table member => ?_) fun table reference listed => ?_
    · exact (sound.table_sound registry_sound member).references_nodup
    · obtain ⟨_, -, rfl⟩ := List.mem_map.mp listed
      rfl

end Scope.Sound

/-! ## Reading of properties -/

namespace ValueType

theorem read_optional (type : ValueType) (value : SqlValue) :
    read ⟨type.scalar, true⟩ value = if value = .null then .ok .null else type.read value := by
  cases value <;> simp [read, SqlValue.isNull]

end ValueType

namespace RowView

variable {layout : RowLayout} {values : List SqlValue}

/-- The reading of the value at a position as the value of a column. -/
def readAt (values : List SqlValue) (position : Nat) (column : ColumnRef) (read : PropertyRead) :
    Except Error SqlValue :=
  match values[position]? with
  | none => .error (.rowAccess read.key)
  | some value => (read.type.read value).mapError fun error => .decode column (.value error)

theorem get_of_getElem? (distinct : (layout.columns.map LayoutColumn.key).Nodup) {position : Nat}
    {column : LayoutColumn} (found : layout.columns[position]? = some column) (type : ValueType) :
    get ⟨layout, values⟩ ⟨column.key, type⟩ =
      readAt values position column.reference ⟨column.key, type⟩ := by
  rw [get, cell, cell?_of_getElem? distinct found, readAt]
  cases values[position]? <;> rfl

theorem get_eq_rowAccess {read : PropertyRead}
    (unstored : ∀ column ∈ layout.columns, column.key ≠ read.key) :
    get ⟨layout, values⟩ read = .error (.rowAccess read.key) := by
  rw [get, cell, cell?_eq_none unstored]
  rfl

variable {position : Nat} {column : ColumnRef} {read : PropertyRead}

theorem readAt_eq_rowAccess {key : PropertyKey} :
    readAt values position column read = .error (.rowAccess key) ↔
      values.length ≤ position ∧ read.key = key := by
  unfold readAt
  split
  · rename_i absent
    simp [List.getElem?_eq_none_iff.mp absent]
  · rename_i value found
    have within := (List.getElem?_eq_some_iff.mp found).1
    cases read.type.read value <;> simp [Except.mapError, Nat.not_le.mpr within]

theorem readAt_asOptional :
    readAt values position column read.asOptional =
      if values[position]? = some .null then .ok .null
      else readAt values position column read := by
  cases found : values[position]? with
  | none => simp [readAt, found, PropertyRead.asOptional]
  | some value =>
      by_cases absent : value = .null
      · simp [readAt, found, PropertyRead.asOptional, ValueType.read_optional, absent,
          Except.mapError]
      · simp [readAt, found, PropertyRead.asOptional, ValueType.read_optional, absent]

end RowView

namespace RowLayout.Spans

variable {layout : RowLayout} {tables : List Table} {values : List SqlValue}

theorem get_unmapped (spans : layout.Spans tables) (sound : ∀ table ∈ tables, table.Sound)
    {read : PropertyRead} (unmapped : ∀ table ∈ tables, table.column? read.key = none) :
    RowView.get ⟨layout, values⟩ read = .error (.rowAccess read.key) := by
  refine RowView.get_eq_rowAccess fun entry listed same => ?_
  obtain ⟨table, member, column, stored, rfl⟩ := spans.mem_columns.mp listed
  have found := (sound table member).column?_eq_some.mpr ⟨stored, same.symm⟩
  simp [unmapped table member] at found

theorem get_mapped (spans : layout.Spans tables) (sound : ∀ table ∈ tables, table.Sound)
    {table : Table} (member : table ∈ tables) {key : PropertyKey} {column : Column}
    (mapped : table.column? key = some column) :
    ∃ position, layout.columns[position]? = some (table.layoutColumn column) ∧
      ∀ values type, RowView.get ⟨layout, values⟩ ⟨key, type⟩ =
        RowView.readAt values position (table.reference column) ⟨key, type⟩ := by
  obtain ⟨stored, rfl⟩ := (sound table member).column?_eq_some.mp mapped
  have listed := spans.mem_columns.mpr ⟨table, member, column, stored, rfl⟩
  obtain ⟨position, found⟩ := List.mem_iff_getElem?.mp listed
  exact ⟨position, found, fun _ type => RowView.get_of_getElem? spans.keys_nodup found type⟩

variable {wider : RowLayout} {further : List Table}

theorem columns_append (spans : layout.Spans tables)
    (wider_spans : wider.Spans (tables ++ further)) :
    wider.columns = layout.columns ++
      further.flatMap fun table => table.columns.map table.layoutColumn := by
  rw [wider_spans.columns_eq, spans.columns_eq, List.flatMap_append]

/-- A layout of more tables reads the properties of the first tables as before. -/
theorem get_append (spans : layout.Spans tables) (sound : ∀ table ∈ tables, table.Sound)
    (wider_spans : wider.Spans (tables ++ further))
    {table : Table} (member : table ∈ tables) {read : PropertyRead} {column : Column}
    (mapped : table.column? read.key = some column) :
    RowView.get ⟨wider, values⟩ read = RowView.get ⟨layout, values⟩ read := by
  obtain ⟨position, found, reads⟩ := spans.get_mapped sound member mapped
  obtain ⟨stored, key_eq⟩ := (sound table member).column?_eq_some.mp mapped
  have still : wider.columns[position]? = some (table.layoutColumn column) := by
    rw [spans.columns_append wider_spans,
      List.getElem?_append_left (List.getElem?_eq_some_iff.mp found).1, found]
  obtain ⟨key, type⟩ := read
  obtain rfl : key = table.key column.property.name := key_eq
  exact (RowView.get_of_getElem? wider_spans.keys_nodup still type).trans (reads values type).symm

end RowLayout.Spans

/-! ## Selections -/

/-- The record types of a source, in the order in which their tables are selected from. -/
def Source.records (source : Source) : List RecordType :=
  source.root :: source.joins.map JoinRequest.record

namespace Selection

variable {registry : Registry} {source : Source} {statement : CompiledStatement}
  {layout : RowLayout}

/-- The layout of a query spans the tables of its record types, and its columns are those that are
selected. -/
theorem spans_of_prepare (valid : registry.Valid)
    (prepared : prepare registry source = .ok (statement, layout)) :
    ∃ tables, tables.map some = source.records.map registry.table? ∧
      (∀ table ∈ tables, table ∈ registry.tables) ∧ layout.Spans tables ∧
      statement.selected? registry.dialect =
        some (layout.columns.map LayoutColumn.reference) := by
  simp only [prepare, bind_eq_ok, pure_eq_ok, Prod.mk.injEq] at prepared
  obtain ⟨resolved, found, _, written, rfl, rfl⟩ := prepared
  have sound := Source.sound_of_resolve valid found
  have scope_sound := Scope.sound_of_ofSource valid (Source.resolve_eq_ok.mp found).1
  have records_eq : resolved.scope.tables.map Table.record = source.records := by
    have root_record := (Registry.table?_eq_some sound.root_found).2
    simp [Scope.tables, Source.records, root_record, ← sound.records_eq]
  refine ⟨resolved.scope.tables, ?_, scope_sound.tables_mem, scope_sound.spans valid.toSound, ?_⟩
  · rw [← records_eq, List.map_map]
    exact List.map_congr_left fun table member => (sound.tables_found table member).symm
  · rw [CompiledStatement.selected?_compile (mapError_eq_ok.mp written)]
    simp [query, RowLayout.ofTables, RowLayout.ofTable, List.map_flatMap, Function.comp_def]

end Selection

/-- The layout that goes with a query spans the tables of the requested record types, and its
columns are those that the text of the query selects, in order. A property that none of the tables
has cannot be read from any row. A property that one of them has is read as the value at the
position of its column, whatever the other values of the row are: it is an error of access only if
the row ends before that position, and an optional reading differs only for the absent value. A
query for more tables has the same positions in front, and reads the properties that could be read
before as before. -/
theorem layout_lists_selected_columns {registry : Registry} (built : registry.Built)
    {source : Source} {statement : CompiledStatement} {layout : RowLayout}
    (prepared : Selection.prepare registry source = .ok (statement, layout)) :
    ∃ tables, tables.map some = source.records.map registry.table? ∧ layout.Spans tables ∧
      statement.selected? registry.dialect =
        some (layout.columns.map LayoutColumn.reference) ∧
      (∀ (read : PropertyRead) values, (∀ table ∈ tables, table.column? read.key = none) →
        RowView.get ⟨layout, values⟩ read = .error (.rowAccess read.key)) ∧
      (∀ table ∈ tables, ∀ key column, table.column? key = some column →
        ∃ position, layout.columns[position]? = some (table.layoutColumn column) ∧
          ∀ values (read : PropertyRead), read.key = key →
            RowView.get ⟨layout, values⟩ read =
              RowView.readAt values position (table.reference column) read ∧
            (∀ other, RowView.get ⟨layout, values⟩ read = .error (.rowAccess other) ↔
              values.length ≤ position ∧ key = other) ∧
            RowView.get ⟨layout, values⟩ read.asOptional =
              if values[position]? = some .null then .ok .null
              else RowView.get ⟨layout, values⟩ read) ∧
      ∀ (wider : Source) further wider_statement wider_layout,
        wider.records = source.records ++ further →
        Selection.prepare registry wider = .ok (wider_statement, wider_layout) →
          ∃ added, added.map some = further.map registry.table? ∧
            wider_layout.Spans (tables ++ added) ∧
            wider_layout.columns = layout.columns ++
              added.flatMap (fun table => table.columns.map table.layoutColumn) ∧
            wider_statement.selected? registry.dialect =
              some (wider_layout.columns.map LayoutColumn.reference) ∧
            ∀ table ∈ tables, ∀ (read : PropertyRead) column,
              table.column? read.key = some column → ∀ values,
                RowView.get ⟨wider_layout, values⟩ read = RowView.get ⟨layout, values⟩ read := by
  have valid := built.valid
  obtain ⟨tables, found, members, spans, selected⟩ := Selection.spans_of_prepare valid prepared
  have sound : ∀ table ∈ tables, table.Sound := fun table member =>
    valid.tables_sound table (members table member)
  refine ⟨tables, found, spans, selected, fun read values => spans.get_unmapped sound, ?_, ?_⟩
  · intro table member key column mapped
    obtain ⟨position, listed, reads⟩ := spans.get_mapped sound member mapped
    refine ⟨position, listed, fun values read same => ?_⟩
    obtain ⟨_, type⟩ := read
    obtain rfl := same
    refine ⟨reads values type, fun other => ?_, ?_⟩
    · rw [reads, RowView.readAt_eq_rowAccess]
    · exact (reads values ⟨type.scalar, true⟩).trans (reads values type ▸ RowView.readAt_asOptional)
  · intro wider further wider_statement wider_layout records_eq wider_prepared
    obtain ⟨all, all_found, -, all_spans, all_selected⟩ :=
      Selection.spans_of_prepare valid wider_prepared
    -- The tables in front are determined by their record types, which are those of the source.
    rw [records_eq, List.map_append, ← found] at all_found
    obtain ⟨front, added, rfl, front_eq, added_found⟩ := List.map_eq_append_iff.mp all_found
    obtain rfl : front = tables :=
      List.map_injective_iff.mpr (fun _ _ same => Option.some.inj same) front_eq
    refine ⟨added, added_found, all_spans, spans.columns_append all_spans, all_selected, ?_⟩
    intro table member read column mapped values
    exact spans.get_append sound all_spans member mapped

namespace Staff

/-- The reading of the last name of a user. -/
def lastname : PropertyRead := ⟨⟨user, "lastname"⟩, ⟨.string, false⟩⟩

/-- The reading of the label of a role. -/
def label : PropertyRead := ⟨⟨role, "label"⟩, ⟨.string, false⟩⟩

/-- The rows of users have their last names where the rows of users with roles have them, and do not
have the labels of roles. -/
theorem lastname_read_with_roles :
    ∃ statement layout wider_statement wider_layout,
      Selection.prepare (registry .sqlite) (Source.all user) = .ok (statement, layout) ∧
        Selection.prepare (registry .sqlite) usersWithRoles = .ok (wider_statement, wider_layout) ∧
        wider_statement.selected? .sqlite = some
          [⟨"users", "seq"⟩, ⟨"users", "lname"⟩, ⟨"users", "alias"⟩, ⟨"users", "role_id"⟩,
            ⟨"roles", "id"⟩, ⟨"roles", "label"⟩] ∧
        ∀ values,
          RowView.get ⟨wider_layout, values⟩ lastname = RowView.get ⟨layout, values⟩ lastname ∧
            RowView.get ⟨layout, values⟩ label = .error (.rowAccess label.key) := by
  obtain ⟨statement, layout, prepared⟩ : ∃ statement layout,
      Selection.prepare (registry .sqlite) (Source.all user) = .ok (statement, layout) :=
    ⟨_, _, rfl⟩
  obtain ⟨wider_statement, wider_layout, wider_prepared, wider_columns⟩ :
      ∃ wider_statement wider_layout,
        Selection.prepare (registry .sqlite) usersWithRoles =
            .ok (wider_statement, wider_layout) ∧
          wider_layout.columns.map LayoutColumn.reference =
            [⟨"users", "seq"⟩, ⟨"users", "lname"⟩, ⟨"users", "alias"⟩, ⟨"users", "role_id"⟩,
              ⟨"roles", "id"⟩, ⟨"roles", "label"⟩] :=
    ⟨_, _, rfl, rfl⟩
  obtain ⟨tables, found, -, -, unmapped, -, further⟩ :=
    layout_lists_selected_columns (registry_built .sqlite) prepared
  obtain ⟨-, -, -, -, selected, reads⟩ :=
    further usersWithRoles [role] wider_statement wider_layout rfl wider_prepared
  obtain ⟨users, is_users, column, mapped, other⟩ : ∃ users,
      (registry .sqlite).table? user = some users ∧ ∃ column,
        users.column? lastname.key = some column ∧ users.column? label.key = none :=
    ⟨_, rfl, _, rfl, rfl⟩
  obtain rfl : tables = [users] := by
    refine List.map_injective_iff.mpr (fun _ _ same => Option.some.inj same) (found.trans ?_)
    exact congrArg ([·]) is_users
  refine ⟨statement, layout, wider_statement, wider_layout, prepared, wider_prepared,
    wider_columns ▸ selected, fun values => ⟨?_, ?_⟩⟩
  · exact reads users (List.mem_singleton.mpr rfl) lastname column mapped values
  · exact unmapped label values (by simpa using other)

end Staff

end TableMapping
