import TableMapping.Error
import TableMapping.Proofs.FirstItem
import TableMapping.Proofs.Statement.Alike
import TableMapping.Proofs.Statement.Filled
import TableMapping.Proofs.Statement.Parameters

/-!
# Statements that are refused

A statement tree has a text unless it is refused, and then the error says what is refused first: a
column of a type that the dialect lacks, rows that do not go with the columns, a missing column or
assignment, or a comparison with the absent value, which may stand anywhere in the tree of the
filter. The values that are inserted or assigned, and the joins, have no part in this.
-/

namespace TableMapping

/-! ## Filters -/

namespace Condition

/-- The leftmost comparison with the absent value in a filter is one of the column. -/
def ComparesAbsent (filter : Option Condition) (column : ColumnRef) : Prop :=
  ∃ condition ∈ filter, ∃ comparison, IsFirst (fun atom => atom.value? = some .null)
    condition.atoms (.test (.compare column comparison .null))

variable {filter : Option Condition} {fault : StatementFault}

/-- A filter is at fault for its leftmost comparison with the absent value, however deep it
stands. -/
theorem filterFault?_eq_some_iff :
    filterFault? filter = some fault ↔
      ∃ column, ComparesAbsent filter column ∧ fault = .nullComparison column := by
  have absent_iff (atom : Atom) :
      (∃ reason, atom.fault? = some reason) ↔ atom.value? = some .null := by
    rw [← Option.ne_none_iff_exists', ne_eq, Atom.fault?_eq_none, not_not]
  cases filter with
  | none =>
      refine iff_of_false (fun impossible => by cases impossible) ?_
      rintro ⟨column, ⟨condition, absent, -⟩, -⟩
      cases absent
  | some condition =>
      rw [filterFault?, Option.bind_some, fault?_eq_findSome?,
        findSome?_eq_some_iff_firstRefused]
      simp only [FirstRefused, absent_iff]
      constructor
      · rintro ⟨atom, first, found⟩
        obtain ⟨column, comparison, rfl, rfl⟩ := Atom.fault?_eq_some_iff.mp found
        exact ⟨column, ⟨condition, rfl, comparison, first⟩, rfl⟩
      · rintro ⟨column, ⟨_, same, comparison, first⟩, rfl⟩
        obtain rfl := Option.some.inj same
        exact ⟨_, first, rfl⟩

end Condition

/-! ## Statements -/

/-- The fault for which a statement is refused, whatever else is wrong with it. -/
inductive Statement.Refuses (dialect : Dialect) : Statement → StatementFault → Prop
  | unsupportedType {create : CreateTable} {column : ColumnDefinition}
      (first : IsFirst (fun other => dialect.storageType? other.type = none) create.columns
        column) :
      Refuses dialect (.createTable create)
        (.unsupportedType ⟨create.table, column.name⟩ column.type dialect)
  | noRows {insert : Insert} (none : insert.rows = []) :
      Refuses dialect (.insert insert) (.noRows insert.table)
  | defaultRow {insert : Insert} (none : insert.columns = [])
      (filled : 1 < insert.rows.length ∨ ∃ row ∈ insert.rows, row ≠ []) :
      Refuses dialect (.insert insert) .defaultRow
  | rowLength {insert : Insert} {before after : List (List SqlValue)} {row : List SqlValue}
      (present : insert.columns ≠ []) (split : insert.rows = before ++ row :: after)
      (fit : ∀ earlier ∈ before, earlier.length = insert.columns.length)
      (other : row.length ≠ insert.columns.length) :
      Refuses dialect (.insert insert)
        (.rowLength before.length row.length insert.columns.length)
  | noColumns {select : Select} (none : select.columns = []) :
      Refuses dialect (.select select) .noColumns
  | noAssignments {update : Update} (none : update.assignments = []) :
      Refuses dialect (.update update) (.noAssignments update.table)
  | selectedBy {select : Select} {column : ColumnRef} (present : select.columns ≠ [])
      (compares : Condition.ComparesAbsent select.filter column) :
      Refuses dialect (.select select) (.nullComparison column)
  | updatedBy {update : Update} {column : ColumnRef} (present : update.assignments ≠ [])
      (compares : Condition.ComparesAbsent update.filter column) :
      Refuses dialect (.update update) (.nullComparison column)
  | deletedBy {delete : Delete} {column : ColumnRef}
      (compares : Condition.ComparesAbsent delete.filter column) :
      Refuses dialect (.delete delete) (.nullComparison column)

/-- Nothing of a statement is refused. -/
def Statement.Writable (dialect : Dialect) : Statement → Prop
  | createTable tree => ∀ column ∈ tree.columns, dialect.storageType? column.type ≠ none
  | insert tree => tree.Filled
  | select tree => tree.columns ≠ [] ∧ .null ∉ Condition.filterValues tree.filter
  | update tree => tree.assignments ≠ [] ∧ .null ∉ Condition.filterValues tree.filter
  | delete tree => .null ∉ Condition.filterValues tree.filter

/-- The statements differ at most in their joins and in the values that they insert or assign. -/
inductive Statement.SameBesideValuesAndJoins : Statement → Statement → Prop
  | insert {table : String} {columns : List String} {rows others : List (List SqlValue)}
      (lengths : rows.map List.length = others.map List.length) :
      SameBesideValuesAndJoins (.insert ⟨table, columns, rows⟩) (.insert ⟨table, columns, others⟩)
  | select {columns : List ColumnRef} {source : String} {joins others : List Join}
      {filter : Option Condition} :
      SameBesideValuesAndJoins (.select ⟨columns, source, joins, filter⟩)
        (.select ⟨columns, source, others, filter⟩)
  | update {table : String} {assignments assigned : List (String × SqlValue)}
      {joins others : List Join} {filter : Option Condition}
      (columns : assignments.map Prod.fst = assigned.map Prod.fst) :
      SameBesideValuesAndJoins (.update ⟨table, assignments, joins, filter⟩)
        (.update ⟨table, assigned, others, filter⟩)
  | delete {table : String} {joins others : List Join} {filter : Option Condition} :
      SameBesideValuesAndJoins (.delete ⟨table, joins, filter⟩) (.delete ⟨table, others, filter⟩)

theorem CreateTable.fault?_eq_some_iff {dialect : Dialect} {create : CreateTable}
    {fault : StatementFault} :
    create.fault? dialect = some fault ↔
      ∃ column, IsFirst (fun other => dialect.storageType? other.type = none) create.columns
        column ∧ fault = .unsupportedType ⟨create.table, column.name⟩ column.type dialect := by
  have lacks (column : ColumnDefinition) (reason : StatementFault) :
      (if dialect.supports column.type then none
        else some (.unsupportedType ⟨create.table, column.name⟩ column.type dialect)) =
          some reason ↔ dialect.storageType? column.type = none ∧
        reason = .unsupportedType ⟨create.table, column.name⟩ column.type dialect := by
    rw [Dialect.supports]
    cases dialect.storageType? column.type <;> simp [eq_comm]
  rw [fault?, findSome?_eq_some_iff_firstRefused]
  simp only [FirstRefused, lacks, exists_and_left, exists_eq, and_true]
  refine exists_congr fun column => and_congr_right fun first => and_iff_right first.1

theorem Insert.findSome?_rowLength_eq_some_iff {columns start : Nat}
    {rows : List (List SqlValue)} {fault : StatementFault} :
    ((rows.zipIdx start).findSome? fun (row, index) =>
        if row.length = columns then none else some (.rowLength index row.length columns)) =
          some fault ↔
      ∃ before row after, rows = before ++ row :: after ∧
        (∀ earlier ∈ before, earlier.length = columns) ∧ row.length ≠ columns ∧
        fault = .rowLength (start + before.length) row.length columns := by
  induction rows generalizing start with
  | nil => simp
  | cons first rest ih =>
      rw [List.zipIdx_cons, List.findSome?_cons]
      by_cases fits : first.length = columns
      · simp only [if_pos fits, ih]
        constructor
        · rintro ⟨before, row, after, rfl, fit, other, rfl⟩
          refine ⟨first :: before, row, after, rfl, List.forall_mem_cons.mpr ⟨fits, fit⟩, other, ?_⟩
          rw [List.length_cons, Nat.add_assoc, Nat.add_comm 1]
        · rintro ⟨before, row, after, split, fit, other, rfl⟩
          cases before with
          | nil =>
              obtain ⟨rfl, rfl⟩ := List.cons.inj split
              exact absurd fits other
          | cons earlier before =>
              obtain ⟨rfl, rfl⟩ := List.cons.inj split
              refine ⟨before, row, after, rfl, (List.forall_mem_cons.mp fit).2, other, ?_⟩
              rw [List.length_cons, Nat.add_assoc, Nat.add_comm 1]
      · simp only [if_neg fits]
        constructor
        · intro found
          obtain rfl := Option.some.inj found
          exact ⟨[], first, rest, rfl, List.forall_mem_nil _, fits, rfl⟩
        · rintro ⟨before, row, after, split, fit, other, rfl⟩
          cases before with
          | nil =>
              obtain ⟨rfl, rfl⟩ := List.cons.inj split
              rfl
          | cons earlier before =>
              obtain ⟨rfl, rfl⟩ := List.cons.inj split
              exact absurd (List.forall_mem_cons.mp fit).1 fits

namespace Statement

variable {dialect : Dialect} {statement other : Statement} {fault : StatementFault}

theorem insert_fault?_eq_some_iff {insert : Insert} :
    insert.fault? = some fault ↔ (Statement.insert insert).Refuses dialect fault := by
  have filled_iff (listed : insert.rows ≠ []) :
      (1 < insert.rows.length ∨ ∃ row ∈ insert.rows, row ≠ []) ↔ insert.rows ≠ [[]] := by
    obtain ⟨row, rest, rows_eq⟩ := List.exists_cons_of_ne_nil listed
    rw [rows_eq]
    cases rest <;> simp
  rw [Insert.fault?, ite_eq_iff, ite_eq_iff, ite_eq_iff, Insert.findSome?_rowLength_eq_some_iff]
  simp only [Nat.zero_add]
  constructor
  · rintro (⟨none, ⟨⟩⟩ | ⟨listed, ⟨none, ⟨-, ⟨⟩⟩ | ⟨many, ⟨⟩⟩⟩ | ⟨present, unequal⟩⟩)
    · exact .noRows none
    · exact .defaultRow none ((filled_iff listed).mpr many)
    · obtain ⟨before, row, after, split, fit, other, rfl⟩ := unequal
      exact .rowLength present split fit other
  · intro refuses
    cases refuses with
    | noRows none => exact .inl ⟨none, rfl⟩
    | defaultRow none filled =>
        have listed : insert.rows ≠ [] := by
          intro absent
          simp [absent] at filled
        exact .inr ⟨listed, .inl ⟨none, .inr ⟨(filled_iff listed).mp filled, rfl⟩⟩⟩
    | rowLength present split fit other =>
        have listed : insert.rows ≠ [] := by simp [split]
        exact .inr ⟨listed, .inr ⟨present, _, _, _, split, fit, other, rfl⟩⟩

/-- A statement is at fault for what it is refused for. -/
theorem fault?_eq_some_iff_refuses :
    statement.fault? dialect = some fault ↔ statement.Refuses dialect fault := by
  cases statement with
  | createTable tree =>
      refine CreateTable.fault?_eq_some_iff.trans ⟨?_, fun refuses => ?_⟩
      · rintro ⟨column, first, rfl⟩
        exact .unsupportedType first
      · cases refuses with
        | unsupportedType first => exact ⟨_, first, rfl⟩
  | insert tree => exact insert_fault?_eq_some_iff
  | select tree =>
      rw [fault?, ite_eq_iff, Condition.filterFault?_eq_some_iff]
      constructor
      · rintro (⟨none, ⟨⟩⟩ | ⟨present, column, compares, rfl⟩)
        · exact .noColumns none
        · exact .selectedBy present compares
      · intro refuses
        cases refuses with
        | noColumns none => exact .inl ⟨none, rfl⟩
        | selectedBy present compares => exact .inr ⟨present, _, compares, rfl⟩
  | update tree =>
      rw [fault?, ite_eq_iff, Condition.filterFault?_eq_some_iff]
      constructor
      · rintro (⟨none, ⟨⟩⟩ | ⟨present, column, compares, rfl⟩)
        · exact .noAssignments none
        · exact .updatedBy present compares
      · intro refuses
        cases refuses with
        | noAssignments none => exact .inl ⟨none, rfl⟩
        | updatedBy present compares => exact .inr ⟨present, _, compares, rfl⟩
  | delete tree =>
      refine Condition.filterFault?_eq_some_iff.trans ⟨?_, fun refuses => ?_⟩
      · rintro ⟨column, compares, rfl⟩
        exact .deletedBy compares
      · cases refuses with
        | deletedBy compares => exact ⟨_, compares, rfl⟩

/-- A statement is without faults if nothing of it is refused. -/
theorem fault?_eq_none_iff_writable :
    statement.fault? dialect = none ↔ statement.Writable dialect := by
  cases statement with
  | createTable tree =>
      rw [fault?, CreateTable.fault?, List.findSome?_eq_none_iff]
      refine forall₂_congr fun column _ => ?_
      rw [Dialect.supports]
      cases dialect.storageType? column.type <;> simp
  | insert tree =>
      refine ⟨fun sound => ?_, Insert.Filled.fault?_eq_none⟩
      obtain ⟨rows, single, lengths⟩ := Insert.fault?_eq_none sound
      exact ⟨rows, single, lengths⟩
  | select tree | update tree =>
      rw [fault?, Writable, ← Condition.filterFault?_eq_none]
      split <;> simp [*]
  | delete tree => exact Condition.filterFault?_eq_none

/-- The values that are inserted or assigned, and the joins, do not matter to the fault. -/
theorem SameBesideValuesAndJoins.fault?_eq (same : statement.SameBesideValuesAndJoins other) :
    statement.fault? dialect = other.fault? dialect := by
  cases same with
  | insert lengths => exact Insert.fault?_of_lengths lengths
  | select | delete => rfl
  | @update table assignments assigned joins others filter columns =>
      have none_iff : assignments = [] ↔ assigned = [] := by
        rw [← List.map_eq_nil_iff (f := Prod.fst), columns, List.map_eq_nil_iff]
      simp only [fault?, none_iff]

theorem write_eq_error_iff {error : Error} :
    statement.write dialect = .error error ↔
      ∃ fault, statement.fault? dialect = some fault ∧ .validation (.statement fault) = error := by
  simp only [write, mapError_eq_error, compile_eq_error]

end Statement

/-- A statement is refused with the error of its fault: the first column of a type that the dialect
lacks; no rows, rows without columns or the first row that does not go with the columns; no columns
to select; no assignments; or else the leftmost comparison with the absent value in the filter. It
has a text if there is none of these. Whatever values are inserted or assigned and whatever is
joined, a statement has the same error, or has a text. -/
theorem statements_refused_for_first_fault (dialect : Dialect) (statement : Statement) :
    (∀ error, statement.write dialect = .error error ↔
      ∃ fault, statement.Refuses dialect fault ∧ .validation (.statement fault) = error) ∧
      ((∃ compiled, statement.write dialect = .ok compiled) ↔ statement.Writable dialect) ∧
      ∀ other, statement.SameBesideValuesAndJoins other → ∀ error,
        statement.write dialect = .error error ↔ other.write dialect = .error error := by
  refine ⟨fun error => ?_, ?_, fun other same error => ?_⟩
  · simp only [Statement.write_eq_error_iff, Statement.fault?_eq_some_iff_refuses]
  · simp only [Statement.write, mapError_eq_ok, Statement.compile_eq_ok, exists_and_left,
      exists_eq', and_true, Statement.fault?_eq_none_iff_writable]
  · rw [Statement.write_eq_error_iff, Statement.write_eq_error_iff, same.fault?_eq]

namespace Statement

/-- An update whose filter compares two columns with the absent value deep inside. -/
def nestedComparisons (value : SqlValue) (joins : List Join) : Statement :=
  .update ⟨"t", [("a", value)], joins, some (.node .or (.atom (.test (.isNull ⟨"t", "a"⟩)))
    (.node .and (.atom (.test (.compare ⟨"t", "b"⟩ .eq (.text "x"))))
      (.node .or (.atom (.test (.compare ⟨"t", "c"⟩ .lt .null)))
        (.atom (.test (.compare ⟨"t", "d"⟩ .eq .null))))))⟩

/-- The first of the two comparisons is refused, whatever is assigned and joined. -/
theorem nested_comparison_refused :
    (nestedComparisons .null []).Refuses .sqlite (.nullComparison ⟨"t", "c"⟩) ∧
      ¬(nestedComparisons .null []).Writable .sqlite ∧
      ∀ value joins, (nestedComparisons value joins).write .sqlite =
        .error (.validation (.statement (.nullComparison ⟨"t", "c"⟩))) := by
  obtain ⟨error_iff, compiled_iff, same_errors⟩ :=
    statements_refused_for_first_fault .sqlite (nestedComparisons .null [])
  have fails : (nestedComparisons .null []).write .sqlite =
      .error (.validation (.statement (.nullComparison ⟨"t", "c"⟩))) := rfl
  refine ⟨?_, fun writable => ?_, fun value joins => ?_⟩
  · obtain ⟨fault, refuses, same⟩ := (error_iff _).mp fails
    cases same
    exact refuses
  · obtain ⟨compiled, compiles⟩ := compiled_iff.mpr writable
    cases fails.symm.trans compiles
  · exact (same_errors (nestedComparisons value joins) (.update rfl) _).mp fails

end Statement

end TableMapping
