import TableMapping.Proofs.Request.Rows

/-!
# Requests that are refused

Why a request about the rows of a source has no statement. A needless test for presence is only
reported of a filter whose tables are all in scope, and a fault of the statement itself only when
its text is written.
-/

namespace TableMapping

/-- The errors with which a request about rows is refused before its statement is written, except
for needless tests for presence. -/
inductive Error.Refusal : Error → Prop
  | mapping (fault : MappingFault) : Refusal (.mapping fault)
  | unmappedRecord (record : RecordType) : Refusal (.validation (.unmappedRecord record))
  | alreadyJoined (table : String) : Refusal (.validation (.alreadyJoined table))
  | unrelatedColumn (key : PropertyKey) (table : String) :
      Refusal (.validation (.unrelatedColumn key table))
  | outOfScope (key : PropertyKey) : Refusal (.validation (.outOfScope key))
  | unknownColumn (key : PropertyKey) (table : String) :
      Refusal (.validation (.unknownColumn key table))
  | nullAssignment (column : ColumnRef) : Refusal (.validation (.nullAssignment column))

theorem Formula.exists_of_traverse_eq_error {α β ε : Type} {replace : α → Except ε β}
    {formula : Formula α} {fault : ε} (stops : formula.traverse replace = .error fault) :
    ∃ atom ∈ formula.atoms, replace atom = .error fault :=
  exists_of_mapM_eq_error (mapM_atoms_eq_error_iff.mpr stops)

namespace Scope

variable {registry : Registry} {scope : Scope} {error : Error}

/-! ## Tables in scope -/

theorem refusal_of_requested {record : RecordType}
    (refused : registry.requested record = .error error) : error.Refusal := by
  obtain ⟨-, rfl⟩ := expect_eq_error.mp refused
  exact .unmappedRecord record

theorem refusal_of_pairs {joined : Table} {request : JoinRequest}
    (refused : scope.pairs joined request = .error error) : error.Refusal := by
  unfold pairs at refused
  split at refused
  · obtain ⟨-, rfl⟩ := expect_eq_error.mp refused
    exact .mapping _
  · split at refused
    · obtain ⟨-, rfl⟩ := expect_eq_error.mp refused
      exact .mapping _
    · cases refused
      exact .unrelatedColumn _ _

theorem refusal_of_join {request : JoinRequest}
    (refused : scope.join registry request = .error error) : error.Refusal := by
  unfold join at refused
  rcases bind_eq_error.mp refused with unmapped | ⟨joined, -, refused⟩
  · exact refusal_of_requested unmapped
  rcases bind_eq_error.mp refused with again | ⟨_, -, refused⟩
  · obtain ⟨-, rfl⟩ := ensure_eq_error.mp again
    exact .alreadyJoined _
  exact refusal_of_pairs (bind_pure_eq_error.mp refused)

theorem refusal_of_ofSource {source : Source}
    (refused : ofSource registry source = .error error) : error.Refusal := by
  unfold ofSource at refused
  rcases bind_eq_error.mp refused with unmapped | ⟨root, -, refused⟩
  · exact refusal_of_requested unmapped
  · obtain ⟨_, request, -, stops⟩ := exists_of_foldlM_eq_error refused
    exact refusal_of_join stops

/-! ## Columns in scope -/

theorem refusal_of_reference {key : PropertyKey}
    (refused : scope.reference key = .error error) : error.Refusal := by
  obtain ⟨-, rfl⟩ := expect_eq_error.mp (bind_pure_eq_error.mp refused)
  exact .outOfScope key

theorem refusal_of_joinClause {joined : JoinedTable}
    (refused : scope.joinClause joined = .error error) : error.Refusal := by
  obtain ⟨pair, -, stops⟩ := exists_of_mapM_eq_error (bind_pure_eq_error.mp refused)
  rcases bind_eq_error.mp stops with left | ⟨_, -, stops⟩
  · exact refusal_of_reference left
  · exact refusal_of_reference (bind_pure_eq_error.mp stops)

/-- The reference names a column in scope that always has a value: it is not nullable, and no join
keeps rows that lack the records of its table. -/
def Required (scope : Scope) (reference : ColumnRef) : Prop :=
  ∃ key table column, scope.column? key = some (table, column) ∧ column.nullable = false ∧
    scope.mayLack key.record = false ∧ table.reference column = reference

theorem refusal_of_nullableReference {key : PropertyKey}
    (refused : scope.nullableReference key = .error error) :
    error.Refusal ∨ ∃ reference, scope.Required reference ∧
      error = .validation (.needlessNullTest reference) := by
  unfold nullableReference at refused
  rcases bind_eq_error.mp refused with outside | ⟨⟨table, column⟩, found, refused⟩
  · obtain ⟨-, rfl⟩ := expect_eq_error.mp outside
    exact .inl (.outOfScope key)
  obtain ⟨present, rfl⟩ := ensure_eq_error.mp (bind_pure_eq_error.mp refused)
  simp only [not_or, Bool.not_eq_true] at present
  exact .inr ⟨_, ⟨key, table, column, expect_eq_ok.mp found, present.1, present.2, rfl⟩, rfl⟩

theorem refusal_of_atom {test : Test PropertyKey} (refused : scope.atom test = .error error) :
    error.Refusal ∨ ∃ reference, scope.Required reference ∧
      error = .validation (.needlessNullTest reference) := by
  cases test with
  | compare key comparison value =>
      exact .inl (refusal_of_reference (bind_pure_eq_error.mp refused))
  | isNull key | isNotNull key =>
      exact refusal_of_nullableReference (bind_pure_eq_error.mp refused)

theorem refusal_of_filter {predicate : Option Predicate}
    (refused : scope.filter predicate = .error error) :
    error.Refusal ∨ ∃ reference, scope.Required reference ∧
      error = .validation (.needlessNullTest reference) := by
  cases predicate with
  | none => cases refused
  | some predicate =>
      obtain ⟨test, -, stops⟩ :=
        Formula.exists_of_traverse_eq_error (bind_pure_eq_error.mp refused)
      exact refusal_of_atom stops

end Scope

/-! ## Requests -/

namespace RowRequest

variable {registry : Registry} {source : Source} {request : RowRequest} {error : Error}

theorem refusal_of_assigned {resolved : ResolvedSource}
    (refused : request.assigned resolved = .error error) : error.Refusal := by
  cases request with
  | select | delete => cases refused
  | update assignments =>
      obtain ⟨assigned, -, stops⟩ := exists_of_mapM_eq_error refused
      unfold RowUpdate.assignment at stops
      rcases bind_eq_error.mp stops with unknown | ⟨column, -, stops⟩
      · obtain ⟨-, rfl⟩ := expect_eq_error.mp unknown
        exact .unknownColumn _ _
      obtain ⟨-, rfl⟩ := ensure_eq_error.mp (bind_pure_eq_error.mp stops)
      exact .nullAssignment _

/-- A request without a statement is refused, or its filter has a needless test for presence. -/
theorem refusal_of_statement (refused : request.statement registry source = .error error) :
    error.Refusal ∨ ∃ scope reference, Scope.ofSource registry source = .ok scope ∧
      scope.Required reference ∧ error = .validation (.needlessNullTest reference) := by
  rw [statement_eq] at refused
  rcases bind_eq_error.mp refused with unresolved | ⟨resolved, -, refused⟩
  · unfold Source.resolve at unresolved
    rcases bind_eq_error.mp unresolved with outside | ⟨scope, in_scope, unresolved⟩
    · exact .inl (Scope.refusal_of_ofSource outside)
    rcases bind_eq_error.mp unresolved with unfiltered | ⟨_, -, unresolved⟩
    · rcases Scope.refusal_of_filter unfiltered with refusal | ⟨reference, required, rfl⟩
      · exact .inl refusal
      · exact .inr ⟨scope, reference, in_scope, required, rfl⟩
    obtain ⟨joined, -, stops⟩ := exists_of_mapM_eq_error (bind_pure_eq_error.mp unresolved)
    exact .inl (Scope.refusal_of_joinClause stops)
  · exact .inl (refusal_of_assigned (bind_pure_eq_error.mp refused))

theorem statement_of_compile_eq_error {fault : StatementFault}
    (refused : request.compile registry source = .error (.validation (.statement fault))) :
    ∃ statement, request.statement registry source = .ok statement ∧
      statement.fault? registry.dialect = some fault := by
  rw [compile_eq] at refused
  rcases bind_eq_error.mp refused with unstated | ⟨statement, asked, unwritten⟩
  · rcases refusal_of_statement unstated with refusal | ⟨_, _, -, -, impossible⟩
    · cases refusal
    · cases impossible
  · obtain ⟨other, found, same⟩ := mapError_eq_error.mp unwritten
    cases same
    exact ⟨statement, asked, Statement.compile_eq_error.mp found⟩

end RowRequest

end TableMapping
