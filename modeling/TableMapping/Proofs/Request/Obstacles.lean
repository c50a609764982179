import Mathlib.Data.List.Induction
import TableMapping.Proofs.Request.Joining

/-!
# What is refused of a request

The tables of a request are covered by a scope if its joins are accepted one after the other, and
otherwise the first table or the first join that is refused decides. In a scope, a test is refused
that no column stands for or that is needless, an assignment that no column takes, and a comparison
with the absent value. Each phase stops at the first item that is refused.
-/

namespace TableMapping

namespace Scope

/-! ## First tables and joins -/

/-- The scope of a first table and joins that are accepted one after the other, each in the scope of
those before it. -/
inductive Covers (registry : Registry) (root : RecordType) : List JoinRequest → Scope → Prop
  | root {table : Table} (found : registry.table? root = some table) :
      Covers registry root [] ⟨table, []⟩
  | join {joins : List JoinRequest} {scope : Scope} {request : JoinRequest} {joined : Table}
      {on : List (PropertyKey × PropertyKey)} (earlier : Covers registry root joins scope)
      (found : registry.table? request.record = some joined)
      (unused : request.record ∉ scope.records) (connects : scope.Connects joined request on) :
      Covers registry root (joins ++ [request])
        ⟨scope.root, scope.joins ++ [⟨request.kind, joined, on⟩]⟩

/-- The error of a first table and joins that are not all accepted. Behind the first join that is
refused, any further ones may follow. -/
inductive RefusesSource (registry : Registry) (root : RecordType) (joins : List JoinRequest) :
    Error → Prop
  | root (unmapped : registry.table? root = none) :
      RefusesSource registry root joins (.validation (.unmappedRecord root))
  | join (before after : List JoinRequest) {request : JoinRequest} {scope : Scope} {error : Error}
      (joins_eq : joins = before ++ request :: after) (covers : Covers registry root before scope)
      (refused : Refuses registry scope request error) : RefusesSource registry root joins error

section Source

variable {registry : Registry} {root : RecordType} {joins : List JoinRequest} {error : Error}

theorem RefusesSource.append (refused : RefusesSource registry root joins error)
    (further : List JoinRequest) : RefusesSource registry root (joins ++ further) error := by
  cases refused with
  | root unmapped => exact .root unmapped
  | join before after joins_eq covers refused =>
      refine .join before (after ++ further) ?_ covers refused
      rw [joins_eq, List.append_assoc, List.cons_append]

theorem ofSource_concat (root : RecordType) (joins : List JoinRequest) (request : JoinRequest)
    (filter : Option Predicate) :
    ofSource registry ⟨root, joins ++ [request], filter⟩ =
      ofSource registry ⟨root, joins, filter⟩ >>= fun scope => scope.join registry request := by
  simp only [ofSource, List.foldlM_append, List.foldlM_cons, List.foldlM_nil, bind_pure, bind_assoc]

/-- A source has the scope that its first table and its joins are covered by, if there is one. -/
theorem ofSource_eq_ok_iff_covers (valid : registry.Valid) {source : Source} {scope : Scope} :
    ofSource registry source = .ok scope ↔ Covers registry source.root source.joins scope := by
  obtain ⟨root, joins, filter⟩ := source
  -- The last join comes off first, as it is looked at in the scope of those before it.
  induction joins using List.reverseRecOn generalizing scope with
  | nil =>
      rw [ofSource_eq_ok]
      constructor
      · rintro ⟨table, found, joined⟩
        obtain rfl := Except.ok.inj joined
        exact .root found
      · intro covers
        generalize listed : ([] : List JoinRequest) = joins at covers
        cases covers with
        | root found => exact ⟨_, found, rfl⟩
        | join => simp at listed
  | append_singleton joins request ih =>
      rw [ofSource_concat, bind_eq_ok]
      constructor
      · rintro ⟨before, in_scope, joins_on⟩
        have distinct := (sound_of_ofSource valid in_scope).records_nodup
        obtain ⟨joined, on, found, unused, connects, rfl⟩ :=
          (join_eq_ok_iff_connects distinct).mp joins_on
        exact .join (ih.mp in_scope) found unused connects
      · intro covers
        generalize listed : joins ++ [request] = all at covers
        cases covers with
        | root found => simp at listed
        | @join _ before _ joined on earlier found unused connects =>
            obtain ⟨rfl, rfl⟩ := List.append_singleton_inj.mp listed
            have in_scope := ih.mpr earlier
            have distinct := (sound_of_ofSource valid in_scope).records_nodup
            exact ⟨before, in_scope, (join_eq_ok_iff_connects distinct).mpr
              ⟨joined, on, found, unused, connects, rfl⟩⟩

/-- A source without a scope has the error of its first table or of its first join that is
refused. -/
theorem ofSource_eq_error_iff_refuses (valid : registry.Valid) {source : Source} :
    ofSource registry source = .error error ↔
      RefusesSource registry source.root source.joins error := by
  obtain ⟨root, joins, filter⟩ := source
  rw [ofSource, bind_eq_error]
  constructor
  · rintro (unmapped | ⟨table, found, stops⟩)
    · obtain ⟨none, rfl⟩ := expect_eq_error.mp unmapped
      exact .root none
    · obtain ⟨before, request, after, scope, split, folded, refused⟩ :=
        foldlM_eq_error_iff.mp stops
      have in_scope : ofSource registry ⟨root, before, filter⟩ = .ok scope :=
        ofSource_eq_ok.mpr ⟨table, expect_eq_ok.mp found, folded⟩
      have distinct := (sound_of_ofSource valid in_scope).records_nodup
      exact .join before after split ((ofSource_eq_ok_iff_covers valid).mp in_scope)
        ((join_eq_error_iff_refuses distinct).mp refused)
  · intro refused
    cases refused with
    | root unmapped => exact .inl (expect_eq_error.mpr ⟨unmapped, rfl⟩)
    | @join before after request scope _ split covers refused =>
        have in_scope : ofSource registry ⟨root, before, filter⟩ = .ok scope :=
          (ofSource_eq_ok_iff_covers valid).mpr covers
        have distinct := (sound_of_ofSource valid in_scope).records_nodup
        obtain ⟨table, found, folded⟩ := ofSource_eq_ok.mp in_scope
        exact .inr ⟨table, expect_eq_ok.mpr found, foldlM_eq_error_iff.mpr
          ⟨before, request, after, scope, split, folded,
            (join_eq_error_iff_refuses distinct).mpr refused⟩⟩

end Source

/-! ## Tests -/

/-- A table in scope stores a property in the column. -/
def Stores (scope : Scope) (key : PropertyKey) (table : Table) (column : Column) : Prop :=
  table ∈ scope.tables ∧ column ∈ table.columns ∧ key = table.key column.property.name

/-- The error with which a test is refused in a scope: no table stores its property, or it is a test
for presence of a column that always has a value. -/
inductive RefusesTest (scope : Scope) (test : Test PropertyKey) : Error → Prop
  | outside (unstored : ∀ table column, ¬scope.Stores test.column table column) :
      RefusesTest scope test (.validation (.outOfScope test.column))
  | needless {table : Table} {column : Column}
      (presence : test = .isNull test.column ∨ test = .isNotNull test.column)
      (stores : scope.Stores test.column table column) (required : column.nullable = false)
      (kept : ∀ joined ∈ scope.joins,
        joined.kind = .leftOuter → joined.table.record ≠ test.column.record) :
      RefusesTest scope test (.validation (.needlessNullTest (table.reference column)))

/-- The fault of a comparison with the absent value. -/
inductive ComparesNull (scope : Scope) (test : Test PropertyKey) : StatementFault → Prop
  | absent {comparison : Comparison} {table : Table} {column : Column}
      (compares : test = .compare test.column comparison .null)
      (stores : scope.Stores test.column table column) :
      ComparesNull scope test (.nullComparison (table.reference column))

namespace Sound

variable {registry : Registry} {scope : Scope} {key : PropertyKey} {error : Error}

theorem column_eq_ok_iff_stores (sound : scope.Sound registry) (registry_sound : registry.Sound)
    {table : Table} {column : Column} :
    scope.column key = .ok (table, column) ↔ scope.Stores key table column := by
  rw [Scope.column, expect_eq_ok, sound.column?_eq_some registry_sound, Stores]
  refine and_congr_right fun member => ?_
  exact (sound.table_sound registry_sound member).column?_eq_some

theorem column_eq_error_iff (sound : scope.Sound registry) (registry_sound : registry.Sound) :
    scope.column key = .error error ↔
      (∀ table column, ¬scope.Stores key table column) ∧
        .validation (.outOfScope key) = error := by
  simp only [← sound.column_eq_ok_iff_stores registry_sound, Scope.column, expect_eq_error,
    expect_eq_ok, Option.eq_none_iff_forall_ne_some, Prod.forall]

theorem reference_eq_error_iff (sound : scope.Sound registry) (registry_sound : registry.Sound) :
    scope.reference key = .error error ↔
      (∀ table column, ¬scope.Stores key table column) ∧
        .validation (.outOfScope key) = error :=
  bind_pure_eq_error.trans (sound.column_eq_error_iff registry_sound)

theorem nullableReference_eq_error_iff (sound : scope.Sound registry)
    (registry_sound : registry.Sound) :
    scope.nullableReference key = .error error ↔
      ((∀ table column, ¬scope.Stores key table column) ∧
        .validation (.outOfScope key) = error) ∨
      ∃ table column, scope.Stores key table column ∧ column.nullable = false ∧
        (∀ joined ∈ scope.joins, joined.kind = .leftOuter → joined.table.record ≠ key.record) ∧
        .validation (.needlessNullTest (table.reference column)) = error := by
  have present_iff (column : Column) :
      ¬(column.nullable = true ∨ scope.mayLack key.record = true) ↔
        column.nullable = false ∧
          ∀ joined ∈ scope.joins, joined.kind = .leftOuter → joined.table.record ≠ key.record := by
    simp [mayLack_eq_true]
  rw [Scope.nullableReference, bind_eq_error, sound.column_eq_error_iff registry_sound]
  refine or_congr_right ?_
  simp only [Prod.exists, sound.column_eq_ok_iff_stores registry_sound, bind_pure_eq_error,
    ensure_eq_error, present_iff, and_assoc]

theorem atom_eq_error_iff (sound : scope.Sound registry) (registry_sound : registry.Sound)
    (test : Test PropertyKey) (error : Error) :
    scope.atom test = .error error ↔ scope.RefusesTest test error := by
  have presence_iff (presence : test = .isNull test.column ∨ test = .isNotNull test.column) :
      scope.nullableReference test.column = .error error ↔ scope.RefusesTest test error := by
    rw [sound.nullableReference_eq_error_iff registry_sound]
    constructor
    · rintro (⟨unstored, rfl⟩ | ⟨table, column, stores, required, kept, rfl⟩)
      · exact .outside unstored
      · exact .needless presence stores required kept
    · intro refused
      cases refused with
      | outside unstored => exact .inl ⟨unstored, rfl⟩
      | needless _ stores required kept => exact .inr ⟨_, _, stores, required, kept, rfl⟩
  cases test with
  | compare key comparison value =>
      refine bind_pure_eq_error.trans ((sound.reference_eq_error_iff registry_sound).trans ?_)
      constructor
      · rintro ⟨unstored, rfl⟩
        exact .outside unstored
      · intro refused
        cases refused with
        | outside unstored => exact ⟨unstored, rfl⟩
        | needless presence => rcases presence with impossible | impossible <;> cases impossible
  | isNull key => exact bind_pure_eq_error.trans (presence_iff (.inl rfl))
  | isNotNull key => exact bind_pure_eq_error.trans (presence_iff (.inr rfl))

theorem fault?_atom_iff (sound : scope.Sound registry) (registry_sound : registry.Sound)
    {test : Test PropertyKey} {atom : Atom} (resolved : scope.atom test = .ok atom)
    (fault : StatementFault) : atom.fault? = some fault ↔ scope.ComparesNull test fault := by
  cases test with
  | compare key comparison value =>
      obtain ⟨reference, named, rfl⟩ : ∃ reference, scope.reference key = .ok reference ∧
          .test (.compare reference comparison value) = atom := by
        simpa [Scope.atom] using resolved
      constructor
      · intro faulty
        cases value <;> cases faulty
        obtain ⟨table, member, column, stored, key_eq, rfl⟩ :=
          (sound.reference_eq_ok registry_sound).mp named
        exact .absent rfl ⟨member, stored, key_eq⟩
      · rintro ⟨compares, member, stored, key_eq⟩
        cases compares
        have own := (sound.reference_eq_ok registry_sound).mpr ⟨_, member, _, stored, key_eq, rfl⟩
        rw [Except.ok.inj (named.symm.trans own)]
        rfl
  | isNull key | isNotNull key =>
      obtain ⟨reference, -, same⟩ := bind_eq_ok.mp resolved
      obtain rfl := pure_eq_ok.mp same
      refine iff_of_false (fun impossible => by cases impossible) ?_
      rintro ⟨compares, -⟩
      cases compares

end Sound

end Scope

namespace Scope.Sound

variable {registry : Registry} {scope : Scope} {source : Source}

theorem filter_eq_error_iff (sound : scope.Sound registry) (registry_sound : registry.Sound)
    {error : Error} :
    scope.filter source.filter = .error error ↔
      FirstRefused scope.RefusesTest source.tests error := by
  rw [Source.tests]
  cases source.filter with
  | none => exact iff_of_false (fun impossible => by cases impossible) firstRefused_nil
  | some predicate =>
      have stops : predicate.atoms.mapM scope.atom = .error error ↔ _ :=
        mapM_eq_error_iff_firstRefused (sound.atom_eq_error_iff registry_sound)
      exact bind_pure_eq_error.trans (Formula.mapM_atoms_eq_error_iff.symm.trans stops)

/-- The condition of a filter is at fault for the first test that compares with the absent value. -/
theorem filterFault?_eq_some_iff (sound : scope.Sound registry) (registry_sound : registry.Sound)
    {filter : Option Condition} (resolved : scope.filter source.filter = .ok filter)
    {fault : StatementFault} :
    Condition.filterFault? filter = some fault ↔
      FirstRefused scope.ComparesNull source.tests fault := by
  rw [Source.tests]
  revert resolved
  cases source.filter with
  | none =>
      intro resolved
      obtain rfl := Except.ok.inj resolved
      exact iff_of_false (fun impossible => by cases impossible) firstRefused_nil
  | some predicate =>
      intro resolved
      obtain ⟨condition, replaced, rfl⟩ := Scope.filter_some_eq_ok.mp resolved
      rw [Condition.filterFault?, Option.bind_some, Condition.fault?_eq_findSome?,
        findSome?_eq_some_iff_firstRefused]
      exact firstRefused_of_mapM (fun test atom => sound.fault?_atom_iff registry_sound)
        (Formula.mapM_atoms_of_traverse replaced)

end Scope.Sound

/-! ## Assignments -/

/-- The error with which an assignment to a property is refused: no column of the table stores the
property, or the column that does must have a value and is assigned none. -/
inductive Table.RefusesAssignment (table : Table) (assigned : String × SqlValue) : Error → Prop
  | unknown (unstored : ∀ column ∈ table.columns, column.property.name ≠ assigned.1) :
      RefusesAssignment table assigned
        (.validation (.unknownColumn (table.key assigned.1) table.name))
  | required {column : Column} (stored : column ∈ table.columns)
      (own : column.property.name = assigned.1) (absent : assigned.2 = .null)
      (required : column.nullable = false) :
      RefusesAssignment table assigned (.validation (.nullAssignment (table.reference column)))

/-- A property is assigned unless the assignment is refused. -/
theorem RowUpdate.assignment_eq_error_iff {table : Table} (sound : table.Sound)
    (assigned : String × SqlValue) (error : Error) :
    RowUpdate.assignment table assigned = .error error ↔
      table.RefusesAssignment assigned error := by
  rw [assignment, bind_eq_error, expect_eq_error, Option.eq_none_iff_forall_ne_some]
  constructor
  · rintro (⟨none, rfl⟩ | ⟨column, found, stops⟩)
    · exact .unknown fun column stored own =>
        none column (sound.columnOf?_eq_some.mpr ⟨stored, own⟩)
    · obtain ⟨stored, own⟩ := sound.columnOf?_eq_some.mp (expect_eq_ok.mp found)
      obtain ⟨needed, rfl⟩ := ensure_eq_error.mp (bind_pure_eq_error.mp stops)
      obtain ⟨absent, required⟩ := Classical.not_imp.mp needed
      exact .required stored own absent (Bool.not_eq_true _ ▸ required)
  · intro refused
    cases refused with
    | unknown unstored =>
        refine .inl ⟨fun column found => ?_, rfl⟩
        obtain ⟨stored, own⟩ := sound.columnOf?_eq_some.mp found
        exact unstored column stored own
    | required stored own absent required =>
        have found := sound.columnOf?_eq_some.mpr ⟨stored, own⟩
        refine .inr ⟨_, expect_eq_ok.mpr found, bind_pure_eq_error.mpr ?_⟩
        exact ensure_eq_error.mpr ⟨by simp [absent, required], rfl⟩

end TableMapping
