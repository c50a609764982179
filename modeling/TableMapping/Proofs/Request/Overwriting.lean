import TableMapping.Proofs.Agreement
import TableMapping.Proofs.Request.Absent
import TableMapping.Proofs.Request.FirstError

/-!
# Overwritten assignments

An update assigns each property once, in the place of its first assignment and with the value of its
last one. The values before the last one do not matter: whatever they are, the request comes out the
same.
-/

namespace TableMapping

/-! ## Values of tests -/

/-- The value that a test compares with. -/
def Test.value? {χ : Type} : Test χ → Option SqlValue
  | compare _ _ value => some value
  | isNull _ | isNotNull _ => none

/-- The values that the tests of a source compare with, from left to right. -/
def Source.values (source : Source) : List SqlValue := source.tests.filterMap Test.value?

namespace Scope

variable {scope : Scope}

theorem value?_atom {test : Test PropertyKey} {atom : Atom}
    (resolved : scope.atom test = .ok atom) : atom.value? = test.value? := by
  cases test with
  | compare key comparison value | isNull key | isNotNull key =>
      obtain ⟨reference, -, same⟩ := bind_eq_ok.mp resolved
      obtain rfl := pure_eq_ok.mp same
      rfl

theorem filterValues_filter {source : Source} {filter : Option Condition}
    (resolved : scope.filter source.filter = .ok filter) :
    Condition.filterValues filter = source.values := by
  rw [Source.values, Source.tests]
  revert resolved
  cases source.filter with
  | none =>
      intro resolved
      obtain rfl := Except.ok.inj resolved
      rfl
  | some predicate =>
      intro resolved
      obtain ⟨condition, replaced, rfl⟩ := filter_some_eq_ok.mp resolved
      have kept : condition.atoms.map Atom.value? = predicate.atoms.map Test.value? :=
        map_eq_of_mapM (fun _ _ => value?_atom) (Formula.mapM_atoms_of_traverse replaced)
      have same := congrArg (List.filterMap id) kept
      rwa [List.filterMap_map, List.filterMap_map] at same

end Scope

/-! ## Assignments that differ in one value -/

namespace Assignments

variable {assignments : Assignments} {property other : String} {value last : SqlValue}

theorem mem_properties_set :
    other ∈ (assignments.set property value).map Prod.fst ↔
      other ∈ assignments.map Prod.fst ∨ other = property := by
  rw [properties_set]
  split
  · rename_i assigned
    exact ⟨.inl, fun either => either.elim id fun same => same ▸ assigned⟩
  · rw [List.mem_append, List.mem_singleton]

theorem set_set : (assignments.set property value).set property last =
    assignments.set property last := by
  induction assignments with
  | nil => simp [set]
  | cons first rest ih =>
      by_cases same : first.1 = property
      · simp [set, same]
      · simp [set, same, ih]

/-- Assignments to different properties can change places, as long as the place of one of them is
taken before. -/
theorem set_comm (assigned : property ∈ assignments.map Prod.fst) (different : other ≠ property) :
    (assignments.set other value).set property last =
      (assignments.set property last).set other value := by
  induction assignments with
  | nil => cases assigned
  | cons first rest ih =>
      rcases eq_or_ne first.1 property with same | unequal
      · simp [set, same, different.symm]
      · have later : property ∈ rest.map Prod.fst :=
          (List.mem_cons.mp assigned).resolve_left unequal.symm
        by_cases taken : first.1 = other
        · simp [set, taken, different]
        · simp [set, taken, unequal, ih later]

end Assignments

namespace PendingRequest

/-- Two updates differ at most in the value of one property, which both assign. -/
inductive AgreeBut (property : String) : PendingRequest → PendingRequest → Prop
  | update {source : Source} {left right : Assignments}
      (in_left : property ∈ left.map Prod.fst) (in_right : property ∈ right.map Prod.fst)
      (overwritten : ∀ value, left.set property value = right.set property value) :
      AgreeBut property ⟨source, .update left⟩ ⟨source, .update right⟩

variable {property : String} {left right : PendingRequest}

theorem AgreeBut.call_set (agree : AgreeBut property left right) (value : SqlValue) :
    left.call (.set property value) = right.call (.set property value) := by
  cases agree with
  | update _ _ overwritten => rw [call, RowRequest.set, overwritten, call, RowRequest.set]

theorem AgreeBut.call (agree : AgreeBut property left right) (call : RequestCall) :
    AgreeBut property (left.call call) (right.call call) := by
  cases agree with
  | @update source left right in_left in_right overwritten =>
      cases call with
      | join | filter | combine => exact .update in_left in_right overwritten
      | set other value =>
          refine .update (Assignments.mem_properties_set.mpr (.inl in_left))
            (Assignments.mem_properties_set.mpr (.inl in_right)) fun last => ?_
          rcases eq_or_ne other property with rfl | different
          · rw [Assignments.set_set, Assignments.set_set, overwritten]
          · rw [Assignments.set_comm in_left different, Assignments.set_comm in_right different,
              overwritten]

theorem AgreeBut.calls (agree : AgreeBut property left right) (calls : List RequestCall) :
    AgreeBut property (calls.foldl PendingRequest.call left)
      (calls.foldl PendingRequest.call right) := by
  induction calls generalizing left right with
  | nil => exact agree
  | cons call rest ih => exact ih (agree.call call)

theorem agreeBut_set (source : Source) (assignments : Assignments) (property : String)
    (one another : SqlValue) :
    AgreeBut property (call ⟨source, .update assignments⟩ (.set property one))
      (call ⟨source, .update assignments⟩ (.set property another)) :=
  .update (Assignments.mem_properties_set.mpr (.inr rfl))
    (Assignments.mem_properties_set.mpr (.inr rfl)) fun _ => by
      rw [Assignments.set_set, Assignments.set_set]

theorem ofCalls_update (record : RecordType) (calls : List RequestCall) :
    ∃ assignments, (ofCalls record .update calls).request = .update assignments ∧
      assignments.Collects (calls.filterMap RequestCall.assignment?) := by
  have serves := (gathers_ofCalls record .update calls).serves
  revert serves
  cases (ofCalls record .update calls).request with
  | select | delete => rintro ⟨⟩
  | update assignments =>
      intro serves
      cases serves with
      | update collects => exact ⟨assignments, rfl, collects⟩

/-- A value that is assigned and later replaced does not matter to an update. -/
theorem ofCalls_overwritten (record : RecordType) (before middle after : List RequestCall)
    (property : String) (one another last : SqlValue) :
    ofCalls record .update
        (before ++ .set property one :: (middle ++ .set property last :: after)) =
      ofCalls record .update
        (before ++ .set property another :: (middle ++ .set property last :: after)) := by
  obtain ⟨assignments, request_eq, -⟩ := ofCalls_update record before
  have start : before.foldl call ⟨Source.all record, Purpose.update.request⟩ =
      ⟨(ofCalls record .update before).source, .update assignments⟩ := by
    rw [← request_eq]
    rfl
  rw [ofCalls, ofCalls, List.foldl_append, List.foldl_append, start]
  simp only [List.foldl_cons, List.foldl_append]
  rw [((agreeBut_set _ assignments property one another).calls middle).call_set last]

end PendingRequest

/-! ## Columns of an update -/

/-- A column is assigned the value that is handed to the database for the one of its property. -/
def Table.Assigns (table : Table) (dialect : Dialect) (assigned entry : String × SqlValue) : Prop :=
  ∃ column ∈ table.columns, column.property.name = assigned.1 ∧
    entry = (column.name, dialect.bind assigned.2)

/-- Different properties are different columns, so that no column is assigned twice. -/
theorem Table.Sound.nodup_of_assigns {table : Table} (sound : table.Sound) {dialect : Dialect}
    {assignments : Assignments} {entries : List (String × SqlValue)}
    (assigns : List.Forall₂ (table.Assigns dialect) assignments entries)
    (distinct : (assignments.map Prod.fst).Nodup) : (entries.map Prod.fst).Nodup := by
  induction assigns with
  | nil => exact List.nodup_nil
  | @cons first entry assignments entries assigned rest ih =>
      obtain ⟨fresh, distinct⟩ := List.nodup_cons.mp distinct
      refine List.nodup_cons.mpr ⟨fun again => fresh ?_, ih distinct⟩
      obtain ⟨later, listed, same_name⟩ := List.mem_map.mp again
      obtain ⟨other, other_listed, other_assigned⟩ := exists_of_mem_forall₂ rest listed
      obtain ⟨column, stored, own, rfl⟩ := assigned
      obtain ⟨other_column, other_stored, other_own, rfl⟩ := other_assigned
      obtain rfl : other_column = column :=
        List.inj_on_of_nodup_map sound.names_nodup other_stored stored same_name
      exact List.mem_map.mpr ⟨other, other_listed, other_own.symm.trans own⟩

namespace RowRequest

variable {registry : Registry} {source : Source} {assignments : Assignments}
  {compiled : CompiledStatement}

/-- A compiled update assigns the columns of its properties in their order, and its parameters are
the assigned values and then those of its tests. -/
theorem assigns_of_compile (valid : registry.Valid)
    (compiles : (update assignments).compile registry source = .ok compiled) :
    ∃ root entries, registry.table? source.root = some root ∧
      compiled.assignments? registry.dialect = some entries ∧
      List.Forall₂ (root.Assigns registry.dialect) assignments entries ∧
      compiled.parameters = entries.map Prod.snd ++ source.values.map registry.dialect.bind := by
  rw [compile_eq] at compiles
  obtain ⟨_, asked, written⟩ := bind_eq_ok.mp compiles
  obtain ⟨resolved, assigned, found, assigns, rfl⟩ := statement_eq_ok.mp asked
  have writes := mapError_eq_ok.mp written
  have root_found := (Source.sound_of_resolve valid found).root_found
  have root_sound := valid.tables_sound _ (Registry.table?_eq_some root_found).1
  have columns : List.Forall₂ (resolved.scope.root.Assigns registry.dialect) assignments
      (assigned.map fun entry => (entry.1, registry.dialect.bind entry.2)) := by
    refine List.forall₂_map_right_iff.mpr (forall₂_of_mapM (fun given entry goes => ?_) assigns)
    simp only [RowUpdate.assignment, bind_eq_ok, expect_eq_ok, ensure_eq_ok, pure_eq_ok] at goes
    obtain ⟨column, stores, -, -, rfl⟩ := goes
    obtain ⟨stored, own⟩ := root_sound.columnOf?_eq_some.mp stores
    exact ⟨column, stored, own, rfl⟩
  refine ⟨resolved.scope.root, _, root_found, CompiledStatement.assignments?_compile writes,
    columns, ?_⟩
  rw [Statement.parameters_of_compile writes,
    ← Scope.filterValues_filter (Source.resolve_eq_ok.mp found).2.1]
  simp [tree, Statement.values, Update.boundAssignments, Function.comp_def]

/-- A value is missed by an assignment just if the first assignment that is refused misses it. -/
theorem compile_eq_nullAssignment_iff (valid : registry.Valid)
    (runnable : (update assignments).Runnable) {reference : ColumnRef} :
    (update assignments).compile registry source =
        .error (.validation (.nullAssignment reference)) ↔
      ∃ scope, Scope.Covers registry source.root source.joins scope ∧
        NoneRefused scope.RefusesTest source.tests ∧
        FirstRefused scope.root.RefusesAssignment assignments
          (.validation (.nullAssignment reference)) := by
  rw [compile_eq_error_iff_refuses valid runnable]
  constructor
  · intro refuses
    generalize error_eq : Error.validation (.nullAssignment reference) = error at refuses
    cases refuses with
    | tables refused =>
        rcases refused with unmapped | ⟨before, after, split, covers, joined⟩
        · cases error_eq
        · cases joined <;> cases error_eq
    | test covers refused =>
        obtain ⟨test, -, stops⟩ := refused
        cases stops <;> cases error_eq
    | assignment covers tests refused => exact ⟨_, covers, tests, error_eq ▸ refused⟩
    | comparison covers tests assigned refused =>
        obtain ⟨test, -, stops⟩ := refused
        cases stops
        cases error_eq
  · rintro ⟨scope, covers, tests, refused⟩
    exact .assignment covers tests refused

end RowRequest

/-- The assignments of an update are a map from properties to values, in the order of the first
assignments. Its text assigns the column of each property once, no column twice, and the value that
the property was assigned last, in the form in which the database takes it; these values are the
first parameters, in front of those of the filter. The update is refused for an absent value just
if, behind tables and tests that are accepted, the first of the map's assignments that is refused
has this value. With any other value in a call that a later one overwrites, the update is the same,
so that it also has the same statement or the same error. -/
theorem updates_assign_last_values {registry : Registry} (built : registry.Built)
    (record : RecordType) (calls : List RequestCall)
    (assigns : ∃ property value, .set property value ∈ calls) :
    (∃ source assignments,
      PendingRequest.ofCalls record .update calls = ⟨source, .update assignments⟩ ∧
      assignments.Collects (calls.filterMap RequestCall.assignment?) ∧
      (∀ compiled,
        (PendingRequest.ofCalls record .update calls).compile registry = .ok compiled →
          ∃ root entries, registry.table? record = some root ∧
            compiled.assignments? registry.dialect = some entries ∧
            List.Forall₂ (root.Assigns registry.dialect) assignments entries ∧
            (entries.map Prod.fst).Nodup ∧
            compiled.parameters =
              entries.map Prod.snd ++ source.values.map registry.dialect.bind) ∧
      ∀ reference, (PendingRequest.ofCalls record .update calls).compile registry =
          .error (.validation (.nullAssignment reference)) ↔
        ∃ scope, Scope.Covers registry record source.joins scope ∧
          NoneRefused scope.RefusesTest source.tests ∧
          FirstRefused scope.root.RefusesAssignment assignments
            (.validation (.nullAssignment reference))) ∧
      ∀ before middle after property overwritten other last,
        calls = before ++ .set property overwritten :: (middle ++ .set property last :: after) →
          PendingRequest.ofCalls record .update calls = PendingRequest.ofCalls record .update
            (before ++ .set property other :: (middle ++ .set property last :: after)) := by
  have valid := built.valid
  have gathers := PendingRequest.gathers_ofCalls record .update calls
  have runnable := gathers.serves.runnable fun _ none => by
    obtain ⟨property, value, listed⟩ := assigns
    have kept : (property, value) ∈ calls.filterMap RequestCall.assignment? :=
      List.mem_filterMap.mpr ⟨_, listed, rfl⟩
    rw [none] at kept
    cases kept
  have root_eq := gathers.root_eq
  obtain ⟨assignments, request_eq, collects⟩ := PendingRequest.ofCalls_update record calls
  refine ⟨⟨(PendingRequest.ofCalls record .update calls).source, assignments, ?_, collects,
    fun compiled compiles => ?_, fun reference => ?_⟩, ?_⟩
  · rw [← request_eq]
  · rw [PendingRequest.compile, request_eq] at compiles
    obtain ⟨root, entries, found, read, columns, parameters⟩ :=
      RowRequest.assigns_of_compile valid compiles
    rw [root_eq] at found
    have sound := valid.tables_sound root (Registry.table?_eq_some found).1
    exact ⟨root, entries, found, read, columns,
      sound.nodup_of_assigns columns collects.properties_nodup, parameters⟩
  · rw [request_eq] at runnable
    rw [PendingRequest.compile, request_eq,
      RowRequest.compile_eq_nullAssignment_iff valid runnable, root_eq]
  · rintro before middle after property overwritten other last rfl
    exact PendingRequest.ofCalls_overwritten record before middle after property overwritten other
      last

namespace Staff

/-- The last name is taken away at first and then given anew. -/
def nameCalls : List RequestCall :=
  [.set "lastname" .null, .set "alias" .null,
    .filter (Predicate.eq ⟨user, "lastname"⟩ (.text "Roe")), .set "lastname" (.text "Doe")]

/-- The update assigns the new name in front of the alias and does not fail, whatever the name was
at first. It is refused if the name is taken away once more. -/
theorem last_name_overwrites :
    (∃ compiled root entries,
      (PendingRequest.ofCalls user .update nameCalls).compile (registry .sqlite) = .ok compiled ∧
      (registry .sqlite).table? user = some root ∧
      compiled.assignments? .sqlite = some entries ∧
      entries = [("lname", .text "Doe"), ("alias", .null)] ∧ (entries.map Prod.fst).Nodup ∧
      compiled.parameters = [.text "Doe", .null, .text "Roe"]) ∧
      (∀ first, PendingRequest.ofCalls user .update nameCalls =
        PendingRequest.ofCalls user .update (.set "lastname" first :: nameCalls.tail)) ∧
      ∃ scope, Scope.Covers (registry .sqlite) user [] scope ∧
        FirstRefused scope.root.RefusesAssignment [("lastname", .null), ("alias", .null)]
          (.validation (.nullAssignment ⟨"users", "lname"⟩)) := by
  have built := registry_built .sqlite
  obtain ⟨⟨source, assignments, request_eq, -, compiles_to, -⟩, overwritten⟩ :=
    updates_assign_last_values built user nameCalls ⟨_, _, List.mem_cons_self⟩
  obtain ⟨⟨later, removed, later_eq, -, -, refuses⟩, -⟩ :=
    updates_assign_last_values built user (nameCalls ++ [.set "lastname" .null])
      ⟨_, _, List.mem_cons_self⟩
  refine ⟨?_, fun first => ?_, ?_⟩
  · obtain ⟨compiled, compiles, written⟩ : ∃ compiled,
        (PendingRequest.ofCalls user .update nameCalls).compile (registry .sqlite) = .ok compiled ∧
        (Statement.update ⟨"users", [("lname", .text "Doe"), ("alias", .null)], [],
            some (.atom (.test (.compare ⟨"users", "lname"⟩ .eq (.text "Roe"))))⟩).compile .sqlite =
          .ok compiled :=
      ⟨_, rfl, rfl⟩
    obtain ⟨root, entries, found, read, -, distinct, parameters⟩ := compiles_to compiled compiles
    have listed : entries = [("lname", .text "Doe"), ("alias", .null)] :=
      Option.some.inj (read.symm.trans (CompiledStatement.assignments?_compile written))
    obtain ⟨rfl, -⟩ := PendingRequest.mk.inj request_eq
    refine ⟨compiled, root, entries, compiles, found, read, listed, distinct, ?_⟩
    rw [parameters, listed]
    rfl
  · exact overwritten [] nameCalls.tail.dropLast [] "lastname" .null first (.text "Doe") rfl
  · obtain ⟨rfl, assigns⟩ := PendingRequest.mk.inj later_eq
    obtain rfl := RowRequest.update.inj assigns
    obtain ⟨scope, covers, -, refused⟩ := (refuses ⟨"users", "lname"⟩).mp rfl
    exact ⟨scope, covers, refused⟩

end Staff

end TableMapping
