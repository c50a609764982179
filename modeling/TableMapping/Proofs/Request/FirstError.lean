import TableMapping.Proofs.Request.Calls
import TableMapping.Proofs.Request.Obstacles

/-!
# First errors

The error of a request about rows is the first one in the order of the phases, not of the calls:
that of the first table, of the first join that is refused in the scope of the joins before it, of
the leftmost test that is refused in the final scope, of the first assignment that is refused, and
of the leftmost comparison with the absent value. Without any of these there is a statement. Behind
an error of the first table or of a join, no further call changes the error.
-/

namespace TableMapping

/-! ## Requests -/

namespace RowRequest

/-- The assignments of a request. Only an update has any. -/
def assignments : RowRequest → Assignments
  | update assignments => assignments
  | select | delete => []

/-- The error with which a request is refused: of the first phase in which something is refused, the
error of what is refused first in it. -/
inductive Refuses (registry : Registry) (source : Source) (request : RowRequest) : Error → Prop
  | tables {error : Error}
      (refused : Scope.RefusesSource registry source.root source.joins error) :
      Refuses registry source request error
  | test {scope : Scope} {error : Error}
      (covers : Scope.Covers registry source.root source.joins scope)
      (refused : FirstRefused scope.RefusesTest source.tests error) :
      Refuses registry source request error
  | assignment {scope : Scope} {error : Error}
      (covers : Scope.Covers registry source.root source.joins scope)
      (tests : NoneRefused scope.RefusesTest source.tests)
      (refused : FirstRefused scope.root.RefusesAssignment request.assignments error) :
      Refuses registry source request error
  | comparison {scope : Scope} {fault : StatementFault}
      (covers : Scope.Covers registry source.root source.joins scope)
      (tests : NoneRefused scope.RefusesTest source.tests)
      (assignments : NoneRefused scope.root.RefusesAssignment request.assignments)
      (refused : FirstRefused scope.ComparesNull source.tests fault) :
      Refuses registry source request (.validation (.statement fault))

/-- Nothing of a request is refused in any phase. -/
def Accepts (registry : Registry) (source : Source) (request : RowRequest) : Prop :=
  ∃ scope, Scope.Covers registry source.root source.joins scope ∧
    NoneRefused scope.RefusesTest source.tests ∧
    NoneRefused scope.root.RefusesAssignment request.assignments ∧
    NoneRefused scope.ComparesNull source.tests

variable {registry : Registry} {source : Source} {request : RowRequest} {error : Error}

theorem assigned_eq_error_iff {resolved : ResolvedSource} (sound : resolved.scope.root.Sound) :
    request.assigned resolved = .error error ↔
      FirstRefused resolved.scope.root.RefusesAssignment request.assignments error := by
  cases request with
  | select | delete =>
      exact iff_of_false (fun impossible => by cases impossible) firstRefused_nil
  | update assignments =>
      exact mapM_eq_error_iff_firstRefused (RowUpdate.assignment_eq_error_iff sound)

theorem fault?_tree {dialect : Dialect} {resolved : ResolvedSource}
    {assigned : List (String × SqlValue)} (filled : (request.tree resolved assigned).Filled) :
    (request.tree resolved assigned).fault? dialect =
      Condition.filterFault? resolved.filter := by
  cases request with
  | select => exact if_neg filled.1
  | update => exact if_neg filled.1
  | delete => rfl

end RowRequest

namespace Source

variable {registry : Registry} {source : Source} {error : Error}

/-- The error of a source is that of its tables, or else that of its first test that is refused. Its
joins can be written if they are accepted. -/
theorem resolve_eq_error_iff (valid : registry.Valid) :
    source.resolve registry = .error error ↔
      Scope.RefusesSource registry source.root source.joins error ∨
        ∃ scope, Scope.Covers registry source.root source.joins scope ∧
          FirstRefused scope.RefusesTest source.tests error := by
  rw [resolve, bind_eq_error]
  refine or_congr (Scope.ofSource_eq_error_iff_refuses valid) (exists_congr fun scope => ?_)
  rw [← Scope.ofSource_eq_ok_iff_covers valid]
  refine and_congr_right fun in_scope => ?_
  have sound := Scope.sound_of_ofSource valid in_scope
  obtain ⟨joins, written⟩ := sound.exists_joinClauses valid.toSound
  rw [bind_eq_error, sound.filter_eq_error_iff valid.toSound]
  refine or_iff_left ?_
  rintro ⟨filter, -, stops⟩
  rw [bind_pure_eq_error, written] at stops
  cases stops

/-- A source whose tables and tests are accepted has a resolved form, and no other one has. -/
theorem exists_resolve_iff (valid : registry.Valid) {scope : Scope} :
    (∃ resolved, source.resolve registry = .ok resolved ∧ resolved.scope = scope) ↔
      Scope.Covers registry source.root source.joins scope ∧
        NoneRefused scope.RefusesTest source.tests := by
  rw [← Scope.ofSource_eq_ok_iff_covers valid, ← not_firstRefused_iff]
  constructor
  · rintro ⟨resolved, resolves, rfl⟩
    obtain ⟨in_scope, filtered, -⟩ := resolve_eq_ok.mp resolves
    refine ⟨in_scope, fun error refused => ?_⟩
    have sound := Scope.sound_of_ofSource valid in_scope
    have unfiltered := (sound.filter_eq_error_iff valid.toSound).mpr refused
    cases filtered.symm.trans unfiltered
  · rintro ⟨in_scope, accepted⟩
    have sound := Scope.sound_of_ofSource valid in_scope
    obtain ⟨joins, written⟩ := sound.exists_joinClauses valid.toSound
    cases filtered : scope.filter source.filter with
    | error error =>
        exact absurd ((sound.filter_eq_error_iff valid.toSound).mp filtered) (accepted error)
    | ok filter =>
        exact ⟨⟨scope, joins, filter⟩, resolve_eq_ok.mpr ⟨in_scope, filtered, written⟩, rfl⟩

end Source

namespace RowRequest

variable {registry : Registry} {source : Source} {request : RowRequest} {error : Error}

theorem write_eq_error_iff (valid : registry.Valid) (runnable : request.Runnable)
    {resolved : ResolvedSource} {assigned : List (String × SqlValue)}
    (resolves : source.resolve registry = .ok resolved)
    (assigns : request.assigned resolved = .ok assigned) :
    (request.tree resolved assigned).write registry.dialect = .error error ↔
      ∃ fault, FirstRefused resolved.scope.ComparesNull source.tests fault ∧
        .validation (.statement fault) = error := by
  have filled : (request.tree resolved assigned).Filled :=
    filled_of_statement valid runnable (statement_eq_ok.mpr ⟨_, _, resolves, assigns, rfl⟩)
  obtain ⟨in_scope, filtered, -⟩ := Source.resolve_eq_ok.mp resolves
  have sound := Scope.sound_of_ofSource valid in_scope
  simp only [Statement.write, mapError_eq_error, Statement.compile_eq_error, fault?_tree filled,
    sound.filterFault?_eq_some_iff valid.toSound filtered]

/-- A request fails with the error for which it is refused. -/
theorem compile_eq_error_iff_refuses (valid : registry.Valid) (runnable : request.Runnable) :
    request.compile registry source = .error error ↔ request.Refuses registry source error := by
  have root_sound {resolved : ResolvedSource} (resolves : source.resolve registry = .ok resolved) :
      resolved.scope.root.Sound :=
    (Scope.sound_of_ofSource valid (Source.resolve_eq_ok.mp resolves).1).table_sound valid.toSound
      List.mem_cons_self
  simp only [compile_eq, statement_eq, bind_assoc, pure_bind, bind_eq_error]
  constructor
  · rintro (unresolved | ⟨resolved, resolves, stops⟩)
    · rcases (Source.resolve_eq_error_iff valid).mp unresolved with refused | ⟨_, covers, refused⟩
      · exact .tables refused
      · exact .test covers refused
    obtain ⟨covers, tests⟩ := (Source.exists_resolve_iff valid).mp ⟨resolved, resolves, rfl⟩
    have unassigned_iff (reason : Error) : request.assigned resolved = .error reason ↔
        FirstRefused resolved.scope.root.RefusesAssignment request.assignments reason :=
      assigned_eq_error_iff (root_sound resolves)
    rcases stops with unassigned | ⟨assigned, assigns, unwritten⟩
    · exact .assignment covers tests ((unassigned_iff error).mp unassigned)
    · obtain ⟨fault, refused, rfl⟩ :=
        (write_eq_error_iff valid runnable resolves assigns).mp unwritten
      refine .comparison covers tests (not_firstRefused_iff.mp fun reason first => ?_) refused
      cases assigns.symm.trans ((unassigned_iff reason).mpr first)
  · intro refuses
    cases refuses with
    | tables refused => exact .inl ((Source.resolve_eq_error_iff valid).mpr (.inl refused))
    | test covers refused =>
        exact .inl ((Source.resolve_eq_error_iff valid).mpr (.inr ⟨_, covers, refused⟩))
    | assignment covers tests refused =>
        obtain ⟨resolved, resolves, rfl⟩ :=
          (Source.exists_resolve_iff valid).mpr ⟨covers, tests⟩
        exact .inr ⟨resolved, resolves, .inl
          ((assigned_eq_error_iff (root_sound resolves)).mpr refused)⟩
    | @comparison _ fault covers tests assignments refused =>
        obtain ⟨resolved, resolves, rfl⟩ :=
          (Source.exists_resolve_iff valid).mpr ⟨covers, tests⟩
        -- The fault shows only in the text, so the assignments have to go through before.
        cases assigns : request.assigned resolved with
        | error reason =>
            have first := (assigned_eq_error_iff (root_sound resolves)).mp assigns
            exact absurd first (not_firstRefused_iff.mpr assignments reason)
        | ok assigned =>
            exact .inr ⟨resolved, resolves, .inr ⟨assigned, assigns,
              (write_eq_error_iff valid runnable resolves assigns).mpr ⟨fault, refused, rfl⟩⟩⟩

theorem Accepts.not_refuses (valid : registry.Valid) (accepts : request.Accepts registry source)
    (error : Error) : ¬request.Refuses registry source error := by
  obtain ⟨scope, covers, tests, assignments, comparisons⟩ := accepts
  have in_scope := (Scope.ofSource_eq_ok_iff_covers valid).mpr covers
  have same {other : Scope} (also : Scope.Covers registry source.root source.joins other) :
      Scope.ofSource registry source = .ok other :=
    (Scope.ofSource_eq_ok_iff_covers valid).mpr also
  intro refuses
  cases refuses with
  | tables refused =>
      have outside : Scope.ofSource registry source = .error error :=
        (Scope.ofSource_eq_error_iff_refuses valid).mpr refused
      cases in_scope.symm.trans outside
  | test also refused =>
      obtain rfl := Except.ok.inj (in_scope.symm.trans (same also))
      exact not_firstRefused_iff.mpr tests error refused
  | assignment also _ refused =>
      obtain rfl := Except.ok.inj (in_scope.symm.trans (same also))
      exact not_firstRefused_iff.mpr assignments error refused
  | comparison also _ _ refused =>
      obtain rfl := Except.ok.inj (in_scope.symm.trans (same also))
      exact not_firstRefused_iff.mpr comparisons _ refused

/-- A request has a statement if nothing of it is refused. -/
theorem exists_compile_iff_accepts (valid : registry.Valid) (runnable : request.Runnable) :
    (∃ compiled, request.compile registry source = .ok compiled) ↔
      request.Accepts registry source := by
  constructor
  · rintro ⟨compiled, compiles⟩
    have unrefused (error : Error) : ¬request.Refuses registry source error := fun refuses => by
      cases compiles.symm.trans ((compile_eq_error_iff_refuses valid runnable).mpr refuses)
    obtain ⟨resolved, _, resolves, -⟩ := tree_of_compile compiles
    obtain ⟨covers, tests⟩ := (Source.exists_resolve_iff valid).mp ⟨resolved, resolves, rfl⟩
    have assignments : NoneRefused resolved.scope.root.RefusesAssignment request.assignments :=
      not_firstRefused_iff.mp fun error refused =>
        unrefused error (.assignment covers tests refused)
    have comparisons : NoneRefused resolved.scope.ComparesNull source.tests :=
      not_firstRefused_iff.mp fun fault refused =>
        unrefused _ (.comparison covers tests assignments refused)
    exact ⟨_, covers, tests, assignments, comparisons⟩
  · intro accepts
    cases compiles : request.compile registry source with
    | error error =>
        have refuses := (compile_eq_error_iff_refuses valid runnable).mp compiles
        exact absurd refuses (accepts.not_refuses valid error)
    | ok compiled => exact ⟨compiled, rfl⟩

end RowRequest

theorem RowRequest.compile_of_refusesSource {registry : Registry} (valid : registry.Valid)
    {source : Source} {error : Error}
    (refused : Scope.RefusesSource registry source.root source.joins error)
    (request : RowRequest) : request.compile registry source = .error error := by
  have stops : Scope.ofSource registry source = .error error :=
    (Scope.ofSource_eq_error_iff_refuses valid).mpr refused
  rw [compile_eq, statement_eq, Source.resolve, stops]
  rfl

/-- A request about rows has the joins and the tests of its calls in order, and each property has
the value that it was assigned last, in the place where it was assigned first. Whatever is wrong
with it at the same time, it has a statement just if nothing of it is refused, and otherwise its
error is the first one by phase: that of its first table, of its first join that is refused, of its
leftmost test that is refused, of its first assignment that is refused, of its leftmost comparison
with the absent value. Further calls leave the error of a first table or of a join as it is. -/
theorem first_error_by_phase {registry : Registry} (built : registry.Built) (record : RecordType)
    (purpose : Purpose) (calls : List RequestCall)
    (assigns : purpose = .update → ∃ property value, .set property value ∈ calls) :
    (PendingRequest.ofCalls record purpose calls).Gathers record purpose calls ∧
      ((∃ compiled, (PendingRequest.ofCalls record purpose calls).compile registry = .ok compiled) ↔
        (PendingRequest.ofCalls record purpose calls).request.Accepts registry
          (PendingRequest.ofCalls record purpose calls).source) ∧
      (∀ error, (PendingRequest.ofCalls record purpose calls).compile registry = .error error ↔
        (PendingRequest.ofCalls record purpose calls).request.Refuses registry
          (PendingRequest.ofCalls record purpose calls).source error) ∧
      ∀ error, Scope.RefusesSource registry record (calls.filterMap RequestCall.join?) error →
        ∀ further,
          (PendingRequest.ofCalls record purpose (calls ++ further)).compile registry =
            .error error := by
  have valid := built.valid
  have gathers := PendingRequest.gathers_ofCalls record purpose calls
  have runnable := gathers.serves.runnable fun update none => by
    obtain ⟨property, value, listed⟩ := assigns update
    have kept : (property, value) ∈ calls.filterMap RequestCall.assignment? :=
      List.mem_filterMap.mpr ⟨_, listed, rfl⟩
    rw [none] at kept
    cases kept
  refine ⟨gathers, RowRequest.exists_compile_iff_accepts valid runnable,
    fun error => RowRequest.compile_eq_error_iff_refuses valid runnable,
    fun error refused further => RowRequest.compile_of_refusesSource valid ?_ _⟩
  have later := PendingRequest.gathers_ofCalls record purpose (calls ++ further)
  rw [later.root_eq, later.joins_eq, List.filterMap_append]
  exact refused.append _

namespace Staff

/-- An update of users with their roles in which the assignments, the filter and a comparison are
all at fault. -/
def mistakes : List RequestCall :=
  [.set "nickname" (.text "Doe"), .set "lastname" .null,
    .join ⟨.inner, role, ⟨user, "role_id"⟩⟩,
    .filter (Predicate.compare ⟨user, "alias"⟩ .eq .null),
    .combine .or (Predicate.isNull ⟨role, "label"⟩)]

/-- The roles are to be joined once more. -/
def rolesAgain : RequestCall := .join ⟨.leftOuter, role, ⟨user, "role_id"⟩⟩

/-- The second test is the first to be refused, before the assignments and the comparison in front
of it. If the roles are joined once more, that is the error from then on. -/
theorem needless_test_before_other_mistakes :
    (registry .sqlite).Built ∧ (∃ property value, .set property value ∈ mistakes) ∧
    (PendingRequest.ofCalls user .update mistakes).compile (registry .sqlite) =
      .error (.validation (.needlessNullTest ⟨"roles", "label"⟩)) ∧
    (PendingRequest.ofCalls user .update mistakes).request.Refuses (registry .sqlite)
      (PendingRequest.ofCalls user .update mistakes).source
      (.validation (.needlessNullTest ⟨"roles", "label"⟩)) ∧
    ∀ further,
      (PendingRequest.ofCalls user .update (mistakes ++ [rolesAgain] ++ further)).compile
        (registry .sqlite) = .error (.validation (.alreadyJoined "roles")) := by
  have built := registry_built .sqlite
  have assigns : ∃ property value, .set property value ∈ mistakes := ⟨_, _, List.mem_cons_self⟩
  obtain ⟨-, -, errors, -⟩ := first_error_by_phase built user .update mistakes fun _ => assigns
  obtain ⟨-, -, -, kept⟩ := first_error_by_phase built user .update (mistakes ++ [rolesAgain])
    fun _ => ⟨_, _, List.mem_cons_self⟩
  have refused : (PendingRequest.ofCalls user .update mistakes).compile (registry .sqlite) =
      .error (.validation (.needlessNullTest ⟨"roles", "label"⟩)) := rfl
  refine ⟨built, assigns, refused, (errors _).mp refused, kept _ ?_⟩
  obtain ⟨scope, in_scope, used⟩ : ∃ scope, Scope.ofSource (registry .sqlite)
      ⟨user, [⟨.inner, role, ⟨user, "role_id"⟩⟩], none⟩ = .ok scope ∧ role ∈ scope.records :=
    ⟨_, rfl, by decide⟩
  have covers := (Scope.ofSource_eq_ok_iff_covers built.valid).mp in_scope
  obtain ⟨roles, found, name_eq⟩ : ∃ roles, (registry .sqlite).table? role = some roles ∧
      roles.name = "roles" := ⟨_, rfl, rfl⟩
  rw [← name_eq]
  exact .join _ [] rfl covers (.repeated found used)

end Staff

end TableMapping