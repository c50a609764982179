import Mathlib.Data.List.Induction
import TableMapping.Proofs.FirstItem
import TableMapping.Proofs.Request.Written

/-!
# Requests that are put together

A request about rows is put together call by call. It has the joins of the calls in order, the tests
of the predicates from left to right, and each property with the value that it was assigned last, in
the place where it was assigned first.
-/

namespace TableMapping

/-! ## Assignments -/

namespace Assignments

/-- The assignments that come of several ones made in order: the properties stand in the order in
which they were first assigned, and each has the value that it was assigned last. -/
structure Collects (sets : List (String × SqlValue)) (assignments : Assignments) : Prop where
  properties_eq : assignments.map Prod.fst = (sets.map Prod.fst).eraseDups
  properties_nodup : (assignments.map Prod.fst).Nodup
  isLast : ∀ assigned ∈ assignments,
    IsFirst (fun other => other.1 = assigned.1) sets.reverse assigned

variable {sets : List (String × SqlValue)} {assignments : Assignments} {property : String}
  {value : SqlValue}

theorem properties_set :
    (assignments.set property value).map Prod.fst =
      if property ∈ assignments.map Prod.fst then assignments.map Prod.fst
      else assignments.map Prod.fst ++ [property] := by
  induction assignments with
  | nil => rfl
  | cons first rest ih =>
      rw [set]
      split
      · simp_all
      · rename_i other
        simp only [List.map_cons, ih, List.mem_cons, Ne.symm other, false_or]
        split <;> rfl

theorem mem_set (distinct : (assignments.map Prod.fst).Nodup) {assigned : String × SqlValue}
    (member : assigned ∈ assignments.set property value) :
    assigned = (property, value) ∨ assigned ∈ assignments ∧ assigned.1 ≠ property := by
  induction assignments with
  | nil => exact .inl (List.mem_singleton.mp member)
  | cons first rest ih =>
      obtain ⟨fresh, distinct⟩ := List.nodup_cons.mp distinct
      rw [set] at member
      split at member
      · rename_i same
        rcases List.mem_cons.mp member with rfl | later
        · exact .inl rfl
        · refine .inr ⟨List.mem_cons_of_mem _ later, fun again => fresh ?_⟩
          rw [same, ← again]
          exact List.mem_map_of_mem later
      · rename_i other
        rcases List.mem_cons.mp member with rfl | later
        · exact .inr ⟨List.mem_cons_self, other⟩
        · rcases ih distinct later with own | ⟨listed, different⟩
          · exact .inl own
          · exact .inr ⟨List.mem_cons_of_mem _ listed, different⟩

theorem Collects.nil : Collects [] [] := ⟨rfl, List.nodup_nil, List.forall_mem_nil _⟩

/-- One more assignment goes behind the earlier ones or in the place of one of them. -/
theorem Collects.set (collects : assignments.Collects sets) (property : String)
    (value : SqlValue) :
    (assignments.set property value).Collects (sets ++ [(property, value)]) where
  properties_eq := by
    have assigned_iff : property ∈ assignments.map Prod.fst ↔ property ∈ sets.map Prod.fst := by
      rw [collects.properties_eq, List.mem_eraseDups]
    rw [properties_set, List.map_append, List.eraseDups_append, ← collects.properties_eq]
    split
    · rename_i assigned
      simp [List.removeAll, assigned_iff.mp assigned]
    · rename_i fresh
      simp [List.removeAll, mt assigned_iff.mpr fresh, List.eraseDups_cons]
  properties_nodup := by
    rw [properties_set]
    split
    · exact collects.properties_nodup
    · rename_i fresh
      exact List.nodup_append.mpr ⟨collects.properties_nodup, List.nodup_singleton _,
        fun other listed own member => by
          rintro rfl
          exact fresh (List.mem_singleton.mp member ▸ listed)⟩
  isLast := by
    intro assigned member
    rw [List.reverse_append, List.reverse_singleton, List.singleton_append, isFirst_cons]
    rcases mem_set collects.properties_nodup member with rfl | ⟨listed, different⟩
    · exact .inl ⟨rfl, rfl⟩
    · exact .inr ⟨different.symm, collects.isLast assigned listed⟩

end Assignments

namespace RowRequest

/-- The request with one more assignment, if it is an update. -/
def set (property : String) (value : SqlValue) : RowRequest → RowRequest
  | update assignments => update (assignments.set property value)
  | select => select
  | delete => delete

end RowRequest

/-- What the rows of a source are wanted for. -/
inductive Purpose
  | select
  | update
  | delete
deriving DecidableEq

namespace Purpose

/-- The request in which nothing is assigned yet. -/
def request : Purpose → RowRequest
  | select => .select
  | update => .update []
  | delete => .delete

end Purpose

/-- A request that serves the purpose, with what comes of the assignments if it is an update. -/
inductive RowRequest.Serves (sets : List (String × SqlValue)) : Purpose → RowRequest → Prop
  | select : Serves sets .select .select
  | update {assignments : Assignments} (collects : assignments.Collects sets) :
      Serves sets .update (.update assignments)
  | delete : Serves sets .delete .delete

namespace RowRequest.Serves

variable {sets : List (String × SqlValue)} {purpose : Purpose} {request : RowRequest}

theorem start (purpose : Purpose) : Serves [] purpose purpose.request := by
  cases purpose with
  | select => exact .select
  | update => exact .update .nil
  | delete => exact .delete

theorem set (serves : request.Serves sets purpose) (property : String) (value : SqlValue) :
    (request.set property value).Serves (sets ++ [(property, value)]) purpose := by
  cases serves with
  | select => exact .select
  | update collects => exact .update (collects.set property value)
  | delete => exact .delete

theorem runnable (serves : request.Serves sets purpose) (assigns : purpose = .update → sets ≠ []) :
    request.Runnable := by
  cases serves with
  | select => exact .select
  | delete => exact .delete
  | @update assignments collects =>
      cases assignments with
      | nil =>
          have none : [] = (sets.map Prod.fst).eraseDups := collects.properties_eq
          obtain ⟨assigned, listed⟩ := List.exists_mem_of_ne_nil _ (assigns rfl)
          have kept := List.mem_eraseDups.mpr (List.mem_map_of_mem (f := Prod.fst) listed)
          rw [← none] at kept
          cases kept
      | cons first rest =>
          have same : Assignments.set first.1 first.2 (first :: rest) = first :: rest := if_pos rfl
          rw [← same]
          exact .update _ _ _

end RowRequest.Serves

/-- A call that goes on with a request. -/
inductive RequestCall
  | join (request : JoinRequest)
  /-- The predicate becomes the filter. -/
  | filter (predicate : Predicate)
  /-- The predicate is combined with the filter. -/
  | combine (connective : Connective) (predicate : Predicate)
  /-- The property is assigned the value, if the request is an update. -/
  | set (property : String) (value : SqlValue)

namespace RequestCall

/-- The join that a call asks for. -/
def join? : RequestCall → Option JoinRequest
  | join request => some request
  | filter _ | combine _ _ | set _ _ => none

/-- The assignment that a call makes. -/
def assignment? : RequestCall → Option (String × SqlValue)
  | set property value => some (property, value)
  | join _ | filter _ | combine _ _ => none

/-- The tests that a call adds to the filter. -/
def tests : RequestCall → List (Test PropertyKey)
  | filter predicate | combine _ predicate => predicate.atoms
  | join _ | set _ _ => []

end RequestCall

/-- A request about rows that is being put together. -/
structure PendingRequest where
  source : Source
  request : RowRequest

namespace PendingRequest

/-- The request behind one more call. -/
def call (pending : PendingRequest) : RequestCall → PendingRequest
  | .join request => ⟨pending.source.join request, pending.request⟩
  | .filter predicate => ⟨pending.source.filtered predicate, pending.request⟩
  | .combine connective predicate =>
      ⟨pending.source.combine connective predicate, pending.request⟩
  | .set property value => ⟨pending.source, pending.request.set property value⟩

/-- The request for the rows of a record type behind several calls in order. -/
def ofCalls (record : RecordType) (purpose : Purpose) (calls : List RequestCall) :
    PendingRequest :=
  calls.foldl call ⟨Source.all record, purpose.request⟩

/-- The statement of the request, or its error. -/
def compile (registry : Registry) (pending : PendingRequest) : Except Error CompiledStatement :=
  pending.request.compile registry pending.source

/-- What a request has of its calls: the joins in order, the tests from left to right, and the
assignments. -/
structure Gathers (pending : PendingRequest) (record : RecordType) (purpose : Purpose)
    (calls : List RequestCall) : Prop where
  root_eq : pending.source.root = record
  joins_eq : pending.source.joins = calls.filterMap RequestCall.join?
  /-- The tests are those of the last filter and of what is combined with it. -/
  tests_eq : ∀ before first chain, calls = before ++ .filter first :: chain →
    (∀ predicate, .filter predicate ∉ chain) →
      pending.source.tests = first.atoms ++ chain.flatMap RequestCall.tests
  unfiltered : (∀ predicate, .filter predicate ∉ calls) →
    pending.source.tests = calls.flatMap RequestCall.tests
  serves : pending.request.Serves (calls.filterMap RequestCall.assignment?) purpose

variable {record : RecordType} {purpose : Purpose} {calls : List RequestCall}

theorem ofCalls_concat (call : RequestCall) :
    ofCalls record purpose (calls ++ [call]) = (ofCalls record purpose calls).call call :=
  List.foldl_concat ..

theorem tables_call (pending : PendingRequest) (call : RequestCall) :
    (pending.call call).source.root = pending.source.root ∧
      (pending.call call).source.joins = pending.source.joins ++ call.join?.toList := by
  cases call with
  | join request => exact ⟨rfl, rfl⟩
  | filter predicate => exact ⟨rfl, (List.append_nil _).symm⟩
  | combine connective predicate =>
      rw [PendingRequest.call, Source.combine]
      split <;> exact ⟨rfl, (List.append_nil _).symm⟩
  | set property value => exact ⟨rfl, (List.append_nil _).symm⟩

theorem tests_call (pending : PendingRequest) {call : RequestCall}
    (keeps : ∀ predicate, call ≠ .filter predicate) :
    (pending.call call).source.tests = pending.source.tests ++ call.tests := by
  cases call with
  | join request | set property value => exact (List.append_nil _).symm
  | filter predicate => exact absurd rfl (keeps predicate)
  | combine connective predicate =>
      rw [PendingRequest.call, Source.combine, Source.tests, Source.tests]
      cases pending.source.filter <;> rfl

/-- What a request has of its calls, it has with one more call. -/
theorem Gathers.call {pending : PendingRequest} (gathers : pending.Gathers record purpose calls)
    (call : RequestCall) : (pending.call call).Gathers record purpose (calls ++ [call]) where
  root_eq := (tables_call pending call).1.trans gathers.root_eq
  joins_eq := by
    rw [(tables_call pending call).2, gathers.joins_eq, List.filterMap_append]
    cases call <;> rfl
  tests_eq := by
    intro before first chain split keeps
    -- The last call is the filter itself or one whose predicate is combined with it.
    rcases chain.eq_nil_or_concat with rfl | ⟨chain, last, rfl⟩
    · obtain ⟨-, rfl⟩ := List.append_singleton_inj.mp split
      exact (List.append_nil _).symm
    · rw [List.concat_eq_append, ← List.cons_append, ← List.append_assoc] at split
      obtain ⟨rfl, rfl⟩ := List.append_singleton_inj.mp split
      rw [List.concat_eq_append] at keeps ⊢
      have earlier := gathers.tests_eq before first chain rfl fun predicate listed =>
        keeps predicate (List.mem_append_left _ listed)
      rw [tests_call pending fun predicate same =>
        keeps predicate (same ▸ List.mem_append_right _ (List.mem_singleton_self _)), earlier]
      simp [List.flatMap_append]
  unfiltered := by
    intro keeps
    have earlier := gathers.unfiltered fun predicate listed =>
      keeps predicate (List.mem_append_left _ listed)
    rw [tests_call pending fun predicate same =>
      keeps predicate (same ▸ List.mem_append_right _ (List.mem_singleton_self _)), earlier]
    simp [List.flatMap_append]
  serves := by
    rw [List.filterMap_append]
    cases call with
    | set property value => exact gathers.serves.set property value
    | join | filter | combine => exact (List.append_nil _).symm ▸ gathers.serves

theorem gathers_ofCalls (record : RecordType) (purpose : Purpose) (calls : List RequestCall) :
    (ofCalls record purpose calls).Gathers record purpose calls := by
  induction calls using List.reverseRecOn with
  | nil =>
      exact ⟨rfl, rfl, fun before first chain split => by simp at split, fun _ => rfl,
        .start purpose⟩
  | append_singleton calls call ih =>
      rw [ofCalls_concat]
      exact ih.call call

end PendingRequest

end TableMapping
