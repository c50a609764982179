import TableMapping.Request.Modification
import TableMapping.Request.Selection

/-!
# Requests about rows

A query, an update and a removal have their source resolved in the same way. What differs is the
tree that becomes of it.
-/

namespace TableMapping

/-! ## Formulas and their atomic formulas -/

namespace Formula

variable {α β ε : Type}

theorem mapM_atoms_eq (replace : α → Except ε β) (formula : Formula α) :
    formula.atoms.mapM replace = (formula.traverse replace).map atoms := by
  induction formula with
  | atom formula =>
      rw [atoms, List.mapM_cons, traverse]
      cases replace formula <;> rfl
  | node connective left right left_ih right_ih =>
      rw [atoms, List.mapM_append, left_ih, right_ih, traverse]
      cases left.traverse replace with
      | error fault => rfl
      | ok left' => cases right.traverse replace <;> rfl

theorem mapM_atoms_of_traverse {replace : α → Except ε β} {formula : Formula α}
    {result : Formula β} (replaced : formula.traverse replace = .ok result) :
    formula.atoms.mapM replace = .ok result.atoms := by
  rw [mapM_atoms_eq, replaced]
  rfl

theorem mapM_atoms_eq_error_iff {replace : α → Except ε β} {formula : Formula α} {fault : ε} :
    formula.atoms.mapM replace = .error fault ↔ formula.traverse replace = .error fault := by
  rw [mapM_atoms_eq]
  cases formula.traverse replace <;> simp [Except.map]

end Formula

/-! ## Sources -/

namespace Source

theorem resolve_eq_ok {registry : Registry} {source : Source} {resolved : ResolvedSource} :
    source.resolve registry = .ok resolved ↔
      Scope.ofSource registry source = .ok resolved.scope ∧
        resolved.scope.filter source.filter = .ok resolved.filter ∧
        resolved.scope.joins.mapM resolved.scope.joinClause = .ok resolved.joins := by
  obtain ⟨scope, joins, filter⟩ := resolved
  simp only [resolve, bind_eq_ok, pure_eq_ok, ResolvedSource.mk.injEq]
  constructor
  · rintro ⟨_, in_scope, _, filtered, _, joined, rfl, rfl, rfl⟩
    exact ⟨in_scope, filtered, joined⟩
  · rintro ⟨in_scope, filtered, joined⟩
    exact ⟨scope, in_scope, filter, filtered, joins, joined, rfl, rfl, rfl⟩

/-- The tests of the filter, from left to right. -/
def tests (source : Source) : List (Test PropertyKey) := source.filter.elim [] Formula.atoms

/-- The source with a first predicate for its filter and further ones combined with it in order. -/
def chained (source : Source) (first : Predicate) (chain : List (Connective × Predicate)) :
    Source :=
  chain.foldl (fun earlier link => earlier.combine link.1 link.2) (source.filtered first)

end Source

namespace Predicate

/-- The first predicate with further ones combined with it in order. -/
def chained (first : Predicate) (chain : List (Connective × Predicate)) : Predicate :=
  chain.foldl (fun earlier link => .node link.1 earlier link.2) first

end Predicate

namespace Source

theorem chained_eq (source : Source) (first : Predicate)
    (chain : List (Connective × Predicate)) :
    source.chained first chain =
      ⟨source.root, source.joins, some (Predicate.chained first chain)⟩ := by
  unfold chained Predicate.chained
  induction chain generalizing first with
  | nil => rfl
  | cons link rest ih => exact ih (.node link.1 first link.2)

end Source

theorem Scope.filter_some_eq_ok {scope : Scope} {predicate : Predicate}
    {filter : Option Condition} :
    scope.filter (some predicate) = .ok filter ↔
      ∃ condition, predicate.traverse scope.atom = .ok condition ∧ some condition = filter := by
  simp [Scope.filter, Scope.condition]

theorem Scope.exists_test_of_filter {scope : Scope} {predicate : Option Predicate}
    {filter : Option Condition} (resolved : scope.filter predicate = .ok filter)
    {condition : Condition} (present : condition ∈ filter) {atom : Atom}
    (member : atom ∈ condition.atoms) : ∃ test, scope.atom test = .ok atom := by
  cases predicate with
  | none =>
      obtain rfl := Except.ok.inj resolved
      cases present
  | some predicate =>
      obtain ⟨whole, replaced, rfl⟩ := Scope.filter_some_eq_ok.mp resolved
      obtain rfl := Option.some.inj present
      obtain ⟨test, -, found⟩ :=
        exists_of_mem_mapM (Formula.mapM_atoms_of_traverse replaced) member
      exact ⟨test, found⟩

/-! ## Requests -/

/-- What is asked for the rows of a source. -/
inductive RowRequest
  | select
  /-- Properties of the first table are changed. -/
  | update (assignments : Assignments)
  /-- The rows are removed from the first table. -/
  | delete
deriving DecidableEq

namespace RowRequest

/-- The statement that is asked for. -/
def compile (registry : Registry) (source : Source) : RowRequest → Except Error CompiledStatement
  | select => (Selection.prepare registry source).map Prod.fst
  | update assignments => RowUpdate.compile registry ⟨source, assignments⟩
  | delete => RowRemoval.compile registry ⟨source⟩

/-- The tree of a statement about a resolved source, given the values that it assigns to
columns. -/
def tree (resolved : ResolvedSource) (assigned : List (String × SqlValue)) :
    RowRequest → Statement
  | select => .select (Selection.query resolved)
  | update _ =>
      .update ⟨resolved.scope.root.name, assigned, resolved.joins, resolved.filter⟩
  | delete => .delete ⟨resolved.scope.root.name, resolved.joins, resolved.filter⟩

/-- The values that a request assigns to columns. -/
def assigned (resolved : ResolvedSource) : RowRequest → Except Error (List (String × SqlValue))
  | select | delete => .ok []
  | update assignments => assignments.mapM (RowUpdate.assignment resolved.scope.root)

/-- The tree of the statement that is asked for, from which its text is written. -/
def statement (registry : Registry) (source : Source) : RowRequest → Except Error Statement
  | select => return .select (Selection.query (← source.resolve registry))
  | update assignments => return .update (← RowUpdate.tree registry ⟨source, assignments⟩)
  | delete => return .delete (← RowRemoval.tree registry ⟨source⟩)

variable {registry : Registry} {source : Source} {request : RowRequest}

/-- A request writes its tree. -/
theorem compile_eq :
    request.compile registry source =
      request.statement registry source >>= Statement.write registry.dialect := by
  cases request with
  | select =>
      rw [compile, Selection.prepare, statement]
      cases source.resolve registry with
      | error error => rfl
      | ok resolved =>
          cases written : (Statement.select (Selection.query resolved)).write registry.dialect <;>
            simp [bind, Except.bind, pure, Except.pure, Except.map, written]
  | update assignments =>
      rw [compile, RowUpdate.compile, statement]
      cases RowUpdate.tree registry ⟨source, assignments⟩ <;> rfl
  | delete =>
      rw [compile, RowRemoval.compile, statement]
      cases RowRemoval.tree registry ⟨source⟩ <;> rfl

theorem statement_eq :
    request.statement registry source = (do
      let resolved ← source.resolve registry
      let assigned ← request.assigned resolved
      return request.tree resolved assigned) := by
  cases request with
  | select => rfl
  | update assignments => simp only [statement, RowUpdate.tree, bind_assoc, pure_bind]; rfl
  | delete => simp only [statement, RowRemoval.tree, bind_assoc, pure_bind]; rfl

theorem statement_eq_ok {statement : Statement} :
    request.statement registry source = .ok statement ↔
      ∃ resolved assigned, source.resolve registry = .ok resolved ∧
        request.assigned resolved = .ok assigned ∧ request.tree resolved assigned = statement := by
  simp [statement_eq]

theorem tree_of_compile {compiled : CompiledStatement}
    (compiles : request.compile registry source = .ok compiled) :
    ∃ resolved assigned, source.resolve registry = .ok resolved ∧
      (request.tree resolved assigned).compile registry.dialect = .ok compiled := by
  rw [compile_eq] at compiles
  obtain ⟨_, asked, written⟩ := bind_eq_ok.mp compiles
  obtain ⟨resolved, assigned, found, -, rfl⟩ := statement_eq_ok.mp asked
  exact ⟨resolved, assigned, found, mapError_eq_ok.mp written⟩

end RowRequest

end TableMapping
