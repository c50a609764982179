import TableMapping.Proofs.Reading.Query
import TableMapping.Proofs.Request.Rows
import TableMapping.Proofs.Schema.Built

/-!
# Filters as they are read

What the text of a filter is read as has the same value as the predicate that it was built from,
whatever the values of the single tests are. In an update or a removal through joins, the columns
of the first join must be equal besides.
-/

namespace TableMapping

/-! ## Equalities in front of a condition -/

namespace Truth

/-- The least of several values. -/
def all (values : List Truth) : Truth := values.foldr and true

end Truth

namespace Condition

/-- A condition on rows as it is read: the given pairs of columns are equal, and the formula holds
whose atomic formulas stand for the given atomic conditions. -/
structure Means {α : Type} (condition : Condition) (pairs : List (ColumnRef × ColumnRef))
    (atoms : List Atom) (formula : Formula α) : Prop where
  /-- The atomic conditions are the equalities and the given ones, from left to right. -/
  atoms_eq : condition.atoms = pairs.map (fun pair => .columnsEqual pair.1 pair.2) ++ atoms
  /-- Whatever the values of the atomic conditions are, the value is the conjunction of those of
  the equalities and that of the formula. -/
  value_eq : ∀ valuation : Nat → Truth, condition.value valuation =
    (Truth.all ((List.range pairs.length).map valuation)).and
      (formula.valueFrom valuation pairs.length)

theorem foldl_pairs (pairs : List (ColumnRef × ColumnRef)) (first : Condition) :
    let whole := pairs.foldl
      (fun earlier pair => .node .and earlier (.atom (.columnsEqual pair.1 pair.2))) first
    whole.atoms = first.atoms ++ pairs.map (fun pair => .columnsEqual pair.1 pair.2) ∧
      ∀ valuation : Nat → Truth, whole.value valuation =
        (first.value valuation).and
          (Truth.all ((List.range' first.size pairs.length).map valuation)) := by
  induction pairs generalizing first with
  | nil =>
      refine ⟨by simp, fun valuation => ?_⟩
      cases value : first.value valuation <;> simp [value, Truth.all, Truth.and]
  | cons pair rest ih =>
      let longer : Condition := .node .and first (.atom (.columnsEqual pair.1 pair.2))
      obtain ⟨atoms_eq, value_eq⟩ := ih longer
      have size : longer.size = first.size + 1 := by
        simp [longer, Formula.size, Formula.atoms]
      refine ⟨?_, fun valuation => ?_⟩
      · rw [List.foldl_cons, atoms_eq]
        simp [longer, Formula.atoms]
      · have value : longer.value valuation =
            (first.value valuation).and (valuation first.size) := by
          simp [longer, Formula.value, Formula.valueFrom, Connective.apply]
        rw [List.foldl_cons, value_eq, size, value, List.length_cons, List.range'_succ]
        exact Connective.apply_assoc .and _ _ _

theorem ofPairs?_spec {pairs : List (ColumnRef × ColumnRef)} {condition : Condition}
    (found : ofPairs? pairs = some condition) :
    condition.atoms = pairs.map (fun pair => .columnsEqual pair.1 pair.2) ∧
      ∀ valuation : Nat → Truth, condition.value valuation =
        Truth.all ((List.range pairs.length).map valuation) := by
  cases pairs with
  | nil => simp [ofPairs?] at found
  | cons pair rest =>
      obtain rfl := Option.some.inj found
      obtain ⟨atoms_eq, value_eq⟩ := foldl_pairs rest (.atom (.columnsEqual pair.1 pair.2))
      refine ⟨by simpa [Formula.atoms] using atoms_eq, fun valuation => ?_⟩
      rw [value_eq, List.length_cons, List.range_eq_range', List.range'_succ]
      rfl

theorem means_conjunction? (pairs : List (ColumnRef × ColumnRef)) (condition : Condition) :
    ∃ whole, conjunction? (ofPairs? pairs) (some condition) = some whole ∧
      whole.Means pairs condition.atoms condition := by
  cases found : ofPairs? pairs with
  | none =>
      obtain rfl : pairs = [] := by
        cases pairs with
        | nil => rfl
        | cons pair rest => simp [ofPairs?] at found
      exact ⟨condition, rfl, rfl, fun valuation => rfl⟩
  | some on =>
      obtain ⟨atoms_eq, value_eq⟩ := ofPairs?_spec found
      refine ⟨.node .and on condition, rfl, ?_, fun valuation => ?_⟩
      · rw [Formula.atoms, atoms_eq]
      · have size : on.size = pairs.length := by simp [Formula.size, atoms_eq]
        rw [← value_eq, ← size, ← Nat.zero_add on.size]
        rfl

/-- What is read from a text says the same as what was written, of the values in the form in which
the database takes them. -/
theorem Means.reading {α : Type} {condition : Condition} {pairs : List (ColumnRef × ColumnRef)}
    {atoms : List Atom} {formula : Formula α} (means : condition.Means pairs atoms formula)
    (dialect : Dialect) :
    (condition.reading dialect).Means pairs (atoms.map (Atom.bound dialect)) formula where
  atoms_eq := by
    simp [means.atoms_eq, Atom.bound]
  value_eq valuation := by
    rw [← means.value_eq, Condition.reading, Formula.value_leftAssociated]
    exact Formula.valueFrom_map valuation (Atom.bound dialect) 0 condition

end Condition

/-! ## Statements -/

namespace Statement

/-- The filter of a statement on rows, if there is one. -/
def filter? : Statement → Option Condition
  | .select tree => tree.filter
  | .update tree => tree.filter
  | .delete tree => tree.filter
  | .createTable _ | .insert _ => none

/-- The pairs of columns that are equal in front of the filter. A query has its joins elsewhere, but
an update or a removal has the first of them there. -/
def guards : Statement → List (ColumnRef × ColumnRef)
  | .update tree => (tree.joins.head?.map Join.on).getD []
  | .delete tree => (tree.joins.head?.map Join.on).getD []
  | .select _ | .createTable _ | .insert _ => []

end Statement

namespace CompiledStatement

/-- The condition behind the `WHERE` of a compiled statement, as it is read from its text. -/
def where? (dialect : Dialect) (compiled : CompiledStatement) : Option Condition :=
  (compiled.rowStatement? dialect).bind RowStatement.condition?

end CompiledStatement

namespace RowFilter

theorem condition?_ofJoins (dialect : Dialect) (table : String) (condition : Condition)
    (joins : List Join) :
    (RowStatement.change table (ofJoins dialect (some condition) joins)).condition? =
      (Condition.conjunction? (Condition.ofPairs? ((joins.head?.map Join.on).getD []))
        (some condition)).map (Condition.reading dialect) := by
  cases joins with
  | nil => rfl
  | cons first rest => rfl

end RowFilter

namespace Statement

/-- What the `WHERE` of a statement is read as says what its filter says. -/
theorem where?_means {dialect : Dialect} {statement : Statement} {condition : Condition}
    {compiled : CompiledStatement} (filtered : statement.filter? = some condition)
    (compiles : statement.compile dialect = .ok compiled) :
    ∃ expression, compiled.where? dialect = some expression ∧
      expression.Means statement.guards (condition.atoms.map (Atom.bound dialect)) condition := by
  obtain ⟨whole, combined, means⟩ := Condition.means_conjunction? statement.guards condition
  refine ⟨whole.reading dialect, ?_, means.reading dialect⟩
  have read : ∃ row, statement.reading? dialect = some row ∧
      row.condition? = (Condition.conjunction? (Condition.ofPairs? statement.guards)
        (some condition)).map (Condition.reading dialect) := by
    cases statement with
    | select tree =>
        have own : tree.filter = some condition := filtered
        refine ⟨_, rfl, ?_⟩
        simp [RowStatement.condition?, Select.reading, own, guards, Condition.ofPairs?,
          Condition.conjunction?]
    | update tree =>
        have own : tree.filter = some condition := filtered
        refine ⟨_, rfl, ?_⟩
        rw [own, RowFilter.condition?_ofJoins]
        rfl
    | delete tree =>
        have own : tree.filter = some condition := filtered
        refine ⟨_, rfl, ?_⟩
        rw [own, RowFilter.condition?_ofJoins]
        rfl
    | createTable tree | insert tree => cases filtered
  obtain ⟨row, reads, own⟩ := read
  rw [CompiledStatement.where?, rowStatement?_compile compiles reads, Option.bind_some, own,
    combined]
  rfl

end Statement

/-! ## Requests -/

namespace Formula

variable {α β ε : Type}

theorem map_of_traverse {replace : α → Except ε β} {formula : Formula α} {result : Formula β}
    (replaced : formula.traverse replace = .ok result) :
    result.map (fun _ => ()) = formula.map fun _ => () := by
  induction formula generalizing result with
  | atom formula =>
      obtain ⟨value, -, rfl⟩ : ∃ value, replace formula = .ok value ∧ atom value = result := by
        simpa [traverse] using replaced
      rfl
  | node connective left right left_ih right_ih =>
      obtain ⟨left', left_replaced, right', right_replaced, rfl⟩ :
          ∃ left', left.traverse replace = .ok left' ∧ ∃ right',
            right.traverse replace = .ok right' ∧ node connective left' right' = result := by
        simpa [traverse] using replaced
      rw [map, map, left_ih left_replaced, right_ih right_replaced]

theorem valueFrom_of_traverse {replace : α → Except ε β} {formula : Formula α}
    {result : Formula β} (replaced : formula.traverse replace = .ok result)
    (valuation : Nat → Truth) (first : Nat) :
    result.valueFrom valuation first = formula.valueFrom valuation first := by
  rw [← valueFrom_map valuation (fun _ => ()) first result, map_of_traverse replaced,
    valueFrom_map]

end Formula

namespace RowRequest

/-- The pairs of columns that are equal in front of the filter of the statement that is asked
for, given its joins. -/
def guards (joins : List Join) : RowRequest → List (ColumnRef × ColumnRef)
  | select => []
  | update _ | delete => (joins.head?.map Join.on).getD []

/-- What the `WHERE` of a request is read as says what the chain of its predicates says. -/
theorem where?_means {registry : Registry} {source : Source} {first : Predicate}
    {chain : List (Connective × Predicate)} {request : RowRequest}
    {compiled : CompiledStatement}
    (compiles : request.compile registry (source.chained first chain) = .ok compiled) :
    ∃ resolved atoms expression,
      (source.chained first chain).resolve registry = .ok resolved ∧
        (Predicate.chained first chain).atoms.mapM resolved.scope.atom = .ok atoms ∧
        compiled.where? registry.dialect = some expression ∧
        expression.Means (request.guards resolved.joins)
          (atoms.map (Atom.bound registry.dialect)) (Predicate.chained first chain) := by
  obtain ⟨resolved, assigned, found, written⟩ := tree_of_compile compiles
  obtain ⟨-, filtered, -⟩ := Source.resolve_eq_ok.mp found
  rw [Source.chained_eq] at filtered
  obtain ⟨condition, replaced, filter_eq⟩ := Scope.filter_some_eq_ok.mp filtered
  have own : (request.tree resolved assigned).filter? = some condition := by
    cases request <;> exact filter_eq.symm
  have same : (request.tree resolved assigned).guards = request.guards resolved.joins := by
    cases request <;> rfl
  obtain ⟨expression, reads, means⟩ := Statement.where?_means own written
  refine ⟨resolved, condition.atoms, expression, found,
    Formula.mapM_atoms_of_traverse replaced, reads, ?_, fun valuation => ?_⟩
  · rw [means.atoms_eq, same]
  · rw [means.value_eq, same, Formula.valueFrom_of_traverse replaced]

end RowRequest

/-- The text of a filter means what was asked for. For a chain of predicates on any source, and for
any filter of a statement tree, the condition behind the `WHERE` is read as one with the same atomic
conditions in the same order and with the same value for all values of these. -/
theorem where_means_filter :
    (∀ (registry : Registry) (source : Source) (first : Predicate)
        (chain : List (Connective × Predicate)) (request : RowRequest)
        (compiled : CompiledStatement),
      request.compile registry (source.chained first chain) = .ok compiled →
        ∃ resolved atoms expression,
          (source.chained first chain).resolve registry = .ok resolved ∧
            (Predicate.chained first chain).atoms.mapM resolved.scope.atom = .ok atoms ∧
            compiled.where? registry.dialect = some expression ∧
            expression.Means (request.guards resolved.joins)
              (atoms.map (Atom.bound registry.dialect)) (Predicate.chained first chain)) ∧
      ∀ (dialect : Dialect) (statement : Statement) (condition : Condition)
        (compiled : CompiledStatement),
        statement.filter? = some condition → statement.compile dialect = .ok compiled →
          ∃ expression, compiled.where? dialect = some expression ∧
            expression.Means statement.guards (condition.atoms.map (Atom.bound dialect))
              condition :=
  ⟨fun _ _ _ _ _ _ compiles => RowRequest.where?_means compiles,
    fun _ _ _ _ filtered compiles => Statement.where?_means filtered compiles⟩

namespace Staff

/-- The users with their roles. -/
def usersWithRoles : Source :=
  (Source.all user).join ⟨.inner, role, ⟨user, "role_id"⟩⟩

/-- Tests of users with their roles, to be combined behind a first one. -/
def furtherTests : List (Connective × Predicate) :=
  [(.or, Predicate.eq ⟨role, "label"⟩ (.text "guest")),
    (.and, Predicate.eq ⟨user, "lastname"⟩ (.text "Doe"))]

/-- A query whose filter nests to the right. -/
def rightNested : Statement :=
  .select ⟨[⟨"t", "c"⟩], "t", [], some (.node .or (.atom (.test (.isNull ⟨"t", "a"⟩)))
    (.node .or (.atom (.test (.isNull ⟨"t", "b"⟩)))
      (.node .and (.atom (.test (.isNull ⟨"t", "c"⟩))) (.atom (.test (.isNull ⟨"t", "d"⟩))))))⟩

/-- A removal of users by a chain of tests, and a query whose filter nests to the right: both are
read with the tests in their order and with the value that was asked for. -/
theorem where_means_filter_staff :
    (∃ compiled expression,
      RowRequest.delete.compile (registry .postgresql)
          (usersWithRoles.chained (Predicate.isNull ⟨user, "alias"⟩) furtherTests) =
        .ok compiled ∧
      compiled.where? .postgresql = some expression ∧
      expression.atoms =
        [.columnsEqual ⟨"users", "role_id"⟩ ⟨"roles", "id"⟩,
          .test (.isNull ⟨"users", "alias"⟩),
          .test (.compare ⟨"roles", "label"⟩ .eq (.text "guest")),
          .test (.compare ⟨"users", "lname"⟩ .eq (.text "Doe"))] ∧
      ∀ valuation, expression.value valuation = ((valuation 0).and .true).and
        (((valuation 1).or (valuation 2)).and (valuation 3))) ∧
      ∃ compiled expression, rightNested.compile .sqlite = .ok compiled ∧
        compiled.where? .sqlite = some expression ∧
        ∀ valuation, expression.value valuation =
          (valuation 0).or ((valuation 1).or ((valuation 2).and (valuation 3))) := by
  constructor
  · obtain ⟨compiled, compiles⟩ : ∃ compiled, RowRequest.delete.compile (registry .postgresql)
        (usersWithRoles.chained (Predicate.isNull ⟨user, "alias"⟩) furtherTests) =
          .ok compiled := ⟨_, rfl⟩
    obtain ⟨resolved, atoms, expression, found, mapped, reads, means⟩ :=
      where_means_filter.1 _ _ _ _ _ _ compiles
    obtain rfl := Except.ok.inj (found.symm.trans rfl)
    obtain rfl := Except.ok.inj (mapped.symm.trans rfl)
    exact ⟨compiled, expression, compiles, reads, means.atoms_eq, means.value_eq⟩
  · obtain ⟨compiled, compiles⟩ : ∃ compiled, rightNested.compile .sqlite = .ok compiled :=
      ⟨_, rfl⟩
    obtain ⟨expression, reads, means⟩ := where_means_filter.2 _ _ _ _ rfl compiles
    exact ⟨compiled, expression, compiles, reads, means.value_eq⟩

end Staff

end TableMapping
