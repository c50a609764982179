import TableMapping.Error
import TableMapping.Request.Source

/-!
# Scopes

The tables that a source of rows brings into a statement, and its joins and filter in terms of
their columns. Tables are joined through the foreign keys between them, and every pair of columns
of a key takes part. The tables in scope are found before the filter is looked at, and each join
sees only the tables before it.
-/

namespace TableMapping

/-- A table that is joined to the ones before it in a scope. -/
structure JoinedTable where
  kind : JoinKind
  table : Table
  /-- The pairs of properties that must be equal: one of an earlier table, one of this table. -/
  on : List (PropertyKey × PropertyKey)
deriving DecidableEq, Repr

/-- The tables of a statement. -/
structure Scope where
  /-- The first table. -/
  root : Table
  /-- The tables joined to it, in order. -/
  joins : List JoinedTable
deriving DecidableEq, Repr

namespace Scope

/-- The tables of a scope, in order. -/
def tables (scope : Scope) : List Table := scope.root :: scope.joins.map JoinedTable.table

/-- The scope has a table for the records of a type. -/
def has (scope : Scope) (record : RecordType) : Bool :=
  scope.tables.any fun table => table.record = record

/-! ## Joins -/

/-- The pairs of a foreign key of a table in scope, which refers to the joined table. -/
def forwardPairs? (owner : Table) (request : JoinRequest) :
    Option (List (PropertyKey × PropertyKey)) :=
  (owner.foreignKeys.find? fun key =>
      key.target = request.record && key.columns.contains request.on.name).map fun key =>
    key.pairs.map fun pair => (owner.key pair.1, ⟨key.target, pair.2⟩)

/-- The pairs of a foreign key of the joined table, which refers to a table in scope. -/
def backwardPairs? (scope : Scope) (joined : Table) (request : JoinRequest) :
    Option (List (PropertyKey × PropertyKey)) :=
  (joined.foreignKeys.find? fun key =>
      key.columns.contains request.on.name && scope.has key.target).map fun key =>
    key.pairs.map fun pair => (⟨key.target, pair.2⟩, joined.key pair.1)

/-- The pairs of properties through which a table is joined. The property of the request decides
whether the foreign key is looked for at a table in scope or at the joined table. -/
def pairs (scope : Scope) (joined : Table) (request : JoinRequest) :
    Except Error (List (PropertyKey × PropertyKey)) :=
  match scope.tables.find? fun table => table.record = request.on.record with
  | some owner =>
      expect (.mapping (.noLink request.on joined.name)) (forwardPairs? owner request)
  | none =>
      if request.on.record = request.record then
        expect (.mapping (.noLink request.on joined.name)) (scope.backwardPairs? joined request)
      else
        .error (.validation (.unrelatedColumn request.on joined.name))

/-- The scope with one more table joined. -/
def join (registry : Registry) (scope : Scope) (request : JoinRequest) : Except Error Scope := do
  let joined ← registry.requested request.record
  ensure (scope.has request.record = false) (.validation (.alreadyJoined joined.name))
  let on ← scope.pairs joined request
  return ⟨scope.root, scope.joins ++ [⟨request.kind, joined, on⟩]⟩

/-- The scope of a source. -/
def ofSource (registry : Registry) (source : Source) : Except Error Scope := do
  let root ← registry.requested source.root
  source.joins.foldlM (join registry) ⟨root, []⟩

/-! ## Columns -/

/-- The table in scope and its column that store a property. -/
def column? (scope : Scope) (key : PropertyKey) : Option (Table × Column) :=
  scope.tables.findSome? fun table => (table.column? key).map (table, ·)

/-- The column in scope that stores a property. -/
def column (scope : Scope) (key : PropertyKey) : Except Error (Table × Column) :=
  expect (.validation (.outOfScope key)) (scope.column? key)

/-- The column in scope that stores a property, as a statement names it. -/
def reference (scope : Scope) (key : PropertyKey) : Except Error ColumnRef := do
  let (table, column) ← scope.column key
  return table.reference column

/-- The rows of the scope may lack the records of a type, since their table is left-joined. -/
def mayLack (scope : Scope) (record : RecordType) : Bool :=
  scope.joins.any fun joined => joined.kind = .leftOuter && joined.table.record = record

/-- The column in scope that stores a property, which must be one that may be without a value. -/
def nullableReference (scope : Scope) (key : PropertyKey) : Except Error ColumnRef := do
  let (table, column) ← scope.column key
  ensure (column.nullable = true ∨ scope.mayLack key.record = true)
    (.validation (.needlessNullTest (table.reference column)))
  return table.reference column

/-! ## Conditions -/

/-- The condition that a test of a property stands for. -/
def atom (scope : Scope) : Test PropertyKey → Except Error Atom
  | .compare key comparison value =>
      return .test (.compare (← scope.reference key) comparison value)
  | .isNull key => return .test (.isNull (← scope.nullableReference key))
  | .isNotNull key => return .test (.isNotNull (← scope.nullableReference key))

/-- The condition that a predicate stands for. -/
def condition (scope : Scope) (predicate : Predicate) : Except Error Condition :=
  predicate.traverse scope.atom

/-- The condition of a filter, if there is one. -/
def filter (scope : Scope) : Option Predicate → Except Error (Option Condition)
  | none => .ok none
  | some predicate => return some (← scope.condition predicate)

/-- The join of a table, as a statement has it. -/
def joinClause (scope : Scope) (joined : JoinedTable) : Except Error Join := do
  let on ← joined.on.mapM fun pair =>
    return (← scope.reference pair.1, ← scope.reference pair.2)
  return ⟨joined.kind, joined.table.name, on⟩

end Scope

/-- The rows that a statement works on, in terms of tables and columns. -/
structure ResolvedSource where
  scope : Scope
  joins : List Join
  filter : Option Condition

namespace Source

/-- The source in terms of the tables and columns of a registry, or its first error: that of the
first table, of the joins in order, of the filter from left to right. -/
def resolve (registry : Registry) (source : Source) : Except Error ResolvedSource := do
  let scope ← Scope.ofSource registry source
  let filter ← scope.filter source.filter
  let joins ← scope.joins.mapM scope.joinClause
  return ⟨scope, joins, filter⟩

end Source

end TableMapping
