import TableMapping.Execution
import TableMapping.Request.Scope

/-!
# Selection of records

The query for the rows of a source: it selects every column of every table in scope, so that the
layout of its rows is known. What is made of a row is up to a projection.
-/

namespace TableMapping

/-- A query for the rows of a source, and what to make of each. -/
structure Selection (α : Type) where
  source : Source
  projection : RowView → Except Error α

namespace Selection

variable {α : Type}

/-- The query that a resolved source calls for: every column of every table in scope. -/
def query (source : ResolvedSource) : Select where
  columns := source.scope.tables.flatMap fun table => table.columns.map table.reference
  source := source.scope.root.name
  joins := source.joins
  filter := source.filter

/-- The query for a source with the layout of its rows. -/
def prepare (registry : Registry) (source : Source) :
    Except Error (CompiledStatement × RowLayout) := do
  let resolved ← source.resolve registry
  let statement ← (Statement.select (query resolved)).write registry.dialect
  return (statement, RowLayout.ofTables resolved.scope.tables)

/-- The query of a selection. -/
def compile (registry : Registry) (selection : Selection α) : Except Error CompiledStatement :=
  (prepare registry selection.source).map Prod.fst

/-- All rows of a selection, which are read as they are drawn. -/
def fetchAll (registry : Registry) (selection : Selection α) (backend : Backend) :
    Run (Cursor α) :=
  match prepare registry selection.source with
  | .error error => Run.refused error
  | .ok (statement, layout) =>
      (backend.queryOne statement).map fun rows => ⟨rows, layout, selection.projection⟩

/-- The first row of a selection, if there is one. -/
def fetchFirst (registry : Registry) (selection : Selection α) (backend : Backend) :
    Run (Option α) :=
  (selection.fetchAll registry backend).andRead fun cursor =>
    match cursor.next? with
    | none => ⟨[], .ok none⟩
    | some (reading, _) => ⟨reading.reads, reading.result.map some⟩

/-- The only row of a selection. It is an error if there are none or several. -/
def fetchOne (registry : Registry) (selection : Selection α) (backend : Backend) : Run α :=
  (selection.fetchAll registry backend).andRead fun cursor =>
    match cursor.next?, cursor.remaining with
    | some (reading, _), 1 => reading
    | _, count => ⟨[], .error (.cardinality count)⟩

end Selection

end TableMapping
