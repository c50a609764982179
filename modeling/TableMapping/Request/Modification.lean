import TableMapping.Execution
import TableMapping.Request.Scope

/-!
# Modification of rows

The statements that change or remove the rows of a source. An assignment to a property that is
assigned already takes the place of the earlier one.
-/

namespace TableMapping

/-- The values assigned to properties, in the order in which they were first assigned. -/
abbrev Assignments := List (String × SqlValue)

namespace Assignments

/-- The assignments with one more, in the place of an earlier one to the same property. -/
def set (property : String) (value : SqlValue) : Assignments → Assignments
  | [] => [(property, value)]
  | first :: rest =>
      if first.1 = property then (property, value) :: rest else first :: set property value rest

end Assignments

/-- The change of properties in the rows of a source. -/
structure RowUpdate where
  source : Source
  /-- The assignments to properties of the first table. -/
  assignments : Assignments

namespace RowUpdate

/-- The assignment to the column that stores a property. A column that must have a value cannot be
assigned the absent one. -/
def assignment (table : Table) (assigned : String × SqlValue) :
    Except Error (String × SqlValue) := do
  let column ← expect (.validation (.unknownColumn (table.key assigned.1) table.name))
    (table.columnOf? assigned.1)
  ensure (assigned.2 = .null → column.nullable = true)
    (.validation (.nullAssignment (table.reference column)))
  return (column.name, assigned.2)

/-- The update that the assignments call for. -/
def tree (registry : Registry) (update : RowUpdate) : Except Error Update := do
  let resolved ← update.source.resolve registry
  let root := resolved.scope.root
  let assignments ← update.assignments.mapM (assignment root)
  return ⟨root.name, assignments, resolved.joins, resolved.filter⟩

/-- The statement that changes the rows. -/
def compile (registry : Registry) (update : RowUpdate) : Except Error CompiledStatement := do
  let tree ← update.tree registry
  (Statement.update tree).write registry.dialect

/-- Changes the rows. The result is the number of rows that were changed. -/
def execute (registry : Registry) (update : RowUpdate) (backend : Backend) : Run UInt64 :=
  backend.executeOne (update.compile registry)

end RowUpdate

/-- The removal of the rows of a source from its first table. -/
structure RowRemoval where
  source : Source

namespace RowRemoval

/-- The removal that the source calls for. -/
def tree (registry : Registry) (removal : RowRemoval) : Except Error Delete := do
  let resolved ← removal.source.resolve registry
  return ⟨resolved.scope.root.name, resolved.joins, resolved.filter⟩

/-- The statement that removes the rows. -/
def compile (registry : Registry) (removal : RowRemoval) : Except Error CompiledStatement := do
  let tree ← removal.tree registry
  (Statement.delete tree).write registry.dialect

/-- Removes the rows. The result is the number of rows that were removed. -/
def execute (registry : Registry) (removal : RowRemoval) (backend : Backend) : Run UInt64 :=
  backend.executeOne (removal.compile registry)

end RowRemoval

end TableMapping
