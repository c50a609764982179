import TableMapping.Schema.Registry

/-!
# Drafts of registries

A registry under construction. The first declaration that fails decides the outcome: nothing
declared after it is added. A declaration can be passed over in silence then, or be answered with a
reminder of the first failure.
-/

namespace TableMapping

/-- A registry under construction. -/
structure Draft where
  /-- The tables that were added. -/
  registry : Registry
  /-- The fault of the first declaration that failed. -/
  failure : Option MappingFault
deriving DecidableEq, Repr

namespace Draft

/-- The draft without tables. -/
def empty (dialect : Dialect) : Draft := ⟨Registry.empty dialect, none⟩

/-- The draft after a declaration, with the added table or the fault of the declaration. -/
def declare (draft : Draft) (declaration : TableDeclaration) :
    Draft × Except MappingFault Table :=
  match draft.failure with
  | some first => (draft, .error (.earlierFailure first))
  | none =>
      match declaration.resolve draft.registry with
      | .ok table => (⟨draft.registry.add table, none⟩, .ok table)
      | .error fault => (⟨draft.registry, some fault⟩, .error fault)

/-- The draft after a declaration whose own outcome is of no interest. -/
def table (draft : Draft) (declaration : TableDeclaration) : Draft :=
  match draft.failure with
  | some _ => draft
  | none => (draft.declare declaration).1

/-- The finished registry, or the fault of the first declaration that failed. -/
def build (draft : Draft) : Except MappingFault Registry :=
  match draft.failure with
  | some fault => .error fault
  | none => .ok draft.registry

end Draft

end TableMapping
