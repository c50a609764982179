import TableMapping.Error
import TableMapping.Proofs.Schema.Declared

/-!
# Drafts and their first failure

Declarations that are made one after the other are taken up to the first one that fails. That one is
answered with its own fault, which is also what is built in the end. Every later one is answered
with a reminder of the first failure and leaves the draft as it is. It makes no difference whether
the outcome of each declaration is looked at.
-/

namespace TableMapping

/-- The reminder of a failure shows it as it is shown on its own. -/
theorem MappingFault.message_earlierFailure (fault : MappingFault) :
    (earlierFailure fault).message =
      "an earlier table declaration failed: " ++ (Error.mapping fault).message := by
  have reminder : (earlierFailure fault).message =
      "an earlier table declaration failed: " ++ heading ++ fault.message := rfl
  have shown : (Error.mapping fault).message = heading ++ fault.message := rfl
  rw [reminder, shown, String.append_assoc]

namespace Registry

/-- The registry with further tables behind its own. -/
def addAll (registry : Registry) (tables : List Table) : Registry :=
  ⟨registry.dialect, registry.tables ++ tables⟩

/-- The registry takes the declarations one after the other, and they become the given tables. -/
inductive Takes : Registry → List TableDeclaration → List Table → Prop
  | nil (registry : Registry) : Takes registry [] []
  | cons {registry : Registry} {declaration : TableDeclaration} {table : Table}
      {rest : List TableDeclaration} {tables : List Table}
      (resolved : declaration.resolve registry = .ok table)
      (later : Takes (registry.add table) rest tables) :
      Takes registry (declaration :: rest) (table :: tables)

@[simp]
theorem addAll_nil (registry : Registry) : registry.addAll [] = registry := by
  simp [addAll]

@[simp]
theorem addAll_add (registry : Registry) (table : Table) (tables : List Table) :
    (registry.add table).addAll tables = registry.addAll (table :: tables) := by
  simp [addAll, add]

/-- Declarations are all taken, or there is a first one among them that fails. -/
theorem takes_or_fails (registry : Registry) (declarations : List TableDeclaration) :
    (∃ tables, registry.Takes declarations tables) ∨
      ∃ before declaration after tables fault, declarations = before ++ declaration :: after ∧
        registry.Takes before tables ∧
        declaration.resolve (registry.addAll tables) = .error fault := by
  induction declarations generalizing registry with
  | nil => exact .inl ⟨[], .nil registry⟩
  | cons declaration rest ih =>
      cases resolved : declaration.resolve registry with
      | error fault =>
          refine .inr ⟨[], declaration, rest, [], fault, rfl, .nil registry, ?_⟩
          rw [addAll_nil, resolved]
      | ok table =>
          rcases ih (registry.add table) with ⟨tables, taken⟩ |
            ⟨before, failing, after, tables, fault, rfl, taken, fails⟩
          · exact .inl ⟨table :: tables, .cons resolved taken⟩
          · rw [addAll_add] at fails
            exact .inr ⟨declaration :: before, failing, after, table :: tables, fault, rfl,
              .cons resolved taken, fails⟩

end Registry

namespace Draft

/-- The draft behind several declarations whose outcomes are looked at. -/
def declareAll (draft : Draft) (declarations : List TableDeclaration) : Draft :=
  declarations.foldl (fun earlier declaration => (earlier.declare declaration).1) draft

/-- The outcomes of several declarations that are made one after the other. -/
def outcomes (draft : Draft) : List TableDeclaration → List (Except MappingFault Table)
  | [] => []
  | declaration :: rest =>
      (draft.declare declaration).2 :: outcomes (draft.declare declaration).1 rest

variable {draft : Draft} {registry : Registry} {declarations : List TableDeclaration}

theorem declareAll_eq_foldl_table (draft : Draft) (declarations : List TableDeclaration) :
    draft.declareAll declarations = declarations.foldl Draft.table draft := by
  simp only [declareAll, declare_fst]

theorem declareAll_append (draft : Draft) (before after : List TableDeclaration) :
    draft.declareAll (before ++ after) = (draft.declareAll before).declareAll after :=
  List.foldl_append

theorem outcomes_append (draft : Draft) (before after : List TableDeclaration) :
    draft.outcomes (before ++ after) =
      draft.outcomes before ++ (draft.declareAll before).outcomes after := by
  induction before generalizing draft with
  | nil => rfl
  | cons declaration before ih =>
      rw [List.cons_append, outcomes, ih]
      rfl

/-! ## One declaration -/

theorem declare_of_failure {fault : MappingFault} (failed : draft.failure = some fault)
    (declaration : TableDeclaration) :
    draft.declare declaration = (draft, .error (.earlierFailure fault)) := by
  rw [declare, failed]

theorem declare_of_resolve_eq_ok {declaration : TableDeclaration} {table : Table}
    (resolved : declaration.resolve registry = .ok table) :
    declare ⟨registry, none⟩ declaration = (⟨registry.add table, none⟩, .ok table) := by
  simp [declare, resolved]

theorem declare_of_resolve_eq_error {declaration : TableDeclaration} {fault : MappingFault}
    (fails : declaration.resolve registry = .error fault) :
    declare ⟨registry, none⟩ declaration = (⟨registry, some fault⟩, .error fault) := by
  simp [declare, fails]

theorem declare_snd (registry : Registry) (declaration : TableDeclaration) :
    (declare ⟨registry, none⟩ declaration).2 = declaration.resolve registry := by
  cases resolved : declaration.resolve registry with
  | ok table => rw [declare_of_resolve_eq_ok resolved]
  | error fault => rw [declare_of_resolve_eq_error resolved]

theorem build_eq_ok {draft : Draft} {registry : Registry} :
    draft.build = .ok registry ↔ draft = ⟨registry, none⟩ := by
  obtain ⟨tables, failure⟩ := draft
  cases failure <;> simp [build]

/-! ## Declarations in a row -/

theorem declareAll_of_takes {tables : List Table} (taken : registry.Takes declarations tables) :
    declareAll ⟨registry, none⟩ declarations = ⟨registry.addAll tables, none⟩ ∧
      outcomes ⟨registry, none⟩ declarations = tables.map .ok := by
  induction taken with
  | nil registry => exact ⟨by rw [Registry.addAll_nil]; rfl, rfl⟩
  | cons resolved _ ih =>
      obtain ⟨drafted, answered⟩ := ih
      have first := declare_of_resolve_eq_ok resolved
      constructor
      · rw [declareAll, List.foldl_cons, first, ← Registry.addAll_add]
        exact drafted
      · rw [outcomes, first, answered, List.map_cons]

theorem declareAll_of_failure {fault : MappingFault} (failed : draft.failure = some fault)
    (declarations : List TableDeclaration) :
    draft.declareAll declarations = draft ∧
      draft.outcomes declarations = declarations.map fun _ => .error (.earlierFailure fault) := by
  constructor
  · rw [declareAll_eq_foldl_table, foldl_table_of_failure failed]
  · induction declarations with
    | nil => rfl
    | cons declaration rest ih =>
        rw [outcomes, declare_of_failure failed, ih, List.map_cons]

/-- The first declaration that fails decides the draft, whatever follows. -/
theorem declareAll_of_fails {before : List TableDeclaration} {tables : List Table}
    (taken : registry.Takes before tables) {declaration : TableDeclaration} {fault : MappingFault}
    (fails : declaration.resolve (registry.addAll tables) = .error fault)
    (after : List TableDeclaration) :
    declareAll ⟨registry, none⟩ (before ++ declaration :: after) =
        ⟨registry.addAll tables, some fault⟩ ∧
      outcomes ⟨registry, none⟩ (before ++ declaration :: after) =
        tables.map .ok ++ .error fault :: after.map fun _ => .error (.earlierFailure fault) := by
  obtain ⟨drafted, answered⟩ := declareAll_of_takes taken
  have failing := declare_of_resolve_eq_error fails
  have failed : (Draft.mk (registry.addAll tables) (some fault)).failure = some fault := rfl
  obtain ⟨kept, reminded⟩ := declareAll_of_failure failed after
  constructor
  · rw [declareAll_append, drafted, declareAll, List.foldl_cons, failing]
    exact kept
  · rw [outcomes_append, answered, drafted, outcomes, failing, reminded]

/-- What is built is the registry of the tables that all declarations become. -/
theorem build_eq_ok_iff_takes {dialect : Dialect} {declarations : List TableDeclaration}
    {registry : Registry} :
    (declarations.foldl Draft.table (empty dialect)).build = .ok registry ↔
      ∃ tables, (Registry.empty dialect).Takes declarations tables ∧
        ⟨dialect, tables⟩ = registry := by
  rw [← declareAll_eq_foldl_table]
  constructor
  · intro builds
    rcases Registry.takes_or_fails (.empty dialect) declarations with ⟨tables, taken⟩ |
      ⟨before, declaration, after, tables, fault, rfl, taken, fails⟩
    · rw [empty, (declareAll_of_takes taken).1] at builds
      exact ⟨tables, taken, Except.ok.inj builds⟩
    · rw [empty, (declareAll_of_fails taken fails after).1] at builds
      cases builds
  · rintro ⟨tables, taken, rfl⟩
    rw [empty, (declareAll_of_takes taken).1]
    rfl

end Draft

/-- Declarations lead to the same outcome whether or not each is answered. If every one of them is
taken, each is answered with its table, and the registry of these tables is built. Otherwise the
ones before the first that fails are answered with their tables, and that one with its own fault.
Whatever is declared later is answered with a reminder of this fault, which is worded after it, and
changes nothing: the fault is what is built. -/
theorem first_failure_decides (dialect : Dialect) (declarations : List TableDeclaration) :
    (declarations.foldl Draft.table (Draft.empty dialect)).build =
        ((Draft.empty dialect).declareAll declarations).build ∧
      ((∃ tables, (Registry.empty dialect).Takes declarations tables ∧
          (Draft.empty dialect).outcomes declarations = tables.map .ok ∧
          ((Draft.empty dialect).declareAll declarations).build = .ok ⟨dialect, tables⟩) ∨
        ∃ before declaration after tables fault, declarations = before ++ declaration :: after ∧
          (Registry.empty dialect).Takes before tables ∧
          declaration.resolve ⟨dialect, tables⟩ = .error fault ∧
          (Draft.empty dialect).outcomes declarations =
            tables.map .ok ++ .error fault :: after.map (fun _ => .error (.earlierFailure fault)) ∧
          (∀ later, (Draft.empty dialect).declareAll (before ++ declaration :: later) =
            ⟨⟨dialect, tables⟩, some fault⟩) ∧
          ((Draft.empty dialect).declareAll declarations).build = .error fault ∧
          (MappingFault.earlierFailure fault).message =
            "an earlier table declaration failed: " ++ (Error.mapping fault).message) := by
  refine ⟨by rw [Draft.declareAll_eq_foldl_table], ?_⟩
  rcases Registry.takes_or_fails (.empty dialect) declarations with ⟨tables, taken⟩ |
    ⟨before, declaration, after, tables, fault, rfl, taken, fails⟩
  · obtain ⟨drafted, answered⟩ := Draft.declareAll_of_takes taken
    refine .inl ⟨tables, taken, answered, ?_⟩
    rw [Draft.empty, drafted]
    rfl
  · obtain ⟨drafted, answered⟩ := Draft.declareAll_of_fails taken fails after
    refine .inr ⟨before, declaration, after, tables, fault, rfl, taken, fails, answered,
      fun later => (Draft.declareAll_of_fails taken fails later).1, ?_, ?_⟩
    · rw [Draft.empty, drafted]
      rfl
    · exact MappingFault.message_earlierFailure fault

namespace Staff

/-- Users are refused while there are no roles, and so are the roles that are declared behind
them. -/
example : (Draft.empty .h2).outcomes declarations.reverse =
    [.error (.unmappedTarget "users" role),
      .error (.earlierFailure (.unmappedTarget "users" role))] := rfl

end Staff

end TableMapping
