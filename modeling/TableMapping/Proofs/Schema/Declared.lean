import Mathlib.Data.List.Forall2
import TableMapping.Proofs.Schema.Valid

/-!
# Registries as they are declared

The registry that declarations lead to holds the declared tables in order, each with the columns and
the keys of its declaration. It is valid, so that properties and columns determine each other and
foreign keys lead back in the order of declaration.
-/

namespace TableMapping

/-- The declaration that a foreign key goes back to, if it is declared on the table. -/
def ForeignKey.declaration (key : ForeignKey) : ForeignKeyDeclaration :=
  ⟨key.name, key.target, key.columns, key.references⟩

namespace TableDeclaration

/-- The table has the name, the columns and the keys that are declared. -/
structure Describes (declaration : TableDeclaration) (table : Table) : Prop where
  record_eq : table.record = declaration.record
  name_eq : table.name = declaration.name
  columns_eq : table.columns = declaration.columnList
  /-- At most one primary key is declared, on a column or on the table. -/
  primaryKey_eq : table.primaryKey.toList.map (fun key => (key.name, key.columns)) =
    declaration.markedKeys.map (fun key => (key.name, key.columns)) ++
      declaration.primaryKey.toList.map fun key => (key.name, key.columns)
  /-- The foreign keys of columns stand before those of the table. -/
  foreignKeys_eq : ∃ marked declared, table.foreignKeys = marked ++ declared ∧
    marked.map (fun key => (key.name, key.target, key.columns)) =
      declaration.markedReferences.map (fun marked =>
        (marked.2.name, marked.2.target, [marked.1.property.name])) ∧
    declared.map ForeignKey.declaration = declaration.foreignKeys

variable {declaration : TableDeclaration} {registry : Registry} {table : Table}

theorem primaryKey_eq_of_resolve {key : Option PrimaryKey}
    (resolved : declaration.resolvePrimaryKey = .ok key) :
    key.toList.map (fun key => (key.name, key.columns)) =
      declaration.markedKeys.map (fun key => (key.name, key.columns)) ++
        declaration.primaryKey.toList.map fun key => (key.name, key.columns) := by
  unfold resolvePrimaryKey at resolved
  split at resolved
  · rename_i unmarked undeclared
    obtain rfl := Except.ok.inj resolved
    simp [unmarked, undeclared]
  · rename_i marked undeclared
    obtain rfl := Except.ok.inj resolved
    simp [marked, undeclared]
  · rename_i unmarked declared
    simp only [bind_eq_ok, pure_eq_ok] at resolved
    obtain ⟨_, -, _, -, rfl⟩ := resolved
    simp [unmarked, declared, PrimaryKey.columns]
  · cases resolved

theorem declaration_of_resolveForeignKey {declared : ForeignKeyDeclaration} {key : ForeignKey}
    (resolved : declaration.resolveForeignKey registry declared = .ok key) :
    key.declaration = declared := by
  obtain ⟨-, -, -, same_length, -, rfl⟩ := resolveForeignKey_eq_ok.mp resolved
  have columns : (declared.columns.zip declared.references).map Prod.fst = declared.columns :=
    List.map_fst_zip (Nat.le_of_eq same_length)
  have references : (declared.columns.zip declared.references).map Prod.snd =
      declared.references := List.map_snd_zip (Nat.le_of_eq same_length.symm)
  simp [ForeignKey.declaration, ForeignKey.columns, ForeignKey.references, ForeignKey.pairs,
    columns, references]

theorem Accepted.describes (accepted : declaration.Accepted registry table) :
    declaration.Describes table := by
  obtain ⟨marked, declared, marked_resolved, declared_resolved, keys_eq⟩ :=
    accepted.foreignKeys_resolved
  refine ⟨accepted.record_eq, accepted.name_eq, accepted.columns_eq,
    primaryKey_eq_of_resolve accepted.primaryKey_resolved, marked, declared, keys_eq, ?_, ?_⟩
  · refine map_eq_of_mapM (fun own key resolved => ?_) marked_resolved
    obtain ⟨-, -, property, -, -, -, -, rfl⟩ := resolveMarked_eq_ok.mp resolved
    rfl
  · have same := map_eq_of_mapM (fun _ _ => declaration_of_resolveForeignKey) declared_resolved
    rw [same, List.map_id']

end TableDeclaration

namespace Draft

/-- The drafts that declarations for a dialect lead to. Each is made in one of two ways: its own
outcome is looked at or not. -/
inductive Declares (dialect : Dialect) : List TableDeclaration → Draft → Prop
  | empty : Declares dialect [] (Draft.empty dialect)
  | table {declarations : List TableDeclaration} {draft : Draft} (declaration : TableDeclaration)
      (earlier : Declares dialect declarations draft) :
      Declares dialect (declarations ++ [declaration]) (draft.table declaration)
  | declare {declarations : List TableDeclaration} {draft : Draft}
      (declaration : TableDeclaration) (earlier : Declares dialect declarations draft) :
      Declares dialect (declarations ++ [declaration]) (draft.declare declaration).1

theorem declare_fst (draft : Draft) (declaration : TableDeclaration) :
    (draft.declare declaration).1 = draft.table declaration := by
  cases failure : draft.failure <;> simp [declare, table, failure]

theorem Declares.foldl_eq {dialect : Dialect} {declarations : List TableDeclaration}
    {draft : Draft} (declared : Declares dialect declarations draft) :
    declarations.foldl Draft.table (Draft.empty dialect) = draft := by
  induction declared with
  | empty => rfl
  | table declaration _ ih => rw [List.foldl_append, ih, List.foldl_cons, List.foldl_nil]
  | declare declaration _ ih =>
      rw [List.foldl_append, ih, List.foldl_cons, List.foldl_nil, declare_fst]

theorem Declares.describes {dialect : Dialect} {declarations : List TableDeclaration}
    {draft : Draft} (declared : Declares dialect declarations draft) {registry : Registry}
    (builds : draft.build = .ok registry) :
    registry.dialect = dialect ∧
      List.Forall₂ TableDeclaration.Describes declarations registry.tables := by
  rw [← declared.foldl_eq] at builds
  refine build_induction (motive := fun declarations registry => registry.dialect = dialect ∧
    List.Forall₂ TableDeclaration.Describes declarations registry.tables) ?_ [] ⟨rfl, .nil⟩ builds
  intro before earlier declaration table ⟨same_dialect, described⟩ accepted
  exact ⟨same_dialect, List.rel_append described (.cons accepted.describes .nil)⟩

theorem Declares.built {dialect : Dialect} {declarations : List TableDeclaration}
    {draft : Draft} (declared : Declares dialect declarations draft) {registry : Registry}
    (builds : draft.build = .ok registry) : registry.Built := by
  obtain ⟨rfl, -⟩ := declared.describes builds
  exact ⟨declarations, by rw [declared.foldl_eq, builds]⟩

end Draft

/-- Declarations that are all accepted, made in either way, lead to a valid registry of the declared
tables in order. Different properties are stored in columns of different names, no chain of foreign
keys leads from a table back to it, and a property is found among the columns of all tables, no two
of which store the same one, exactly as it is found in the table of its record type. -/
theorem declared_registry_valid {dialect : Dialect} {declarations : List TableDeclaration}
    {draft : Draft} (declared : draft.Declares dialect declarations) {registry : Registry}
    (builds : draft.build = .ok registry) :
    registry.dialect = dialect ∧
      List.Forall₂ TableDeclaration.Describes declarations registry.tables ∧
      registry.Valid ∧
      (∀ key other location, registry.location? key = some location →
        registry.location? other = some location → key = other) ∧
      (∀ table, ¬Relation.TransGen registry.Refers table table) ∧
      (registry.columns.map Prod.fst).Nodup ∧
      (∀ record table, registry.table record = .ok table ↔
        table ∈ registry.tables ∧ table.record = record) ∧
      ∀ key table column, registry.column key = .ok (table, column) ↔
        registry.table key.record = .ok table ∧ column ∈ table.columns ∧
          column.property.name = key.name := by
  obtain ⟨same_dialect, described⟩ := declared.describes builds
  have valid := (declared.built builds).valid
  refine ⟨same_dialect, described, valid,
    fun key other location => valid.toSound.location?_injective, valid.acyclic,
    valid.toSound.keys_nodup, fun record table => ?_, fun key table column => ?_⟩
  · rw [Registry.table, expect_eq_ok]
    constructor
    · exact Registry.table?_eq_some
    · rintro ⟨member, rfl⟩
      exact valid.toSound.table?_record member
  · simp only [Registry.column, Registry.table, expect_eq_ok]
    exact valid.toSound.column?_eq_some

namespace Staff

/-- The duties of users in roles. -/
def duty : RecordType := ⟨"Duty"⟩

/-- The reports on duties. -/
def report : RecordType := ⟨"Report"⟩

/-- The declaration of the table of duties, whose primary key has two columns. -/
def duties : TableDeclaration :=
  ⟨duty, "duties",
    [(ColumnDeclaration.of ⟨"user", ⟨.int32, false⟩⟩ .integer rfl).asForeignKey user none,
      ColumnDeclaration.of ⟨"role", ⟨.int32, false⟩⟩ .integer rfl],
    some ⟨none, ["user", "role"]⟩, [⟨none, role, ["role"], ["id"]⟩]⟩

/-- The declaration of the table of reports, whose foreign key has two columns. -/
def reports : TableDeclaration :=
  ⟨report, "reports",
    [(ColumnDeclaration.of ⟨"id", ⟨.int32, true⟩⟩ .serial rfl).asPrimaryKey none rfl,
      ColumnDeclaration.of ⟨"on_user", ⟨.int32, false⟩⟩ .integer rfl,
      ColumnDeclaration.of ⟨"on_role", ⟨.int32, false⟩⟩ .integer rfl],
    none, [⟨some "reported", duty, ["on_role", "on_user"], ["role", "user"]⟩]⟩

/-- The registry of users, roles, duties and reports. -/
def rota (dialect : Dialect) : Registry :=
  ((declarations ++ [duties, reports]).foldl Draft.table (Draft.empty dialect)).registry

theorem rota_built (dialect : Dialect) : (rota dialect).Built := by
  cases dialect <;> exact ⟨declarations ++ [duties, reports], rfl⟩

theorem rota_declared :
    ∃ draft, Draft.Declares .sqlite (declarations ++ [duties, reports]) draft ∧
      draft.build = .ok (rota .sqlite) :=
  ⟨_, .table reports (.declare duties (.declare _ (.table _ .empty))), rfl⟩

/-- The registry of users, roles, duties and reports is valid: its keys of two columns are
composite, and the reports do not lead back to themselves. -/
theorem rota_valid :
    ∃ draft, Draft.Declares .sqlite (declarations ++ [duties, reports]) draft ∧
      draft.build = .ok (rota .sqlite) ∧ (rota .sqlite).Valid ∧
      (rota .sqlite).tables.map Table.name = ["roles", "users", "duties", "reports"] ∧
      (rota .sqlite).tables.map Table.primaryKey =
        [some ⟨none, .single "id"⟩, some ⟨none, .single "seq"⟩,
          some ⟨none, .composite ["user", "role"]⟩, some ⟨none, .single "id"⟩] ∧
      (∀ table, ¬Relation.TransGen (rota .sqlite).Refers table table) ∧
      ∃ table column, (rota .sqlite).column ⟨report, "on_role"⟩ = .ok (table, column) ∧
        (rota .sqlite).table report = .ok table ∧ column ∈ table.columns := by
  obtain ⟨draft, declared, builds⟩ : ∃ draft,
      Draft.Declares .sqlite (declarations ++ [duties, reports]) draft ∧
        draft.build = .ok (rota .sqlite) :=
    ⟨_, .table reports (.declare duties (.declare _ (.table _ .empty))), rfl⟩
  obtain ⟨-, -, valid, -, acyclic, -, -, columns⟩ := declared_registry_valid declared builds
  obtain ⟨table, column, found⟩ : ∃ table column,
      (rota .sqlite).column ⟨report, "on_role"⟩ = .ok (table, column) :=
    ⟨_, _, rfl⟩
  obtain ⟨mapped, listed, -⟩ := (columns _ _ _).mp found
  exact ⟨draft, declared, builds, valid, rfl, rfl, acyclic, table, column, found, mapped, listed⟩

end Staff

end TableMapping
