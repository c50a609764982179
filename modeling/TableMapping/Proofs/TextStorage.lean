import TableMapping.Proofs.Request.Absent
import TableMapping.Proofs.ValueOrder

/-!
# Rows selected on text storage

A database that is handed text forms selects the same rows as one with native types. Both compare
values of one kind by their order, and the text forms of identifiers, dates and times of day are in
the order of what they stand for. So every condition is as true of rows that are stored as texts as
it is of the rows themselves, and every query puts together the same rows.
-/

namespace TableMapping

/-! ## Tests by the order of values -/

/-- The comparison is true of values in the given order. A match with a pattern is no matter of
order. -/
def Comparison.admits : Comparison → Ordering → Bool
  | .eq, order => order.isEq
  | .notEq, order => order.isNe
  | .lt, order => order.isLT
  | .le, order => order.isLE
  | .gt, order => order.isGT
  | .ge, order => order.isGE
  | .like, _ => false

/-- The value of what is certain. -/
def Truth.ofBool : Bool → Truth
  | .true => .true
  | .false => .false

namespace Test

/-- Whether a comparison of a value with an operand is true. It is unknown if the two have no
order. Which values match which patterns is left to the database. -/
def comparisonTruth (matching : SqlValue → SqlValue → Truth) (comparison : Comparison)
    (value operand : SqlValue) : Truth :=
  if comparison = .like then
    matching value operand
  else
    match value.order? operand with
    | none => .unknown
    | some order => .ofBool (comparison.admits order)

/-- The tests of a database that compares values by their order. -/
def byOrder (matching : SqlValue → SqlValue → Truth) : Tests
  | .compare _ comparison operand, value => comparisonTruth matching comparison value operand
  | .isNull _, value => .ofBool value.isNull
  | .isNotNull _, value => .ofBool !value.isNull

end Test

/-! ## Columns that are compared -/

/-- The kinds of values in the columns that are compared. -/
abbrev ColumnKinds := ColumnRef → Option SqlValue.Kind

/-- The value may stand in a column with values of the given kind that is compared: it is absent, or
of the kind and kept in its place by its text form. -/
def SqlValue.Fits (kind : SqlValue.Kind) (value : SqlValue) : Prop :=
  value = .null ∨ value.kind = kind ∧ value.SortsAsText

/-- Every row has values of the right kinds in the columns that are compared. -/
def Combination.Fits (kinds : ColumnKinds) (combination : Combination) : Prop :=
  ∀ named ∈ combination, ∀ column, ∀ kind ∈ kinds ⟨named.1, column⟩, (named.2 column).Fits kind

/-- Every row of every table has values of the right kinds in the columns that are compared. -/
def Database.Fits (kinds : ColumnKinds) (database : Database) : Prop :=
  ∀ table, ∀ row ∈ database table, ∀ column, ∀ kind ∈ kinds ⟨table, column⟩, (row column).Fits kind

/-- The atomic condition compares values of one kind only, and texts only with patterns. -/
def Atom.Compares (kinds : ColumnKinds) : Atom → Prop
  | .test (.compare column comparison operand) =>
      ∃ kind ∈ kinds column, operand.Fits kind ∧ (comparison = .like → kind = .text)
  | .test (.isNull _) | .test (.isNotNull _) => True
  | .columnsEqual left right => ∃ kind, kind ∈ kinds left ∧ kind ∈ kinds right

/-- The condition compares values of one kind only. -/
def Condition.Compares (kinds : ColumnKinds) (condition : Condition) : Prop :=
  ∀ atom ∈ condition.atoms, atom.Compares kinds

/-! ## Stored rows -/

namespace Dialect

/-- The row as the database stores it. -/
def storedRow (dialect : Dialect) (row : Row) : Row := fun column => dialect.bind (row column)

/-- The rows side by side as the database stores them. -/
def storedRows (dialect : Dialect) (combination : Combination) : Combination :=
  combination.map fun named => (named.1, dialect.storedRow named.2)

/-- The contents of the tables as the database stores them. -/
def stored (dialect : Dialect) (database : Database) : Database :=
  fun table => (database table).map dialect.storedRow

theorem storedRow_null (dialect : Dialect) :
    dialect.storedRow (fun _ => .null) = fun _ => .null :=
  funext fun _ => bind_eq_null.mpr rfl

@[simp]
theorem storedRows_append (dialect : Dialect) (combination other : Combination) :
    dialect.storedRows (combination ++ other) =
      dialect.storedRows combination ++ dialect.storedRows other :=
  List.map_append

theorem isNull_bind (dialect : Dialect) (value : SqlValue) :
    (dialect.bind value).isNull = value.isNull := by
  rw [Bool.eq_iff_iff, SqlValue.isNull_iff, SqlValue.isNull_iff, bind_eq_null]

theorem value_storedRows (dialect : Dialect) (combination : Combination) (column : ColumnRef) :
    (dialect.storedRows combination).value column = dialect.bind (combination.value column) := by
  have found : (dialect.storedRows combination).find? (fun named => named.1 = column.table) =
      (combination.find? fun named => named.1 = column.table).map fun named =>
        (named.1, dialect.storedRow named.2) := by
    rw [storedRows, List.find?_map]
    rfl
  rw [Combination.value, Combination.value, found]
  cases combination.find? fun named => named.1 = column.table with
  | none => exact (bind_eq_null.mpr rfl).symm
  | some named => rfl

end Dialect

/-! ## Conditions on stored rows -/

section Conditions

variable {dialect : Dialect} {kinds : ColumnKinds} {matching : SqlValue → SqlValue → Truth}

theorem Combination.Fits.append {combination other : Combination} (fits : combination.Fits kinds)
    (other_fits : other.Fits kinds) : Combination.Fits kinds (combination ++ other) :=
  List.forall_mem_append.mpr ⟨fits, other_fits⟩

theorem Combination.Fits.value {combination : Combination} (fits : combination.Fits kinds)
    {column : ColumnRef} {kind : SqlValue.Kind} (known : kind ∈ kinds column) :
    (combination.value column).Fits kind := by
  unfold Combination.value
  split
  · rename_i named found
    have table : named.1 = column.table := by simpa using List.find?_some found
    refine fits named (List.mem_of_find?_eq_some found) column.column kind ?_
    rw [table]
    exact known
  · exact .inl rfl

namespace SqlValue

theorem Fits.order?_bind {kind : Kind} {value operand : SqlValue} (fits : value.Fits kind)
    (operand_fits : operand.Fits kind) :
    (dialect.bind value).order? (dialect.bind operand) = value.order? operand := by
  have null : dialect.bind .null = .null := Dialect.bind_eq_null.mpr rfl
  have above (other : SqlValue) : SqlValue.null.order? other = none := by cases other <;> rfl
  have below (other : SqlValue) : other.order? .null = none := by cases other <;> rfl
  rcases fits with rfl | ⟨own, sorts⟩
  · rw [null, above, above]
  · rcases operand_fits with rfl | ⟨same, operand_sorts⟩
    · rw [null, below, below]
    · exact SqlValue.order?_bind dialect (own.trans same.symm) sorts operand_sorts

theorem Fits.bind_eq_bind {kind : Kind} {value other : SqlValue} (fits : value.Fits kind)
    (other_fits : other.Fits kind) : dialect.bind value = dialect.bind other ↔ value = other := by
  refine ⟨fun same => ?_, fun same => same ▸ rfl⟩
  rcases fits with rfl | ⟨own, sorts⟩
  · rw [Dialect.bind_eq_null.mpr rfl] at same
    exact (Dialect.bind_eq_null.mp same.symm).symm
  · rcases other_fits with rfl | ⟨own', sorts'⟩
    · rw [Dialect.bind_eq_null.mpr rfl] at same
      exact Dialect.bind_eq_null.mp same
    · have same_kind : value.kind = other.kind := own.trans own'.symm
      by_cases absent : value = .null
      · rw [absent, Dialect.bind_eq_null.mpr rfl] at same
        rw [absent, Dialect.bind_eq_null.mp same.symm]
      · have level : (dialect.bind value).order? (dialect.bind other) = some .eq := by
          rw [← same, order?_self (mt Dialect.bind_eq_null.mp absent)]
        rw [SqlValue.order?_bind dialect same_kind sorts sorts'] at level
        exact (order?_eq_eq same_kind sorts absent).mp level

theorem Fits.equal_bind {kind : Kind} {value other : SqlValue} (fits : value.Fits kind)
    (other_fits : other.Fits kind) :
    (dialect.bind value).equal (dialect.bind other) = value.equal other := by
  simp only [equal, Dialect.bind_eq_null, fits.bind_eq_bind other_fits]

theorem Fits.bind_text {value : SqlValue} (fits : value.Fits .text) :
    dialect.bind value = value := by
  rcases fits with rfl | ⟨own, -⟩
  · exact Dialect.bind_eq_null.mpr rfl
  · cases value <;> cases own
    simp [Dialect.bind, textForm]

end SqlValue

/-- A test is as true of a stored row as it is of the row. -/
theorem Atom.truth_bound {atom : Atom} (compares : atom.Compares kinds) {combination : Combination}
    (fits : combination.Fits kinds) :
    (atom.bound dialect).truth (Test.byOrder matching) (dialect.storedRows combination) =
      atom.truth (Test.byOrder matching) combination := by
  cases atom with
  | columnsEqual left right =>
      obtain ⟨kind, left_kind, right_kind⟩ := compares
      simp only [bound, truth, Dialect.value_storedRows]
      exact (fits.value left_kind).equal_bind (fits.value right_kind)
  | test test =>
      cases test with
      | isNull column =>
          simp only [bound, truth, Test.column, Test.byOrder, Dialect.value_storedRows,
            Dialect.isNull_bind]
      | isNotNull column =>
          simp only [bound, truth, Test.column, Test.byOrder, Dialect.value_storedRows,
            Dialect.isNull_bind]
      | compare column comparison operand =>
          obtain ⟨kind, known, operand_fits, pattern⟩ := compares
          have value_fits := fits.value known
          simp only [bound, truth, Test.column, Test.byOrder, Dialect.value_storedRows,
            Test.comparisonTruth]
          split
          · rename_i like
            obtain rfl := pattern like
            rw [value_fits.bind_text, operand_fits.bind_text]
          · rw [value_fits.order?_bind operand_fits]

/-- A condition is as true of stored rows as it is of the rows. -/
theorem Condition.admits_bound {filter : Option Condition}
    (compares : ∀ condition ∈ filter, condition.Compares kinds) {combination : Combination}
    (fits : combination.Fits kinds) :
    Condition.Admits (Test.byOrder matching) (dialect.storedRows combination)
        (filter.map (Condition.bound dialect)) ↔
      Condition.Admits (Test.byOrder matching) combination filter := by
  have value (condition : Condition) (listed : condition.Compares kinds) :
      (condition.bound dialect).eval
          (Atom.truth (Test.byOrder matching) (dialect.storedRows combination)) =
        condition.eval (Atom.truth (Test.byOrder matching) combination) := by
    unfold Condition.bound
    induction condition with
    | atom atom => exact Atom.truth_bound (listed atom List.mem_cons_self) fits
    | node connective left right left_ih right_ih =>
        have left_value := left_ih fun atom member => listed atom (List.mem_append_left _ member)
        have right_value := right_ih fun atom member => listed atom (List.mem_append_right _ member)
        rw [Formula.map, Formula.eval, Formula.eval, left_value, right_value]
  cases filter with
  | none => simp [Condition.Admits]
  | some condition =>
      have same := value condition (compares condition rfl)
      simp [Condition.Admits, same]

end Conditions

/-! ## Queries on stored rows -/

/-- The join with its values in the form in which the database takes them. -/
def JoinClause.bound (dialect : Dialect) (join : JoinClause) : JoinClause :=
  ⟨join.kind, join.table, join.on.map (Condition.bound dialect)⟩

/-- The query with its values in the form in which the database takes them. -/
def Query.bound (dialect : Dialect) (query : Query) : Query :=
  ⟨query.source, query.joins.map (JoinClause.bound dialect),
    query.filter.map (Condition.bound dialect)⟩

/-- The filter with its values in the form in which the database takes them. -/
def RowFilter.bound (dialect : Dialect) : RowFilter → RowFilter
  | .all => .all
  | .condition single => .condition (single.bound dialect)
  | .exists query => .exists (query.bound dialect)

/-- The statement with its values in the form in which the database takes them. -/
def RowStatement.bound (dialect : Dialect) : RowStatement → RowStatement
  | .select query => .select (query.bound dialect)
  | .change table filter => .change table (filter.bound dialect)

section Queries

variable {dialect : Dialect} {kinds : ColumnKinds} {matching : SqlValue → SqlValue → Truth}
  {database : Database} {outer : Combination}

theorem Combination.fits_singleton {table : String} {row : Row}
    (fits : ∀ column, ∀ kind ∈ kinds ⟨table, column⟩, (row column).Fits kind) :
    Combination.Fits kinds [(table, row)] :=
  fun named member => by
    obtain rfl := List.mem_singleton.mp member
    exact fits

namespace JoinClause

theorem fits_of_mem_extend (stored : database.Fits kinds) {join : JoinClause}
    {combination longer : Combination} (fits : combination.Fits kinds)
    (extended : longer ∈ join.extend database (Test.byOrder matching) outer combination) :
    longer.Fits kinds := by
  obtain ⟨row, kept, rfl⟩ := List.mem_map.mp extended
  refine fits.append (Combination.fits_singleton ?_)
  split at kept
  · obtain rfl := List.mem_singleton.mp kept
    exact fun column kind _ => .inl rfl
  · exact stored join.table row (List.mem_of_mem_filter kept)

/-- A join puts the same rows together when they are stored. -/
theorem extend_bound (stored : database.Fits kinds) (outer_fits : outer.Fits kinds)
    {join : JoinClause} (compares : ∀ condition ∈ join.on, condition.Compares kinds)
    {combination : Combination} (fits : combination.Fits kinds) :
    (join.bound dialect).extend (dialect.stored database) (Test.byOrder matching)
        (dialect.storedRows outer) (dialect.storedRows combination) =
      (join.extend database (Test.byOrder matching) outer combination).map dialect.storedRows := by
  have partners : (dialect.stored database join.table).filter (fun row =>
      Condition.Admits (Test.byOrder matching)
        (dialect.storedRows combination ++ [(join.table, row)] ++ dialect.storedRows outer)
        (join.on.map (Condition.bound dialect))) =
      ((database join.table).filter fun row => Condition.Admits (Test.byOrder matching)
        (combination ++ [(join.table, row)] ++ outer) join.on).map dialect.storedRow := by
    rw [Dialect.stored, List.filter_map]
    refine congrArg (List.map dialect.storedRow) (List.filter_congr fun row member => ?_)
    have row_fits := Combination.fits_singleton (stored join.table row member)
    have same : Condition.Admits (Test.byOrder matching)
        (dialect.storedRows (combination ++ [(join.table, row)] ++ outer))
        (join.on.map (Condition.bound dialect)) ↔
      Condition.Admits (Test.byOrder matching) (combination ++ [(join.table, row)] ++ outer)
        join.on :=
      Condition.admits_bound compares ((fits.append row_fits).append outer_fits)
    rw [Dialect.storedRows_append, Dialect.storedRows_append] at same
    exact decide_eq_decide.mpr same
  have kind : (join.bound dialect).kind = join.kind := rfl
  have table : (join.bound dialect).table = join.table := rfl
  have on : (join.bound dialect).on = join.on.map (Condition.bound dialect) := rfl
  simp only [extend, kind, table, on, partners, List.map_eq_nil_iff, List.map_map]
  split
  · simp [Dialect.storedRows, Dialect.storedRow_null]
  · rw [List.map_map]
    exact List.map_congr_left fun row _ => by simp [Dialect.storedRows]

theorem extendAll_bound (stored : database.Fits kinds) (outer_fits : outer.Fits kinds)
    {joins : List JoinClause}
    (compares : ∀ join ∈ joins, ∀ condition ∈ join.on, condition.Compares kinds)
    {combinations : List Combination}
    (fits : ∀ combination ∈ combinations, combination.Fits kinds) :
    extendAll (dialect.stored database) (Test.byOrder matching) (dialect.storedRows outer)
        (joins.map (JoinClause.bound dialect)) (combinations.map dialect.storedRows) =
      (extendAll database (Test.byOrder matching) outer joins combinations).map
        dialect.storedRows := by
  induction joins generalizing combinations with
  | nil => rfl
  | cons join rest ih =>
      have own : ∀ condition ∈ join.on, condition.Compares kinds :=
        compares join List.mem_cons_self
      have later : ∀ other ∈ rest, ∀ condition ∈ other.on, condition.Compares kinds :=
        fun other member => compares other (List.mem_cons_of_mem join member)
      have first : (combinations.map dialect.storedRows).flatMap
          ((join.bound dialect).extend (dialect.stored database) (Test.byOrder matching)
            (dialect.storedRows outer)) =
          (combinations.flatMap (join.extend database (Test.byOrder matching) outer)).map
            dialect.storedRows := by
        rw [List.flatMap_map, List.map_flatMap, List.flatMap_def, List.flatMap_def]
        refine congrArg List.flatten (List.map_congr_left fun combination member => ?_)
        exact extend_bound stored outer_fits own (fits combination member)
      have still_fits : ∀ longer ∈ combinations.flatMap
          (join.extend database (Test.byOrder matching) outer), longer.Fits kinds := by
        intro longer member
        obtain ⟨combination, listed, extended⟩ := List.mem_flatMap.mp member
        exact fits_of_mem_extend stored (fits combination listed) extended
      rw [List.map_cons, extendAll, first, ih later still_fits, extendAll]

theorem fits_of_mem_extendAll (stored : database.Fits kinds) {joins : List JoinClause}
    {combinations : List Combination} (fits : ∀ combination ∈ combinations, combination.Fits kinds)
    {longer : Combination}
    (member : longer ∈ extendAll database (Test.byOrder matching) outer joins combinations) :
    longer.Fits kinds := by
  induction joins generalizing combinations with
  | nil => exact fits longer member
  | cons join rest ih =>
      refine ih (fun combination listed => ?_) member
      obtain ⟨start, started, extended⟩ := List.mem_flatMap.mp listed
      exact fits_of_mem_extend stored (fits start started) extended

end JoinClause

/-- A query puts the same rows together when they are stored. -/
theorem Query.rows_bound (stored : database.Fits kinds) (outer_fits : outer.Fits kinds)
    {query : Query} (compares : ∀ condition ∈ query.conditions, condition.Compares kinds) :
    (query.bound dialect).rows (dialect.stored database) (Test.byOrder matching)
        (dialect.storedRows outer) =
      (query.rows database (Test.byOrder matching) outer).map dialect.storedRows := by
  have joined : ∀ join ∈ query.joins, ∀ condition ∈ join.on, condition.Compares kinds :=
    fun join member condition on => compares condition
      (List.mem_append_left _ (List.mem_filterMap.mpr ⟨join, member, on⟩))
  have filtered : ∀ condition ∈ query.filter, condition.Compares kinds :=
    fun condition present => compares condition
      (List.mem_append_right _ (Option.mem_toList.mpr present))
  have start : (dialect.stored database query.source).map (fun row => [(query.source, row)]) =
      ((database query.source).map fun row => [(query.source, row)]).map dialect.storedRows := by
    rw [Dialect.stored, List.map_map, List.map_map]
    rfl
  have start_fits : ∀ combination ∈ (database query.source).map fun row => [(query.source, row)],
      Combination.Fits kinds combination := by
    intro combination member
    obtain ⟨row, listed, rfl⟩ := List.mem_map.mp member
    exact Combination.fits_singleton (stored query.source row listed)
  have source : (query.bound dialect).source = query.source := rfl
  have joins : (query.bound dialect).joins = query.joins.map (JoinClause.bound dialect) := rfl
  have filter : (query.bound dialect).filter = query.filter.map (Condition.bound dialect) := rfl
  rw [rows, source, joins, filter, start, JoinClause.extendAll_bound stored outer_fits joined
    start_fits, List.filter_map, rows]
  refine congrArg (List.map dialect.storedRows) (List.filter_congr fun combination member => ?_)
  have fits := JoinClause.fits_of_mem_extendAll stored start_fits member
  have same : Condition.Admits (Test.byOrder matching)
      (dialect.storedRows (combination ++ outer)) (query.filter.map (Condition.bound dialect)) ↔
    Condition.Admits (Test.byOrder matching) (combination ++ outer) query.filter :=
    Condition.admits_bound filtered (fits.append outer_fits)
  rw [Dialect.storedRows_append] at same
  exact decide_eq_decide.mpr same

theorem RowFilter.admits_bound (stored : database.Fits kinds) {table : String} {filter : RowFilter}
    (compares : ∀ condition ∈ (RowStatement.change table filter).conditions,
      condition.Compares kinds) {row : Row} (member : row ∈ database table) :
    (filter.bound dialect).Admits (dialect.stored database) (Test.byOrder matching) table
        (dialect.storedRow row) ↔
      filter.Admits database (Test.byOrder matching) table row := by
  have fits := Combination.fits_singleton (stored table row member)
  cases filter with
  | all => exact Iff.rfl
  | condition single =>
      have own : ∀ condition ∈ some single, condition.Compares kinds :=
        fun condition present => compares condition
          (List.mem_singleton.mpr (Option.mem_some.mp present).symm)
      exact Condition.admits_bound own fits
  | «exists» query =>
      have same : (query.bound dialect).rows (dialect.stored database) (Test.byOrder matching)
          (dialect.storedRows [(table, row)]) =
        (query.rows database (Test.byOrder matching) [(table, row)]).map dialect.storedRows :=
        Query.rows_bound stored fits compares
      have none : (query.rows database (Test.byOrder matching) [(table, row)]).map
          dialect.storedRows = [] ↔
            query.rows database (Test.byOrder matching) [(table, row)] = [] :=
        List.map_eq_nil_iff
      exact not_congr (same ▸ none)

end Queries

/-! ## Statements on stored rows -/

instance (database : Database) (tests : Tests) (table : String) (row : Row) :
    (filter : RowFilter) → Decidable (filter.Admits database tests table row)
  | .all => .isTrue trivial
  | .condition single => inferInstanceAs (Decidable (Condition.Admits tests _ (some single)))
  | .exists query => inferInstanceAs (Decidable (query.rows database tests _ ≠ []))

/-- The rows that a statement returns or changes. -/
def RowStatement.chosen (database : Database) (tests : Tests) : RowStatement → List Combination
  | select query => query.rows database tests []
  | change table filter =>
      ((database table).filter fun row => filter.Admits database tests table row).map fun row =>
        [(table, row)]

/-- A statement returns or changes the same rows when they are stored. -/
theorem RowStatement.chosen_bound {kinds : ColumnKinds} {matching : SqlValue → SqlValue → Truth}
    {database : Database} (stored : database.Fits kinds) {statement : RowStatement}
    (compares : ∀ condition ∈ statement.conditions, condition.Compares kinds) (dialect : Dialect) :
    (statement.bound dialect).chosen (dialect.stored database) (Test.byOrder matching) =
      (statement.chosen database (Test.byOrder matching)).map dialect.storedRows := by
  cases statement with
  | select query => exact Query.rows_bound stored (List.forall_mem_nil _) compares
  | change table filter =>
      rw [bound, chosen, chosen, Dialect.stored, List.filter_map, List.map_map, List.map_map]
      have kept : (database table).filter ((fun row => decide ((filter.bound dialect).Admits
          (dialect.stored database) (Test.byOrder matching) table row)) ∘ dialect.storedRow) =
          (database table).filter fun row => decide (filter.Admits database (Test.byOrder matching)
            table row) :=
        List.filter_congr fun row member =>
          decide_eq_decide.mpr (RowFilter.admits_bound stored compares member)
      rw [kept]
      rfl

/-! ## Readings of a statement for two dialects -/

section Readings

variable {native : Dialect} (keeps : native.storesTemporalAsText = false)
include keeps

/-- What a native dialect takes as it is, another one takes in its own form. -/
theorem Condition.reading_eq_bound (dialect : Dialect) (condition : Condition) :
    condition.reading dialect = (condition.reading native).bound dialect := by
  have as_is : Atom.bound native = id := by
    funext atom
    cases atom with
    | columnsEqual left right => rfl
    | test test => cases test <;> simp [Atom.bound, Dialect.bind, keeps]
  have unchanged (condition : Condition) : condition.bound native = condition := by
    unfold bound
    rw [as_is]
    induction condition with
    | atom atom => rfl
    | node connective left right left_ih right_ih => rw [Formula.map, left_ih, right_ih]
  rw [reading, reading, unchanged]
  exact Formula.leftAssociated_map (Atom.bound dialect) condition

theorem Join.reading_eq_bound (dialect : Dialect) (join : Join) :
    join.reading dialect = (join.reading native).bound dialect := by
  simp only [reading, JoinClause.bound, Option.map_map]
  refine congrArg (JoinClause.mk join.kind join.table) ?_
  exact Option.map_congr fun condition _ => Condition.reading_eq_bound keeps dialect condition

theorem RowFilter.ofJoins_eq_bound (dialect : Dialect) (filter : Option Condition)
    (joins : List Join) :
    ofJoins dialect filter joins = (ofJoins native filter joins).bound dialect := by
  cases joins with
  | nil => cases filter <;> simp [ofJoins, bound, Condition.reading_eq_bound keeps dialect]
  | cons first rest =>
      have condition := funext (Condition.reading_eq_bound keeps dialect)
      have join := funext (Join.reading_eq_bound keeps dialect)
      simp only [ofJoins, bound, Query.bound, List.map_map, Option.map_map, condition, join]
      rfl

theorem Statement.reading?_eq_bound (dialect : Dialect) (statement : Statement) :
    statement.reading? dialect = (statement.reading? native).map (RowStatement.bound dialect) := by
  have filter := RowFilter.ofJoins_eq_bound keeps dialect
  cases statement with
  | select tree =>
      have condition := funext (Condition.reading_eq_bound keeps dialect)
      have join := funext (Join.reading_eq_bound keeps dialect)
      simp only [reading?, Select.reading, Option.map_some, RowStatement.bound, Query.bound,
        List.map_map, Option.map_map, condition, join]
      rfl
  | update tree | delete tree =>
      simp only [reading?, Option.map_some, RowStatement.bound, filter]
  | createTable tree | insert tree => rfl

end Readings

/-! ## Requests -/

namespace RowRequest

variable {request : RowRequest} {source : Source} {tables : List Table} {dialect : Dialect}
  {compiled : CompiledStatement}

/-- What can be asked of one database can be asked of another with the same tables, in a statement
of the same tree. -/
theorem exists_compile (compiles : request.compile ⟨dialect, tables⟩ source = .ok compiled)
    (other : Dialect) :
    ∃ resolved assigned other_compiled,
      (request.tree resolved assigned).compile dialect = .ok compiled ∧
      request.compile ⟨other, tables⟩ source = .ok other_compiled ∧
      (request.tree resolved assigned).compile other = .ok other_compiled := by
  obtain ⟨tree, asked, written⟩ := bind_eq_ok.mp (compile_eq.symm.trans compiles)
  have asked_other : request.statement ⟨other, tables⟩ source = .ok tree := asked
  obtain ⟨resolved, assigned, -, -, rfl⟩ := statement_eq_ok.mp asked
  have compiles_here := mapError_eq_ok.mp written
  have no_fault : (request.tree resolved assigned).fault? other = none := by
    have sound := (Statement.compile_eq_ok.mp compiles_here).1
    cases request <;> exact sound
  have compiles_there := Statement.compile_eq_ok.mpr ⟨no_fault, rfl⟩
  refine ⟨resolved, assigned, _, compiles_here, ?_, compiles_there⟩
  rw [compile_eq, asked_other]
  exact mapError_eq_ok.mpr compiles_there

end RowRequest

/-- On a database that is handed text forms, comparing texts compares what they show. The texts of
any two UUIDs, times of day, dates and local dates and times, the latter two with years of four
digits, are byte by byte in the order of the values that they show, which are the values themselves
except for times within a leap second that does not end a minute: these lose their place among the
others. So whatever is asked for, the statement for such a database returns or changes, among stored
rows, the rows that the one for a database with native types does, as long as it compares columns of
UUIDs, dates, times and plain values with values of their kind, all of which keep their place. -/
theorem rows_selected_alike_on_text_storage (tables : List Table) :
    ((∀ uuid other : Uuid,
        Dialect.sqlite.TextsCompare (.uuid uuid) (.uuid other) (compare uuid other)) ∧
      (∀ date other : Date, date.HasPlainYear → other.HasPlainYear →
        Dialect.sqlite.TextsCompare (.date date) (.date other) (compare date other)) ∧
      (∀ moment other : DateTime, moment.date.HasPlainYear → other.date.HasPlainYear →
        Dialect.sqlite.TextsCompare (.dateTime moment) (.dateTime other)
          (compare moment.shown other.shown)) ∧
      (∀ moment : DateTime, moment.date.HasPlainYear →
        ((∀ other : DateTime, other.date.HasPlainYear → other.time.Plain →
            Dialect.sqlite.TextsCompare (.dateTime moment) (.dateTime other)
              (compare moment other)) ↔
          moment.time.Plain)) ∧
      (∀ time other : TimeOfDay,
        Dialect.sqlite.TextsCompare (.time time) (.time other) (compare time.shown other.shown)) ∧
      ∀ time : TimeOfDay,
        (∀ other : TimeOfDay, other.Plain →
          Dialect.sqlite.TextsCompare (.time time) (.time other) (compare time other)) ↔
        time.Plain) ∧
    ∀ (native : Dialect) (request : RowRequest) (source : Source) (compiled : CompiledStatement),
      native ≠ .sqlite →
      request.compile ⟨native, tables⟩ source = .ok compiled →
      ∃ text_compiled statement text_statement,
        request.compile ⟨.sqlite, tables⟩ source = .ok text_compiled ∧
        compiled.rowStatement? native = some statement ∧
        text_compiled.rowStatement? .sqlite = some text_statement ∧
        ∀ (kinds : ColumnKinds) (matching : SqlValue → SqlValue → Truth) (database : Database),
          (∀ condition ∈ statement.conditions, condition.Compares kinds) → database.Fits kinds →
          text_statement.chosen (Dialect.sqlite.stored database) (Test.byOrder matching) =
            (statement.chosen database (Test.byOrder matching)).map
              Dialect.sqlite.storedRows := by
  refine ⟨⟨fun uuid other => ⟨_, _, rfl, rfl, Uuid.byteOrder_text uuid other⟩,
    fun date other plain other_plain =>
      ⟨_, _, rfl, rfl, Date.byteOrder_text plain other_plain⟩,
    fun moment other plain other_plain =>
      ⟨_, _, rfl, rfl, DateTime.byteOrder_text plain other_plain⟩,
    fun moment plain => DateTime.keepsPlace_iff plain,
    fun time other => ⟨_, _, rfl, rfl, TimeOfDay.byteOrder_text time other⟩,
    TimeOfDay.keepsPlace_iff⟩, ?_⟩
  intro native request source compiled not_text compiles
  have keeps : native.storesTemporalAsText = false := by
    cases native with
    | h2 | postgresql => rfl
    | sqlite => exact absurd rfl not_text
  obtain ⟨resolved, assigned, text_compiled, here, there, text_written⟩ :=
    RowRequest.exists_compile compiles .sqlite
  obtain ⟨statement, reads⟩ : ∃ statement,
      (request.tree resolved assigned).reading? native = some statement := by
    cases request <;> exact ⟨_, rfl⟩
  have text_reads : (request.tree resolved assigned).reading? .sqlite =
      some (statement.bound .sqlite) := by
    rw [Statement.reading?_eq_bound keeps, reads, Option.map_some]
  exact ⟨text_compiled, statement, statement.bound .sqlite, there,
    Statement.rowStatement?_compile here reads,
    Statement.rowStatement?_compile text_written text_reads,
    fun kinds matching database compares stored =>
      RowStatement.chosen_bound stored compares .sqlite⟩

namespace Staff

/-- The shifts of users. -/
def shift : RecordType := ⟨"Shift"⟩

/-- The table of shifts, with the day of each. -/
def shifts : Table :=
  ⟨shift, "shifts", [⟨⟨"worked_on", ⟨.date, false⟩⟩, "worked_on", .date, rfl⟩], none, []⟩

/-- The last day of a year. -/
def yearEnd : Date := ⟨2023, 12, 31, by decide, by decide, by decide⟩

/-- The leap day after it. -/
def leapDay : Date := ⟨2024, 2, 29, by decide, by decide, by decide⟩

/-- The shifts from a leap day on. -/
def laterShifts : Source :=
  (Source.all shift).filtered (.compare ⟨shift, "worked_on"⟩ .ge (.date leapDay))

/-- The query for them. -/
def laterShiftsQuery : Query :=
  ⟨"shifts", [], some (.atom (.test (.compare ⟨"shifts", "worked_on"⟩ .ge (.date leapDay))))⟩

/-- One shift on the last day of a year, and one on the leap day. -/
def shiftRows : Database :=
  fun table => if table = "shifts" then [fun _ => .date yearEnd, fun _ => .date leapDay] else []

/-- The text of the last day of a year comes before that of the leap day, and the query for the
shifts from then on returns just the later one on text storage, too. -/
theorem later_shifts_selected_alike :
    Dialect.sqlite.TextsCompare (.date yearEnd) (.date leapDay) .lt ∧
    ∃ text_compiled text_statement,
      RowRequest.select.compile ⟨.sqlite, [shifts]⟩ laterShifts = .ok text_compiled ∧
      text_compiled.rowStatement? .sqlite = some text_statement ∧
      ∀ matching,
        text_statement.chosen (Dialect.sqlite.stored shiftRows) (Test.byOrder matching) =
          [[("shifts", fun _ => .text "2024-02-29")]] := by
  constructor
  · exact (rows_selected_alike_on_text_storage [shifts]).1.2.1 yearEnd leapDay (by decide)
      (by decide)
  · obtain ⟨compiled, compiles, written⟩ : ∃ compiled,
        RowRequest.select.compile ⟨.postgresql, [shifts]⟩ laterShifts = .ok compiled ∧
          (Statement.select ⟨[⟨"shifts", "worked_on"⟩], "shifts", [],
            laterShiftsQuery.filter⟩).compile .postgresql = .ok compiled := ⟨_, rfl, rfl⟩
    have read : compiled.rowStatement? .postgresql = some (.select laterShiftsQuery) :=
      Statement.rowStatement?_compile written rfl
    obtain ⟨text_compiled, statement, text_statement, text_compiles, reads, text_reads, alike⟩ :=
      (rows_selected_alike_on_text_storage [shifts]).2 _ _ _ _ (by decide) compiles
    obtain rfl := Option.some.inj (reads.symm.trans read)
    refine ⟨text_compiled, text_statement, text_compiles, text_reads, fun matching => ?_⟩
    have compares : ∀ condition ∈ laterShiftsQuery.conditions,
        condition.Compares fun _ => some .date := by
      intro condition listed atom member
      rw [List.mem_singleton.mp listed] at member
      rw [List.mem_singleton.mp member]
      exact ⟨.date, rfl, .inr ⟨rfl, show leapDay.HasPlainYear by decide⟩, fun like => by cases like⟩
    have plain : yearEnd.HasPlainYear ∧ leapDay.HasPlainYear := by decide
    have stored : shiftRows.Fits fun _ => some .date := by
      intro table row member column kind known
      obtain rfl := Option.some.inj known
      unfold shiftRows at member
      split at member
      · rcases List.mem_pair.mp member with rfl | rfl
        · exact .inr ⟨rfl, plain.1⟩
        · exact .inr ⟨rfl, plain.2⟩
      · cases member
    have later : RowStatement.chosen shiftRows (Test.byOrder matching) (.select laterShiftsQuery) =
        [[("shifts", fun _ => .date leapDay)]] := rfl
    have text : Dialect.sqlite.bind (.date leapDay) = .text "2024-02-29" := by decide
    rw [alike _ matching shiftRows compares stored, later, ← text]
    rfl

end Staff

namespace TimeOfDay

/-- A fifth of a second after the fifth second of a minute. -/
def earlierInSixthSecond : TimeOfDay :=
  { afterFifthSecond with nanosecond := 200000000, nanosecond_range := by decide }

/-- A time within a leap second that does not end a minute comes before two times of the next
second, but it has the same text as the one and a greater text than the other. -/
theorem leap_second_misplaced :
    (compare withinMinute afterFifthSecond = .lt ∧
      Dialect.sqlite.TextsCompare (.time withinMinute) (.time afterFifthSecond) .eq) ∧
    (compare withinMinute earlierInSixthSecond = .lt ∧
      Dialect.sqlite.TextsCompare (.time withinMinute) (.time earlierInSixthSecond) .gt) := by
  refine ⟨⟨by decide, ?_⟩, by decide, ?_⟩
  · exact ⟨_, _, rfl, rfl, (byteOrder_text _ _).trans (by decide)⟩
  · exact ⟨_, _, rfl, rfl, (byteOrder_text _ _).trans (by decide)⟩

end TimeOfDay

end TableMapping
