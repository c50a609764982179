import TableMapping.Proofs.Reading.Query

/-!
# Rows of a database

What a query returns and which rows a filter admits, for any contents of the tables and any meaning
of the tests of single columns. Rows are put side by side from left to right, join after join. A
subquery sees the row that it is asked for behind its own.
-/

namespace TableMapping

/-- The values of the columns of a row, by name. -/
abbrev Row := String → SqlValue

/-- The rows of each table, by the name of the table. -/
abbrev Database := String → List Row

/-- Whether tests of a column are true of the value of the column. -/
abbrev Tests := Test ColumnRef → SqlValue → Truth

/-- Rows side by side, each with the name of its table. -/
abbrev Combination := List (String × Row)

namespace SqlValue

/-- Whether two values are equal, which is unknown if one of them is absent. -/
def equal (left right : SqlValue) : Truth :=
  if left = .null ∨ right = .null then .unknown else if left = right then .true else .false

end SqlValue

namespace Test

/-- The column that is tested. -/
def column {χ : Type} : Test χ → χ
  | compare column _ _ => column
  | isNull column => column
  | isNotNull column => column

end Test

namespace Combination

/-- The value of a column in the first row of its table. Without such a row there is none. -/
def value (combination : Combination) (column : ColumnRef) : SqlValue :=
  match combination.find? fun named => named.1 = column.table with
  | some named => named.2 column.column
  | none => .null

end Combination

namespace Atom

/-- Whether an atomic condition is true of rows. -/
def truth (tests : Tests) (combination : Combination) : Atom → Truth
  | .test single => tests single (combination.value single.column)
  | .columnsEqual left right => (combination.value left).equal (combination.value right)

/-- The columns that an atomic condition is about. -/
def columns : Atom → List ColumnRef
  | .test single => [single.column]
  | .columnsEqual left right => [left, right]

end Atom

namespace Condition

/-- A condition, if there is one, is true of rows. -/
def Admits (tests : Tests) (combination : Combination) (filter : Option Condition) : Prop :=
  ∀ condition ∈ filter, condition.eval (Atom.truth tests combination) = .true

instance (tests : Tests) (combination : Combination) (filter : Option Condition) :
    Decidable (Admits tests combination filter) :=
  inferInstanceAs (Decidable (∀ condition ∈ filter, _))

end Condition

namespace JoinClause

/-- The rows with a row of the joined table beside them, or with an absent one if there is none and
the join keeps such rows. -/
def extend (database : Database) (tests : Tests) (outer : Combination) (join : JoinClause)
    (combination : Combination) : List Combination :=
  let partners := (database join.table).filter fun row =>
    Condition.Admits tests (combination ++ [(join.table, row)] ++ outer) join.on
  let kept := if join.kind = .leftOuter ∧ partners = [] then [fun _ => .null] else partners
  kept.map fun row => combination ++ [(join.table, row)]

/-- The rows with rows of all joined tables beside them, join after join. -/
def extendAll (database : Database) (tests : Tests) (outer : Combination) :
    List JoinClause → List Combination → List Combination
  | [], combinations => combinations
  | join :: rest, combinations =>
      extendAll database tests outer rest
        (combinations.flatMap (join.extend database tests outer))

end JoinClause

namespace Query

/-- The rows that a query returns, given the rows of the statement around it. -/
def rows (database : Database) (tests : Tests) (outer : Combination) (query : Query) :
    List Combination :=
  (JoinClause.extendAll database tests outer query.joins
    ((database query.source).map fun row => [(query.source, row)])).filter fun combination =>
      Condition.Admits tests (combination ++ outer) query.filter

end Query

namespace RowFilter

/-- A filter admits a row of a table. -/
def Admits (database : Database) (tests : Tests) (table : String) (row : Row) : RowFilter → Prop
  | .all => True
  | .condition single => Condition.Admits tests [(table, row)] (some single)
  | .exists query => query.rows database tests [(table, row)] ≠ []

end RowFilter

/-! ## What rows see -/

namespace Combination

theorem value_append_of_mem {combination : Combination} {column : ColumnRef}
    (seen : column.table ∈ combination.map Prod.fst) (outer : Combination) :
    Combination.value (combination ++ outer) column = combination.value column := by
  obtain ⟨named, member, same⟩ := List.mem_map.mp seen
  have found : (combination.find? fun named => named.1 = column.table).isSome = true := by
    rw [List.find?_isSome]
    exact ⟨named, member, by simp [same]⟩
  rw [value, value, List.find?_append, Option.or_of_isSome found]

theorem value_append_of_not_mem {combination : Combination} {column : ColumnRef}
    (unseen : column.table ∉ combination.map Prod.fst) (outer : Combination) :
    Combination.value (combination ++ outer) column = outer.value column := by
  have none : (combination.find? fun named => named.1 = column.table) = none := by
    rw [List.find?_eq_none]
    intro named member same
    exact unseen (List.mem_map.mpr ⟨named, member, by simpa using same⟩)
  rw [value, value, List.find?_append, none, Option.none_or]

theorem value_of_not_mem {combination : Combination} {column : ColumnRef}
    (unseen : column.table ∉ combination.map Prod.fst) : combination.value column = .null := by
  rw [← List.append_nil combination, value_append_of_not_mem unseen]
  rfl

theorem value_cons_eq {combination : Combination} {table : String}
    (other : table ∉ combination.map Prod.fst) (row : Row) (column : ColumnRef) :
    Combination.value ((table, row) :: combination) column =
      Combination.value (combination ++ [(table, row)]) column := by
  rw [← List.singleton_append]
  by_cases own : column.table = table
  · have seen : column.table ∈ [(table, row)].map Prod.fst := by simp [own]
    rw [value_append_of_mem seen, value_append_of_not_mem (own ▸ other)]
  · have unseen : column.table ∉ [(table, row)].map Prod.fst := by simp [own]
    rw [value_append_of_not_mem unseen]
    by_cases seen : column.table ∈ combination.map Prod.fst
    · rw [value_append_of_mem seen]
    · rw [value_append_of_not_mem seen, value_of_not_mem unseen, value_of_not_mem seen]

end Combination

namespace Condition

theorem eval_congr {tests : Tests} {combination other : Combination} {condition : Condition}
    (same : ∀ atom ∈ condition.atoms, ∀ column ∈ atom.columns,
      combination.value column = other.value column) :
    condition.eval (Atom.truth tests combination) = condition.eval (Atom.truth tests other) := by
  induction condition with
  | atom atom =>
      have own := same atom List.mem_cons_self
      cases atom with
      | test single =>
          have value := own single.column List.mem_cons_self
          simp only [Formula.eval, Atom.truth, value]
      | columnsEqual left right =>
          have left_value := own left List.mem_cons_self
          have right_value := own right (List.mem_cons_of_mem left List.mem_cons_self)
          simp only [Formula.eval, Atom.truth, left_value, right_value]
  | node connective left right left_ih right_ih =>
      have left_same := left_ih fun atom member => same atom (List.mem_append_left _ member)
      have right_same := right_ih fun atom member => same atom (List.mem_append_right _ member)
      rw [Formula.eval, Formula.eval, left_same, right_same]

theorem admits_congr {tests : Tests} {combination other : Combination}
    (same : ∀ column, combination.value column = other.value column)
    (filter : Option Condition) :
    Admits tests combination filter ↔ Admits tests other filter := by
  refine forall_congr' fun condition => forall_congr' fun _ => ?_
  rw [eval_congr fun _ _ column _ => same column]

end Condition

/-! ## Joins of rows -/

namespace JoinClause

variable {database : Database} {tests : Tests} {outer : Combination}

theorem extendAll_flatMap {α : Type} (joins : List JoinClause) (items : List α)
    (start : α → List Combination) :
    extendAll database tests outer joins (items.flatMap start) =
      items.flatMap fun item => extendAll database tests outer joins (start item) := by
  induction joins generalizing start with
  | nil => rfl
  | cons join rest ih => rw [extendAll, List.flatMap_assoc, ih]; rfl

theorem exists_of_mem_extendAll {joins : List JoinClause} {combinations : List Combination}
    {combination : Combination}
    (member : combination ∈ extendAll database tests outer joins combinations) :
    ∃ start ∈ combinations, ∃ added : Combination, combination = start ++ added ∧
      added.map Prod.fst = joins.map JoinClause.table := by
  induction joins generalizing combinations with
  | nil => exact ⟨combination, member, [], by simp, rfl⟩
  | cons join rest ih =>
      obtain ⟨longer, extended, added, rfl, tables⟩ := ih member
      obtain ⟨start, listed, joined⟩ := List.mem_flatMap.mp extended
      obtain ⟨row, -, rfl⟩ := List.mem_map.mp joined
      exact ⟨start, listed, (join.table, row) :: added, by simp, by simp [tables]⟩

/-- A row stands on either side: it is either joined to the others, or they see it around them. -/
theorem extend_cons {table : String} (row : Row) {join : JoinClause} (other : table ≠ join.table)
    {combination : Combination} (unseen : table ∉ combination.map Prod.fst) :
    join.extend database tests [] ((table, row) :: combination) =
      (join.extend database tests [(table, row)] combination).map ((table, row) :: ·) := by
  have partners : ∀ partner, Condition.Admits tests
      ((table, row) :: combination ++ [(join.table, partner)] ++ []) join.on ↔
        Condition.Admits tests (combination ++ [(join.table, partner)] ++ [(table, row)])
          join.on := by
    intro partner
    have still_unseen : table ∉ (combination ++ [(join.table, partner)]).map Prod.fst := by
      simpa [other] using unseen
    refine Condition.admits_congr (fun column => ?_) join.on
    rw [List.append_nil, List.cons_append, Combination.value_cons_eq still_unseen]
  simp only [extend, partners, List.map_map]
  rfl

theorem extendAll_map_cons {table : String} (row : Row) {joins : List JoinClause}
    (other : table ∉ joins.map JoinClause.table) {combinations : List Combination}
    (unseen : ∀ combination ∈ combinations, table ∉ combination.map Prod.fst) :
    extendAll database tests [] joins (combinations.map ((table, row) :: ·)) =
      (extendAll database tests [(table, row)] joins combinations).map ((table, row) :: ·) := by
  induction joins generalizing combinations with
  | nil => rfl
  | cons join rest ih =>
      simp only [List.map_cons, List.mem_cons, not_or] at other
      have still_unseen : ∀ longer ∈ combinations.flatMap
          (join.extend database tests [(table, row)]), table ∉ longer.map Prod.fst := by
        intro longer member
        obtain ⟨combination, listed, joined⟩ := List.mem_flatMap.mp member
        obtain ⟨partner, -, rfl⟩ := List.mem_map.mp joined
        simpa [other.1] using unseen combination listed
      have first : (combinations.map ((table, row) :: ·)).flatMap (join.extend database tests []) =
          (combinations.flatMap (join.extend database tests [(table, row)])).map
            ((table, row) :: ·) := by
        rw [List.flatMap_map, List.map_flatMap, List.flatMap_def, List.flatMap_def]
        refine congrArg List.flatten (List.map_congr_left fun combination listed => ?_)
        exact extend_cons row other.1 (unseen combination listed)
      rw [extendAll, extendAll, first, ih other.2 still_unseen]

theorem mem_extendAll_cons_inner {join : JoinClause} (inner : join.kind = .inner)
    {rest : List JoinClause} {start combination : Combination} :
    combination ∈ extendAll database tests outer (join :: rest) [start] ↔
      ∃ partner ∈ database join.table,
        Condition.Admits tests (start ++ [(join.table, partner)] ++ outer) join.on ∧
          combination ∈ extendAll database tests outer rest
            [start ++ [(join.table, partner)]] := by
  have extended : [start].flatMap (join.extend database tests outer) =
      ((database join.table).filter fun partner =>
        Condition.Admits tests (start ++ [(join.table, partner)] ++ outer) join.on).flatMap
          fun partner => [start ++ [(join.table, partner)]] := by
    simp [extend, inner, List.map_eq_flatMap]
  rw [extendAll, extended, extendAll_flatMap]
  simp only [List.mem_flatMap, List.mem_filter, decide_eq_true_eq, and_assoc]

end JoinClause

/-! ## Subqueries -/

namespace Query

variable {database : Database} {tests : Tests}

theorem mem_rows {outer : Combination} {query : Query} {combination : Combination} :
    combination ∈ query.rows database tests outer ↔
      ∃ row ∈ database query.source,
        combination ∈ JoinClause.extendAll database tests outer query.joins
          [[(query.source, row)]] ∧
        Condition.Admits tests (combination ++ outer) query.filter := by
  have start : (database query.source).map (fun row => [(query.source, row)]) =
      (database query.source).flatMap fun row => [[(query.source, row)]] :=
    List.map_eq_flatMap
  simp only [rows, start, JoinClause.extendAll_flatMap, List.mem_filter, List.mem_flatMap,
    decide_eq_true_eq]
  constructor
  · rintro ⟨⟨row, listed, extended⟩, admitted⟩
    exact ⟨row, listed, extended, admitted⟩
  · rintro ⟨row, listed, extended, admitted⟩
    exact ⟨⟨row, listed, extended⟩, admitted⟩

/-- A row of the first table is part of a row of the query if some extension of it is admitted. -/
theorem exists_rows_iff {query : Query} {row : Row} (member : row ∈ database query.source) :
    (∃ combination ∈ query.rows database tests [],
        combination.head? = some (query.source, row)) ↔
      ∃ combination ∈ JoinClause.extendAll database tests [] query.joins [[(query.source, row)]],
        Condition.Admits tests combination query.filter := by
  simp only [mem_rows, List.append_nil]
  constructor
  · rintro ⟨combination, ⟨first, listed, extended, admitted⟩, head⟩
    obtain ⟨_, single, added, rfl, -⟩ := JoinClause.exists_of_mem_extendAll extended
    obtain rfl := List.mem_singleton.mp single
    obtain rfl : first = row := by simpa using head
    exact ⟨_, extended, admitted⟩
  · rintro ⟨combination, extended, admitted⟩
    obtain ⟨_, single, added, rfl, -⟩ := JoinClause.exists_of_mem_extendAll extended
    obtain rfl := List.mem_singleton.mp single
    exact ⟨_, ⟨row, member, extended, admitted⟩, rfl⟩

variable {source : String} {first : JoinClause} {rest : List JoinClause}

/-- The condition of the first join is as true behind the later joins as in its place. -/
theorem admits_on_iff (distinct : (source :: first.table :: rest.map JoinClause.table).Nodup)
    (on_columns : ∀ condition ∈ first.on, ∀ atom ∈ condition.atoms, ∀ column ∈ atom.columns,
      column.table = source ∨ column.table = first.table)
    (row partner : Row) {added : Combination}
    (tables : added.map Prod.fst = rest.map JoinClause.table) :
    Condition.Admits tests ([(first.table, partner)] ++ added ++ [(source, row)]) first.on ↔
      Condition.Admits tests [(source, row), (first.table, partner)] first.on := by
  simp only [List.nodup_cons, List.mem_cons, not_or] at distinct
  refine forall_congr' fun condition => forall_congr' fun on => ?_
  have same : ∀ atom ∈ condition.atoms, ∀ column ∈ atom.columns,
      Combination.value ([(first.table, partner)] ++ added ++ [(source, row)]) column =
        Combination.value ([(source, row)] ++ [(first.table, partner)]) column := by
    intro atom member column mentioned
    rcases on_columns condition on atom member column mentioned with at_source | at_first
    · have unseen : column.table ∉ ([(first.table, partner)] ++ added).map Prod.fst := by
        simpa [at_source, tables] using distinct.1
      have seen : column.table ∈ [(source, row)].map Prod.fst := by simp [at_source]
      rw [Combination.value_append_of_not_mem unseen, Combination.value_append_of_mem seen]
    · have seen : column.table ∈ [(first.table, partner)].map Prod.fst := by simp [at_first]
      have unseen : column.table ∉ [(source, row)].map Prod.fst := by
        simpa [at_first] using Ne.symm distinct.1.1
      rw [List.append_assoc, Combination.value_append_of_mem seen,
        Combination.value_append_of_not_mem unseen]
  rw [Condition.eval_congr same]
  rfl

/-- A row of the first table is part of a row of a query exactly if a subquery over the other tables
has a row, where the condition of the first join stands in the filter of the subquery. -/
theorem exists_rows_iff_subquery {filter combined : Option Condition} {row : Row}
    (member : row ∈ database source) (inner : first.kind = .inner)
    (distinct : (source :: first.table :: rest.map JoinClause.table).Nodup)
    (on_columns : ∀ condition ∈ first.on, ∀ atom ∈ condition.atoms, ∀ column ∈ atom.columns,
      column.table = source ∨ column.table = first.table)
    (conjunction : ∀ combination, Condition.Admits tests combination combined ↔
      Condition.Admits tests combination first.on ∧ Condition.Admits tests combination filter) :
    (∃ combination ∈ Query.rows database tests [] ⟨source, first :: rest, filter⟩,
        combination.head? = some (source, row)) ↔
      Query.rows database tests [(source, row)] ⟨first.table, rest, combined⟩ ≠ [] := by
  have other := distinct
  simp only [List.nodup_cons, List.mem_cons, not_or] at other
  -- With a partner of the first join chosen, both queries go through the same combinations.
  have extended (partner : Row) :
      JoinClause.extendAll database tests [] rest [[(source, row), (first.table, partner)]] =
        (JoinClause.extendAll database tests [(source, row)] rest [[(first.table, partner)]]).map
          ((source, row) :: ·) := by
    have unseen : ∀ combination ∈ [[(first.table, partner)]],
        source ∉ combination.map Prod.fst := by
      simpa using other.1.1
    exact JoinClause.extendAll_map_cons row other.1.2 unseen
  have outside {partner : Row} {combination : Combination}
      (reached : combination ∈ JoinClause.extendAll database tests [(source, row)] rest
        [[(first.table, partner)]]) :
      (Condition.Admits tests (combination ++ [(source, row)]) first.on ↔
        Condition.Admits tests [(source, row), (first.table, partner)] first.on) ∧
      (Condition.Admits tests ((source, row) :: combination) filter ↔
        Condition.Admits tests (combination ++ [(source, row)]) filter) := by
    obtain ⟨_, single, added, rfl, tables⟩ := JoinClause.exists_of_mem_extendAll reached
    obtain rfl := List.mem_singleton.mp single
    have unseen : source ∉ ([(first.table, partner)] ++ added).map Prod.fst := by
      simpa [tables] using other.1
    exact ⟨admits_on_iff distinct on_columns row partner tables,
      Condition.admits_congr (Combination.value_cons_eq unseen row) filter⟩
  rw [exists_rows_iff member]
  constructor
  · rintro ⟨_, reached, admitted⟩
    obtain ⟨partner, listed, on, reached⟩ :=
      (JoinClause.mem_extendAll_cons_inner inner).mp reached
    rw [List.singleton_append, extended] at reached
    obtain ⟨combination, inside, rfl⟩ := List.mem_map.mp reached
    obtain ⟨on_iff, filter_iff⟩ := outside inside
    have both := (conjunction _).mpr ⟨on_iff.mpr on, filter_iff.mp admitted⟩
    exact List.ne_nil_of_mem (mem_rows.mpr ⟨partner, listed, inside, both⟩)
  · intro found
    obtain ⟨combination, returned⟩ := List.exists_mem_of_ne_nil _ found
    obtain ⟨partner, listed, inside, both⟩ := mem_rows.mp returned
    obtain ⟨on_iff, filter_iff⟩ := outside inside
    obtain ⟨on, admitted⟩ := (conjunction _).mp both
    have reached : (source, row) :: combination ∈
        JoinClause.extendAll database tests [] rest [[(source, row), (first.table, partner)]] := by
      rw [extended]
      exact List.mem_map.mpr ⟨combination, inside, rfl⟩
    exact ⟨_, (JoinClause.mem_extendAll_cons_inner inner).mpr
      ⟨partner, listed, on_iff.mp on, reached⟩, filter_iff.mpr admitted⟩

end Query

end TableMapping
