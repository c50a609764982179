import TableMapping.Proofs.Request.Insertion
import TableMapping.Proofs.Request.Selection
import TableMapping.Proofs.Row

/-!
# Rows that are fetched

A row is read when it is drawn, column after column at the declared types, up to the first column
that cannot be read, and only a row that is read to its end goes to the projection. What becomes of
a row depends on nothing but the row. All rows, the first one and the only one are three ways to
draw from the same items, and a row that is not drawn is not read.
-/

namespace TableMapping

/-! ## Reading of one row -/

namespace RowLayout

/-- The reads of columns, of which the first stands at the given position. -/
def readsFrom (position : Nat) (columns : List LayoutColumn) : List (Nat × SqlType) :=
  (columns.zipIdx position).map fun placed => (placed.2, placed.1.type)

/-- The row answers for the columns, of which the first stands at the given position, with the
values. -/
def Answers (row : RawRow) (position : Nat) (columns : List LayoutColumn)
    (values : List SqlValue) : Prop :=
  ((readsFrom position columns).map fun read => row read.1 read.2) = values.map .ok

/-- What becomes of a row whose columns are read in order, the first one at the given position. -/
inductive Reads {α : Type} (row : RawRow) (position : Nat) (columns : List LayoutColumn)
    (finish : List SqlValue → Except Error α) : Reading α → Prop
  /-- All columns are read once, and the values are worked up. -/
  | whole {values : List SqlValue} (answers : Answers row position columns values) :
      Reads row position columns finish ⟨readsFrom position columns, finish values⟩
  /-- The first column that cannot be read is the last one that is asked for. -/
  | broken (before after : List LayoutColumn) {column : LayoutColumn} {values : List SqlValue}
      {message : String} (columns_eq : columns = before ++ column :: after)
      (answers : Answers row position before values)
      (fails : row (position + before.length) column.type = .error message) :
      Reads row position columns finish
        ⟨readsFrom position (before ++ [column]),
          .error (.decode column.reference (.unreadable message))⟩

/-- What becomes of a row of the layout whose values go to the projection. -/
def Projects {α : Type} (layout : RowLayout) (projection : RowView → Except Error α)
    (row : RawRow) : Reading α → Prop :=
  Reads row 0 layout.columns fun values => projection ⟨layout, values⟩

variable {α : Type} {row : RawRow} {position : Nat} {column : LayoutColumn}
  {columns : List LayoutColumn}

theorem readsFrom_cons : readsFrom position (column :: columns) =
    (position, column.type) :: readsFrom (position + 1) columns := rfl

theorem Answers.nil : Answers row position [] [] := rfl

theorem Answers.cons {value : SqlValue} {values : List SqlValue}
    (first : row position column.type = .ok value)
    (later : Answers row (position + 1) columns values) :
    Answers row position (column :: columns) (value :: values) := by
  rw [Answers, readsFrom_cons, List.map_cons, List.map_cons, first]
  exact congrArg (Except.ok value :: ·) later

theorem Reads.cons {value : SqlValue} {reading : Reading (List SqlValue)}
    (first : row position column.type = .ok value)
    (later : Reads row (position + 1) columns .ok reading) :
    Reads row position (column :: columns) .ok
      ⟨(position, column.type) :: reading.reads, reading.result.map (value :: ·)⟩ := by
  cases later with
  | whole answers => exact .whole (answers.cons first)
  | broken before after columns_eq answers fails =>
      refine .broken (_ :: before) after (by rw [columns_eq]; rfl) (answers.cons first) ?_
      rwa [List.length_cons, Nat.add_comm before.length, ← Nat.add_assoc]

theorem reads_decodeFrom (row : RawRow) (position : Nat) (columns : List LayoutColumn) :
    Reads row position columns .ok (decodeFrom row position columns) := by
  induction columns generalizing position with
  | nil => exact .whole .nil
  | cons column columns ih =>
      cases answer : row position column.type with
      | error message =>
          rw [decodeFrom, answer]
          exact .broken [] columns rfl .nil answer
      | ok value =>
          rw [decodeFrom, answer]
          exact (ih (position + 1)).cons answer

theorem Reads.bind {reading : Reading (List SqlValue)}
    (reads : Reads row position columns .ok reading) (finish : List SqlValue → Except Error α) :
    Reads row position columns finish ⟨reading.reads, reading.result.bind finish⟩ := by
  cases reads with
  | whole answers => exact .whole answers
  | broken before after columns_eq answers fails =>
      exact .broken before after columns_eq answers fails

theorem projects_project (layout : RowLayout) (projection : RowView → Except Error α)
    (row : RawRow) : layout.Projects projection row (layout.project projection row) :=
  (reads_decodeFrom row 0 layout.columns).bind _

end RowLayout

/-! ## Drawing from the rows of a query -/

namespace Selection

variable {α : Type} {registry : Registry} {backend : Backend} {selection : Selection α}
  {statement : CompiledStatement} {layout : RowLayout} {rows : List RawRow}

theorem fetchAll_eq (prepared : prepare registry selection.source = .ok (statement, layout))
    (answers : backend.query 0 statement = .ok rows) :
    selection.fetchAll registry backend =
      ⟨[statement], [], .ok ⟨rows, layout, selection.projection⟩⟩ := by
  simp only [fetchAll, prepared, Backend.queryOne, answers]
  rfl

theorem fetchFirst_eq (prepared : prepare registry selection.source = .ok (statement, layout))
    (answers : backend.query 0 statement = .ok rows) :
    selection.fetchFirst registry backend =
      match rows with
      | [] => ⟨[statement], [], .ok none⟩
      | first :: _ => ⟨[statement], (layout.project selection.projection first).reads,
          (layout.project selection.projection first).result.map some⟩ := by
  rw [fetchFirst, fetchAll_eq prepared answers]
  cases rows <;> rfl

theorem fetchOne_eq (prepared : prepare registry selection.source = .ok (statement, layout))
    (answers : backend.query 0 statement = .ok rows) :
    selection.fetchOne registry backend =
      match rows with
      | [only] => ⟨[statement], (layout.project selection.projection only).reads,
          (layout.project selection.projection only).result⟩
      | _ => ⟨[statement], [], .error (.cardinality rows.length)⟩ := by
  rw [fetchOne, fetchAll_eq prepared answers]
  rcases rows with _ | ⟨only, _ | ⟨second, later⟩⟩ <;> rfl

end Selection

/-- The columns of a selection's rows are those of its tables, with their declared types, and every
row is read by itself: column after column, each once, up to the first one that cannot be read,
which the error then names. Draws from all rows give these items in order, for as long as there are
rows; the first row is the first of them, if there is one; the only row is the only one of them, and
if there is none or several, none is read. -/
theorem fetches_read_drawn_rows {α : Type} {registry : Registry} (built : registry.Built)
    {selection : Selection α} {statement : CompiledStatement}
    (compiles : selection.compile registry = .ok statement) :
    ∃ layout : RowLayout,
      (∃ tables, tables.map some = selection.source.records.map registry.table? ∧
        layout.Spans tables) ∧
      (∀ row, layout.Projects selection.projection row
        (layout.project selection.projection row)) ∧
      ∀ (backend : Backend) (rows : List RawRow), backend.query 0 statement = .ok rows →
        (∃ cursor, selection.fetchAll registry backend = ⟨[statement], [], .ok cursor⟩ ∧
          ∀ count, cursor.draw count =
              (rows.take count).map (layout.project selection.projection) ∧
            (cursor.draw count).length = min count rows.length) ∧
        (rows = [] →
          selection.fetchFirst registry backend = ⟨[statement], [], .ok none⟩) ∧
        (∀ first later, rows = first :: later →
          selection.fetchFirst registry backend =
            ⟨[statement], (layout.project selection.projection first).reads,
              (layout.project selection.projection first).result.map some⟩) ∧
        (∀ only, rows = [only] →
          selection.fetchOne registry backend =
            ⟨[statement], (layout.project selection.projection only).reads,
              (layout.project selection.projection only).result⟩) ∧
        (rows.length ≠ 1 →
          selection.fetchOne registry backend =
            ⟨[statement], [], .error (.cardinality rows.length)⟩) := by
  obtain ⟨⟨_, layout⟩, prepared, rfl⟩ := map_eq_ok.mp compiles
  obtain ⟨tables, tables_eq, -, spans, -⟩ := Selection.spans_of_prepare built.valid prepared
  refine ⟨layout, ⟨tables, tables_eq, spans⟩, layout.projects_project selection.projection,
    fun backend rows answers => ⟨⟨_, Selection.fetchAll_eq prepared answers, fun count => ?_⟩,
      ?none, ?first, ?only, ?several⟩⟩
  · constructor
    · exact Cursor.draw_eq_map _ count
    · rw [Cursor.draw_eq_map, List.length_map, List.length_take]
  case none =>
    rintro rfl
    exact Selection.fetchFirst_eq prepared answers
  case first =>
    rintro first later rfl
    exact Selection.fetchFirst_eq prepared answers
  case only =>
    rintro only rfl
    exact Selection.fetchOne_eq prepared answers
  case several =>
    intro several
    rw [Selection.fetchOne_eq prepared answers]
    rcases rows with _ | ⟨only, _ | ⟨second, later⟩⟩
    · rfl
    · exact absurd rfl several
    · rfl

namespace Staff

/-- A user as handed out, whose last name may be out of reach. -/
def rawUser (lastname : Except String SqlValue) : RawRow := fun position _ =>
  match position with
  | 0 | 3 => .ok (.int 1)
  | 1 => lastname
  | 2 => .ok .null
  | _ => .error "no such column"

/-- The last names of all users. -/
def lastnames : Selection SqlValue :=
  ⟨Source.all user, fun view => view.get ⟨⟨user, "lastname"⟩, ⟨.string, false⟩⟩⟩

/-- Two users with a user between them whose name cannot be read. -/
def brokenBetween : List RawRow :=
  [rawUser (.ok (.text "Doe")), rawUser (.error "damaged"), rawUser (.ok (.text "Boss"))]

/-- The name that cannot be read is the second item of three, behind which the third one is drawn as
ever. It is the last one that is read of its row. The three users are too many for one, and none of
them is read to find that out. -/
theorem broken_row_between_others :
    (registry .sqlite).Built ∧
    ∃ statement, lastnames.compile (registry .sqlite) = .ok statement ∧
      ∀ backend : Backend, backend.query 0 statement = .ok brokenBetween →
        (∃ cursor, lastnames.fetchAll (registry .sqlite) backend =
            ⟨[statement], [], .ok cursor⟩ ∧
          (cursor.draw 5).map Reading.result =
            [.ok (.text "Doe"), .error (.decode ⟨"users", "lname"⟩ (.unreadable "damaged")),
              .ok (.text "Boss")] ∧
          (cursor.draw 5).map Reading.reads =
            [[(0, .serial), (1, .varchar), (2, .varchar), (3, .integer)],
              [(0, .serial), (1, .varchar)],
              [(0, .serial), (1, .varchar), (2, .varchar), (3, .integer)]]) ∧
        lastnames.fetchOne (registry .sqlite) backend =
          ⟨[statement], [], .error (.cardinality 3)⟩ := by
  obtain ⟨statement, compiles⟩ : ∃ statement,
      lastnames.compile (registry .sqlite) = .ok statement := ⟨_, rfl⟩
  obtain ⟨⟨columns⟩, ⟨tables, tables_eq, spans⟩, -, fetches⟩ :=
    fetches_read_drawn_rows (registry_built .sqlite) compiles
  obtain rfl : tables = [users] :=
    (List.map_inj_right fun _ _ => Option.some.inj).mp (tables_eq.trans rfl)
  obtain rfl : columns = users.columns.map users.layoutColumn := spans.columns_eq.trans rfl
  refine ⟨registry_built .sqlite, statement, compiles, fun backend answers => ?_⟩
  obtain ⟨⟨cursor, fetched, drawn⟩, -, -, -, several⟩ := fetches backend brokenBetween answers
  refine ⟨⟨cursor, fetched, ?_, ?_⟩, several (by decide)⟩
  · rw [(drawn 5).1]
    rfl
  · rw [(drawn 5).1]
    rfl

end Staff

end TableMapping
