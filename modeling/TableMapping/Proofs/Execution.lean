import TableMapping.Proofs.Schema.Declared
import TableMapping.Request.Creation
import TableMapping.Request.Insertion
import TableMapping.Request.Modification
import TableMapping.Request.Selection

/-!
# What a database is called with

A request is written as a whole before the database is called, so that one at fault makes no call.
The statements of a request are then executed in order, each of them once, up to the first failure.
-/

namespace TableMapping

namespace Backend

/-- The database answers the statements, of which the first is the given call, with the given
numbers of affected rows. -/
def Answers (backend : Backend) (call : Nat) (statements : List CompiledStatement)
    (counts : List UInt64) : Prop :=
  ((statements.zipIdx call).map fun asked => backend.execute asked.2 asked.1) = counts.map .ok

/-- The sum of numbers of affected rows in 64 bits. -/
def tally (counts : List UInt64) : UInt64 := counts.foldr (· + ·) 0

/-- The number of rows that several statements affect together. -/
def total (counts : List UInt64) : Nat := counts.foldr (fun count later => count.toNat + later) 0

/-- What becomes of a request whose statements are executed in order, of which the first is the
given call. What the numbers of affected rows tell is the result. -/
inductive Executes {α : Type} (backend : Backend) (tells : List UInt64 → α → Prop) (call : Nat) :
    Except Error (List CompiledStatement) → Run α → Prop
  /-- A request that cannot be written makes no call. -/
  | refused (error : Error) : Executes backend tells call (.error error) ⟨[], [], .error error⟩
  /-- Without a failure, the calls are the statements. -/
  | done {statements : List CompiledStatement} {counts : List UInt64} {value : α}
      (answers : backend.Answers call statements counts) (told : tells counts value) :
      Executes backend tells call (.ok statements) ⟨statements, [], .ok value⟩
  /-- The first failure is the last call. -/
  | failed (before after : List CompiledStatement) {failing : CompiledStatement}
      {counts : List UInt64} {message : String} (answers : backend.Answers call before counts)
      (fails : backend.execute (call + before.length) failing = .error message) :
      Executes backend tells call (.ok (before ++ failing :: after))
        ⟨before ++ [failing], [], .error (.execution failing.text message)⟩

/-- What becomes of a request that asks for the rows of a query. -/
inductive Asks {α : Type} (backend : Backend) : Except Error CompiledStatement → Run α → Prop
  /-- A request that cannot be written makes no call. -/
  | refused (error : Error) : Asks backend (.error error) ⟨[], [], .error error⟩
  | failed {statement : CompiledStatement} {message : String}
      (fails : backend.query 0 statement = .error message) :
      Asks backend (.ok statement)
        ⟨[statement], [], .error (.execution statement.text message)⟩
  /-- Whatever is made of the rows, there is no further call. -/
  | answered {statement : CompiledStatement} {rows : List RawRow}
      {reads : List (Nat × SqlType)} {result : Except Error α}
      (answers : backend.query 0 statement = .ok rows) :
      Asks backend (.ok statement) ⟨[statement], reads, result⟩

variable {α β : Type} {backend : Backend} {call : Nat}

/-! ## Statements in order -/

theorem Answers.nil : backend.Answers call [] [] := rfl

theorem Answers.cons {statement : CompiledStatement} {statements : List CompiledStatement}
    {count : UInt64} {counts : List UInt64} (first : backend.execute call statement = .ok count)
    (later : backend.Answers (call + 1) statements counts) :
    backend.Answers call (statement :: statements) (count :: counts) := by
  rw [Answers, List.zipIdx_cons, List.map_cons, List.map_cons, first]
  exact congrArg (Except.ok count :: ·) later

/-- A statement that is answered goes in front of the later ones, and its number of affected rows
in front of theirs. -/
theorem Executes.cons {statement : CompiledStatement} {statements : List CompiledStatement}
    {count : UInt64} {run : Run UInt64} (first : backend.execute call statement = .ok count)
    (later : backend.Executes (fun counts value => value = tally counts) (call + 1)
      (.ok statements) run) :
    backend.Executes (fun counts value => value = tally counts) call (.ok (statement :: statements))
      ⟨statement :: run.calls, run.reads, run.result.map (count + ·)⟩ := by
  cases later with
  | @done _ counts value answers told =>
      refine .done (answers.cons first) ?_
      rw [told]
      rfl
  | failed before after answers fails =>
      have position : call + (statement :: before).length = call + 1 + before.length := by
        simp only [List.length_cons]
        omega
      exact .failed (statement :: before) after (answers.cons first) (position ▸ fails)

/-- Statements are executed up to the first failure, and their numbers of affected rows are
added up. -/
theorem executes_executeFrom (statements : List CompiledStatement) :
    backend.Executes (fun counts value => value = tally counts) call (.ok statements)
      (backend.executeFrom call statements) := by
  induction statements generalizing call with
  | nil => exact .done .nil rfl
  | cons statement statements ih =>
      cases answer : backend.execute call statement with
      | error message =>
          rw [executeFrom, answer]
          exact .failed [] statements .nil answer
      | ok count =>
          rw [executeFrom, answer]
          exact .cons answer ih

/-! ## Requests -/

theorem executes_executeAll (compiled : Except Error (List CompiledStatement)) :
    backend.Executes (fun counts value => value = tally counts) 0 compiled
      (backend.executeAll compiled) := by
  cases compiled with
  | error error => exact .refused error
  | ok statements => exact executes_executeFrom statements

theorem Executes.imp {tells retells : List UInt64 → α → Prop}
    {compiled : Except Error (List CompiledStatement)} {run : Run α}
    (executes : backend.Executes tells call compiled run)
    (retold : ∀ statements counts value, compiled = .ok statements →
      backend.Answers call statements counts → tells counts value → retells counts value) :
    backend.Executes retells call compiled run := by
  cases executes with
  | refused error => exact .refused error
  | done answers told => exact .done answers (retold _ _ _ rfl answers told)
  | failed before after answers fails => exact .failed before after answers fails

theorem Executes.map_unit {tells : List UInt64 → α → Prop}
    {compiled : Except Error (List CompiledStatement)} {run : Run α}
    (executes : backend.Executes tells call compiled run) :
    backend.Executes (fun _ _ => True) call compiled (run.map fun _ => ()) := by
  cases executes with
  | refused error => exact .refused error
  | done answers told => exact .done answers trivial
  | failed before after answers fails => exact .failed before after answers fails

theorem Answers.length_eq {statements : List CompiledStatement} {counts : List UInt64}
    (answers : backend.Answers call statements counts) : counts.length = statements.length := by
  simpa using (congrArg List.length answers).symm

theorem executes_executeOne (compiled : Except Error CompiledStatement) :
    backend.Executes (fun counts value => counts = [value]) 0
      (compiled.map fun statement => [statement]) (backend.executeOne compiled) := by
  refine (executes_executeAll _).imp fun statements counts value wrapped answers told => ?_
  obtain ⟨statement, -, rfl⟩ := map_eq_ok.mp wrapped
  obtain ⟨count, rfl⟩ := List.length_eq_one_iff.mp answers.length_eq
  simp [told, tally]

theorem toNat_tally {counts : List UInt64} (fits : total counts < UInt64.size) :
    (tally counts).toNat = total counts := by
  induction counts with
  | nil => rfl
  | cons count counts ih =>
      have split : total (count :: counts) = count.toNat + total counts := rfl
      have later := ih (by omega)
      rw [tally, List.foldr_cons, ← tally, UInt64.toNat_add, later, ← split]
      exact Nat.mod_eq_of_lt fits

end Backend

namespace Selection

variable {α : Type} {registry : Registry} {backend : Backend}

theorem asks_fetchAll (selection : Selection α) :
    backend.Asks (selection.compile registry) (selection.fetchAll registry backend) := by
  rw [compile, fetchAll]
  cases prepare registry selection.source with
  | error error => exact .refused error
  | ok prepared =>
      obtain ⟨statement, layout⟩ := prepared
      cases answer : backend.query 0 statement with
      | error message =>
          simp only [Backend.queryOne, answer]
          exact .failed answer
      | ok rows =>
          simp only [Backend.queryOne, answer]
          exact .answered answer

end Selection

theorem Backend.Asks.andRead {α β : Type} {backend : Backend}
    {compiled : Except Error CompiledStatement} {run : Run α} (asks : backend.Asks compiled run)
    (next : α → Reading β) : backend.Asks compiled (run.andRead next) := by
  cases asks with
  | refused error => exact .refused error
  | failed fails => exact .failed fails
  | @answered statement rows reads result answers =>
      cases result with
      | error error => exact .answered answers
      | ok value => exact .answered answers

/-- A request that cannot be written makes no call. Any other one calls the database with its
statements in order, up to and including the first failure, whose statement and message are then
the result. Without a failure, the result of an insertion is the total number of affected rows if it
fits in 64 bits, and that of an update or a removal is the number of rows that its statement
affects. A selection asks for its rows once, however they are read. -/
theorem requests_stop_at_first_failure (registry : Registry) (backend : Backend) :
    (∀ record, backend.Executes (fun _ _ => True) 0
        ((registry.compileCreation record).map fun statement => [statement])
        (registry.create record backend)) ∧
      backend.Executes (fun _ _ => True) 0 registry.compileAllCreations
        (registry.createAll backend) ∧
      (∀ insertion : Insertion,
        backend.Executes
          (fun counts value =>
            Backend.total counts < UInt64.size → value.toNat = Backend.total counts) 0
          (insertion.compile registry) (insertion.execute registry backend)) ∧
      (∀ update : RowUpdate,
        backend.Executes (fun counts value => counts = [value]) 0
          ((update.compile registry).map fun statement => [statement])
          (update.execute registry backend)) ∧
      (∀ removal : RowRemoval,
        backend.Executes (fun counts value => counts = [value]) 0
          ((removal.compile registry).map fun statement => [statement])
          (removal.execute registry backend)) ∧
      ∀ (α : Type) (selection : Selection α),
        backend.Asks (selection.compile registry) (selection.fetchAll registry backend) ∧
          backend.Asks (selection.compile registry) (selection.fetchFirst registry backend) ∧
          backend.Asks (selection.compile registry) (selection.fetchOne registry backend) := by
  refine ⟨fun record => ?create, ?create_all, fun insertion => ?insert, fun update => ?update,
    fun removal => ?remove, fun α selection => ⟨?all, ?first, ?one⟩⟩
  case create => exact (Backend.executes_executeOne _).map_unit
  case create_all => exact (Backend.executes_executeAll _).map_unit
  case insert =>
    refine (Backend.executes_executeAll _).imp fun statements counts value _ _ told fits => ?_
    rw [told, Backend.toNat_tally fits]
  case update => exact Backend.executes_executeOne _
  case remove => exact Backend.executes_executeOne _
  case all => exact selection.asks_fetchAll
  case first => exact selection.asks_fetchAll.andRead _
  case one => exact selection.asks_fetchAll.andRead _

namespace Staff

/-- A database that is full behind its first call. -/
def full : Backend :=
  ⟨fun call _ => if call = 0 then .ok 0 else .error "full", fun _ _ => .ok []⟩

/-- Of the creations of four tables, the second is the last one that the full database is asked
for. -/
example : ∃ statements, (rota .h2).compileAllCreations = .ok statements ∧ statements.length = 4 ∧
    ((rota .h2).createAll full).calls = statements.take 2 :=
  ⟨_, rfl, rfl, rfl⟩

end Staff

end TableMapping
