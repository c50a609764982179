import TableMapping.Row

/-!
# Execution

A database answers each call with a result or a failure. Statements are executed in order, up to
the first failure, and the outcome records every call that was made.
-/

namespace TableMapping

/-- A database: its answers to calls, which are numbered from 0. -/
structure Backend where
  /-- The number of rows that a statement affects, or a failure. -/
  execute : Nat → CompiledStatement → Except String UInt64
  /-- The rows that a query returns, or a failure. -/
  query : Nat → CompiledStatement → Except String (List RawRow)

/-- The outcome of a request. -/
structure Run (α : Type) where
  /-- The statements that the database was called with, in order. -/
  calls : List CompiledStatement
  /-- The positions of rows that were read, in order. -/
  reads : List (Nat × SqlType)
  result : Except Error α

namespace Run

/-- The outcome of a request that is refused before any call. -/
def refused {α : Type} (error : Error) : Run α := ⟨[], [], .error error⟩

/-- The outcome with its result replaced. -/
def map {α β : Type} (change : α → β) (run : Run α) : Run β :=
  ⟨run.calls, run.reads, run.result.map change⟩

/-- Goes on after a request without further calls: what is read then is read after the calls. -/
def andRead {α β : Type} (run : Run α) (next : α → Reading β) : Run β :=
  match run.result with
  | .error error => ⟨run.calls, run.reads, .error error⟩
  | .ok value => ⟨run.calls, run.reads ++ (next value).reads, (next value).result⟩

end Run

namespace Backend

/-- Executes statements in order, of which the first is the given call, up to the first failure.
The result is the sum of the numbers of affected rows. -/
def executeFrom (backend : Backend) (call : Nat) : List CompiledStatement → Run UInt64
  | [] => ⟨[], [], .ok 0⟩
  | statement :: rest =>
      match backend.execute call statement with
      | .error message => ⟨[statement], [], .error (.execution statement.text message)⟩
      | .ok affected =>
          let later := backend.executeFrom (call + 1) rest
          ⟨statement :: later.calls, later.reads, later.result.map (affected + ·)⟩

/-- Executes the statements of a request, unless it is refused. -/
def executeAll (backend : Backend) : Except Error (List CompiledStatement) → Run UInt64
  | .error error => Run.refused error
  | .ok statements => backend.executeFrom 0 statements

/-- Executes the statement of a request, unless it is refused. -/
def executeOne (backend : Backend) (compiled : Except Error CompiledStatement) : Run UInt64 :=
  backend.executeAll (compiled.map fun statement => [statement])

/-- Asks for the rows of a query. -/
def queryOne (backend : Backend) (statement : CompiledStatement) : Run (List RawRow) :=
  match backend.query 0 statement with
  | .error message => ⟨[statement], [], .error (.execution statement.text message)⟩
  | .ok rows => ⟨[statement], [], .ok rows⟩

end Backend

end TableMapping
