import TableMapping.Proofs.Reading.Query

/-!
# Reading of assignments

Which columns the text of an update changes, with the values that the database is handed for them.
-/

namespace TableMapping

namespace Update

/-- The assignments that the signs of a list stand for. -/
def assignments? : List Sign → Option (List (String × SqlValue))
  | [.name column, .symbol '=', .value value] => some [(column, value)]
  | .name column :: .symbol '=' :: .value value :: .symbol ',' :: rest =>
      (assignments? rest).map ((column, value) :: ·)
  | _ => none

/-- The assignments with their values in the form in which they are handed to the database. -/
def boundAssignments (dialect : Dialect) (update : Update) : List (String × SqlValue) :=
  update.assignments.map fun assigned => (assigned.1, dialect.bind assigned.2)

theorem assignments?_listing (dialect : Dialect) {assignments : List (String × SqlValue)}
    (present : assignments ≠ []) :
    assignments? (Token.allSigns dialect (Token.listing (assignments.map assignmentTokens))) =
      some (assignments.map fun assigned => (assigned.1, dialect.bind assigned.2)) := by
  induction assignments with
  | nil => exact absurd rfl present
  | cons first others ih =>
      cases others with
      | nil => rfl
      | cons next later =>
          have shape : Token.allSigns dialect
              (Token.listing ((first :: next :: later).map assignmentTokens)) =
            .name first.1 :: .symbol '=' :: .value (dialect.bind first.2) :: .symbol ',' ::
              Token.allSigns dialect
                (Token.listing ((next :: later).map assignmentTokens)) := rfl
          rw [shape, assignments?, ih (List.cons_ne_nil next later), Option.map_some]
          rfl

end Update

namespace CompiledStatement

/-- The assignments of a compiled statement, which stand in front of its filter. -/
def assignments? (dialect : Dialect) (compiled : CompiledStatement) :
    Option (List (String × SqlValue)) :=
  match compiled.signs? dialect with
  | some (.keyword "update" :: .name _ :: .keyword "set" :: rest) =>
      Update.assignments? (rest.takeWhile (· ≠ .keyword "where"))
  | _ => none

/-- The assignments of an update are read from its text. -/
theorem assignments?_compile {dialect : Dialect} {update : Update} {compiled : CompiledStatement}
    (compiles : (Statement.update update).compile dialect = .ok compiled) :
    compiled.assignments? dialect = some (update.boundAssignments dialect) := by
  obtain ⟨sound, rfl⟩ := Statement.compile_eq_ok.mp compiles
  have present : update.assignments ≠ [] := by
    intro absent
    simp [Statement.fault?, absent] at sound
  have passed : ∀ sign ∈ Token.allSigns dialect
      (Token.listing (update.assignments.map Update.assignmentTokens)),
      decide (sign ≠ .keyword "where") = true := by
    intro sign member
    refine decide_eq_true fun same => ?_
    exact Update.keyword_not_mem_assignments dialect update.assignments "where" (same ▸ member)
  have stopped : (Token.allSigns dialect
      (Join.correlatedTokens update.filter update.joins)).takeWhile
        (· ≠ .keyword "where") = [] := by
    cases update.joins with
    | nil => cases update.filter <;> rfl
    | cons first rest => rfl
  have shape : Token.allSigns dialect (Statement.tokens dialect (.update update)) =
      .keyword "update" :: .name update.table :: .keyword "set" ::
        (Token.allSigns dialect
            (Token.listing (update.assignments.map Update.assignmentTokens)) ++
          Token.allSigns dialect (Join.correlatedTokens update.filter update.joins)) := by
    simp [Statement.tokens, Update.tokens, Token.signs, Keyword.signs]
  rw [assignments?, signs?_ofTokens, shape]
  simp only [List.takeWhile_append_of_pos passed, stopped, List.append_nil]
  exact Update.assignments?_listing dialect present

end CompiledStatement

end TableMapping
