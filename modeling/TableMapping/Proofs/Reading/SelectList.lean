import TableMapping.Proofs.Reading.Query

/-!
# Reading of select lists

Which columns the text of a query selects, in the order in which they stand behind its first
keyword.
-/

namespace TableMapping

namespace Select

/-- The columns that the signs of a list stand for. -/
def columns? : List Sign → Option (List ColumnRef)
  | [.name table, .symbol '.', .name column] => some [⟨table, column⟩]
  | .name table :: .symbol '.' :: .name column :: .symbol ',' :: rest =>
      (columns? rest).map (⟨table, column⟩ :: ·)
  | _ => none

theorem columns?_listing (dialect : Dialect) {columns : List ColumnRef} (present : columns ≠ []) :
    columns? (Token.allSigns dialect (Token.listing (columns.map ColumnRef.tokens))) =
      some columns := by
  induction columns with
  | nil => exact absurd rfl present
  | cons column columns ih =>
      cases columns with
      | nil => rfl
      | cons next later =>
          have shape : Token.allSigns dialect
              (Token.listing ((column :: next :: later).map ColumnRef.tokens)) =
            .name column.table :: .symbol '.' :: .name column.column :: .symbol ',' ::
              Token.allSigns dialect (Token.listing ((next :: later).map ColumnRef.tokens)) := rfl
          rw [shape, columns?, ih (List.cons_ne_nil next later), Option.map_some]

end Select

namespace CompiledStatement

/-- The columns that a compiled statement selects. -/
def selected? (dialect : Dialect) (compiled : CompiledStatement) : Option (List ColumnRef) :=
  match (compiled.signs? dialect).map Sign.clauses with
  | some ([], ("select", columns) :: _) => Select.columns? columns
  | _ => none

/-- The columns of a query are read from its text. -/
theorem selected?_compile {dialect : Dialect} {select : Select} {compiled : CompiledStatement}
    (compiles : (Statement.select select).compile dialect = .ok compiled) :
    compiled.selected? dialect = some select.columns := by
  obtain ⟨sound, rfl⟩ := Statement.compile_eq_ok.mp compiles
  have present : select.columns ≠ [] := by
    intro absent
    simp [Statement.fault?, absent] at sound
  have clauses := Query.clauses_tokens dialect (Select.inClause_columns dialect select.columns)
    select.source select.joins select.filter
  rw [selected?, signs?_ofTokens, Option.map_some, Statement.tokens, Select.tokens, clauses]
  exact Select.columns?_listing dialect present

end CompiledStatement

end TableMapping
