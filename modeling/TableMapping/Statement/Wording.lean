import TableMapping.Statement.Token

/-!
# The wording of statements

Each statement as a list of tokens. Conditions carry parentheses only where an operand is combined
the other way than the condition around it. An update or a removal with joins becomes one with a
subquery over the joined tables, whose condition also holds the join of the first of them.
-/

namespace TableMapping

namespace ColumnRef

/-- The tokens of a column with its table. -/
def tokens (reference : ColumnRef) : List Token :=
  [.identifier reference.table, .point, .identifier reference.column]

end ColumnRef

namespace Atom

/-- The tokens of an atomic condition. -/
def tokens : Atom → List Token
  | .test (.compare column comparison value) =>
      column.tokens ++ [.comparison comparison, .parameter value]
  | .test (.isNull column) => column.tokens ++ [.keyword .isNull]
  | .test (.isNotNull column) => column.tokens ++ [.keyword .isNotNull]
  | .columnsEqual left right => left.tokens ++ .comparison .eq :: right.tokens

end Atom

namespace Connective

/-- The keyword of a connective. -/
def keyword : Connective → Keyword
  | and => .and
  | or => .or

end Connective

namespace Formula

/-- The formula is combined otherwise than by the given connective. -/
def clashes {α : Type} (outer : Connective) : Formula α → Bool
  | atom _ => false
  | node inner _ _ => inner ≠ outer

end Formula

namespace Condition

/-- The tokens of a condition. An operand stands in parentheses if it is combined the other way. -/
def tokens : Condition → List Token
  | .atom atom => atom.tokens
  | .node connective left right =>
      (if left.clashes connective then Token.enclosed (tokens left) else tokens left) ++
        .keyword connective.keyword ::
          (if right.clashes connective then Token.enclosed (tokens right) else tokens right)

/-- The conjunction of column equalities, if there are any. -/
def ofPairs? : List (ColumnRef × ColumnRef) → Option Condition
  | [] => none
  | (left, right) :: rest =>
      some (rest.foldl
        (fun earlier pair => .node .and earlier (.atom (.columnsEqual pair.1 pair.2)))
        (.atom (.columnsEqual left right)))

/-- The conjunction of two conditions of which either may be missing. -/
def conjunction? : Option Condition → Option Condition → Option Condition
  | some first, some second => some (.node .and first second)
  | some first, none => some first
  | none, second => second

/-- The tokens of a filter, if there is one. -/
def filterTokens : Option Condition → List Token
  | none => []
  | some condition => .keyword .filter :: tokens condition

end Condition

namespace JoinKind

/-- The keyword of a kind of join. -/
def keyword : JoinKind → Keyword
  | inner => .innerJoin
  | leftOuter => .leftOuterJoin

end JoinKind

namespace Join

/-- The condition of a join, if it has one. -/
def condition? (join : Join) : Option Condition := Condition.ofPairs? join.on

/-- The tokens of a join. -/
def tokens (join : Join) : List Token :=
  .keyword join.kind.keyword :: .identifier join.table ::
    match join.condition? with
    | none => []
    | some condition => .keyword .on :: condition.tokens

/-- The tokens of the filter of an update or a removal: with joins, the rows are those for which
the joined tables have rows that satisfy every join and the filter. -/
def correlatedTokens (filter : Option Condition) : List Join → List Token
  | [] => Condition.filterTokens filter
  | first :: rest =>
      .keyword .filterExists :: Token.enclosed
        ([.keyword .select, .one, .keyword .source, .identifier first.table] ++
          rest.flatMap tokens ++
          Condition.filterTokens (Condition.conjunction? first.condition? filter))

end Join

namespace ColumnDefinition

/-- The tokens of a column of a table to be created. A type that the dialect lacks has none. -/
def tokens (dialect : Dialect) (column : ColumnDefinition) : List Token :=
  .identifier column.name ::
    ((dialect.storageType? column.type).toList.map .storage ++
      if column.nullable then [] else [.keyword .notNull])

end ColumnDefinition

namespace TableConstraint

/-- The tokens of a key of a table to be created. -/
def tokens : TableConstraint → List Token
  | primaryKey name columns =>
      [.keyword .constraint, .identifier name, .keyword .primaryKey] ++ Token.names columns
  | foreignKey name columns table references =>
      [.keyword .constraint, .identifier name, .keyword .foreignKey] ++ Token.names columns ++
        [.keyword .references, .identifier table] ++ Token.names references

end TableConstraint

namespace CreateTable

/-- The tokens of the creation of a table. -/
def tokens (dialect : Dialect) (create : CreateTable) : List Token :=
  .keyword .createTable :: .identifier create.table :: Token.enclosed
    (Token.listing (create.columns.map (ColumnDefinition.tokens dialect)) ++
      create.constraints.flatMap fun constraint => .comma :: constraint.tokens)

end CreateTable

namespace Insert

/-- The tokens of the values of a row. -/
def rowTokens (row : List SqlValue) : List Token :=
  Token.enclosed (Token.listing (row.map fun value => [.parameter value]))

/-- The tokens of an insertion. -/
def tokens (insert : Insert) : List Token :=
  .keyword .insertInto :: .identifier insert.table ::
    if insert.columns = [] then
      [.keyword .defaultValues]
    else
      Token.names insert.columns ++
        .keyword .values :: Token.listing (insert.rows.map rowTokens)

end Insert

namespace Select

/-- The tokens of a query. -/
def tokens (select : Select) : List Token :=
  .keyword .select :: (Token.listing (select.columns.map ColumnRef.tokens) ++
    [.keyword .source, .identifier select.source] ++ select.joins.flatMap Join.tokens ++
    Condition.filterTokens select.filter)

end Select

namespace Update

/-- The tokens of an assignment. -/
def assignmentTokens (assignment : String × SqlValue) : List Token :=
  [.identifier assignment.1, .comparison .eq, .parameter assignment.2]

/-- The tokens of an update. -/
def tokens (update : Update) : List Token :=
  [.keyword .update, .identifier update.table, .keyword .set] ++
    Token.listing (update.assignments.map assignmentTokens) ++
    Join.correlatedTokens update.filter update.joins

end Update

namespace Delete

/-- The tokens of a removal. -/
def tokens (delete : Delete) : List Token :=
  [.keyword .deleteFrom, .identifier delete.table] ++
    Join.correlatedTokens delete.filter delete.joins

end Delete

namespace Statement

/-- The tokens of a statement. -/
def tokens (dialect : Dialect) : Statement → List Token
  | .createTable tree => tree.tokens dialect
  | .insert tree => tree.tokens
  | .select tree => tree.tokens
  | .update tree => tree.tokens
  | .delete tree => tree.tokens

end Statement

end TableMapping
