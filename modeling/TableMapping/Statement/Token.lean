import TableMapping.Dialect.Identifier
import TableMapping.Statement.Basic

/-!
# Tokens

The words of statements and how a list of them is spelled out. Parameters are numbered in the order
in which they stand, and only their number shows in the text, never their value. A space stands
between two tokens, except around a point, after an opening parenthesis, and before a comma or a
closing parenthesis.
-/

namespace TableMapping

/-- The keywords, and the runs of keywords that always stand together. -/
inductive Keyword
  | createTable
  | notNull
  | constraint
  | primaryKey
  | foreignKey
  | references
  | insertInto
  | defaultValues
  | values
  | select
  | source
  | innerJoin
  | leftOuterJoin
  | on
  | filter
  | filterExists
  | and
  | or
  | isNull
  | isNotNull
  | update
  | set
  | deleteFrom
deriving DecidableEq, Repr

namespace Keyword

/-- The spelling of a keyword. -/
def spelling : Keyword → String
  | createTable => "CREATE TABLE IF NOT EXISTS"
  | notNull => "NOT NULL"
  | constraint => "CONSTRAINT"
  | primaryKey => "PRIMARY KEY"
  | foreignKey => "FOREIGN KEY"
  | references => "REFERENCES"
  | insertInto => "INSERT INTO"
  | defaultValues => "DEFAULT VALUES"
  | values => "VALUES"
  | select => "SELECT"
  | source => "FROM"
  | innerJoin => "INNER JOIN"
  | leftOuterJoin => "LEFT OUTER JOIN"
  | on => "ON"
  | filter => "WHERE"
  | filterExists => "WHERE EXISTS"
  | and => "AND"
  | or => "OR"
  | isNull => "IS NULL"
  | isNotNull => "IS NOT NULL"
  | update => "UPDATE"
  | set => "SET"
  | deleteFrom => "DELETE FROM"

end Keyword

namespace Comparison

/-- The spelling of a comparison. -/
def spelling : Comparison → String
  | eq => "="
  | notEq => "<>"
  | lt => "<"
  | le => "<="
  | gt => ">"
  | ge => ">="
  | like => "LIKE"

end Comparison

/-- The words of statements. -/
inductive Token
  | keyword (word : Keyword)
  | storage (type : StorageType)
  | identifier (name : String)
  | parameter (value : SqlValue)
  | comparison (operator : Comparison)
  /-- The constant that a subquery asked only for its rows selects. -/
  | one
  | point
  | comma
  | opening
  | closing
deriving DecidableEq

namespace Token

/-- The value of a parameter. -/
def value? : Token → Option SqlValue
  | parameter value => some value
  | _ => none

/-- The values of the parameters among the tokens, in order. -/
def values (tokens : List Token) : List SqlValue := tokens.filterMap value?

/-- The spelling of a token, given the number of the next parameter. -/
def spelling (dialect : Dialect) (number : Nat) : Token → List Char
  | keyword word => word.spelling.toList
  | storage type => type.spelling.toList
  | identifier name => dialect.identifier name.toList
  | parameter _ => dialect.placeholder number
  | comparison operator => operator.spelling.toList
  | one => ['1']
  | point => ['.']
  | comma => [',']
  | opening => ['(']
  | closing => [')']

/-- No space stands after the token. -/
def hugsNext : Token → Bool
  | point | opening => true
  | _ => false

/-- No space stands before the token. -/
def hugsPrevious : Token → Bool
  | point | comma | closing => true
  | _ => false

/-- What stands between a token and the ones that follow. -/
def gap (token : Token) : List Token → List Char
  | [] => []
  | next :: _ => if token.hugsNext || next.hugsPrevious then [] else [' ']

/-- The text of a list of tokens, given the number of the next parameter. -/
def text (dialect : Dialect) (number : Nat) : List Token → List Char
  | [] => []
  | token :: rest =>
      token.spelling dialect number ++ token.gap rest ++
        text dialect (number + (values [token]).length) rest

/-- The tokens of a list of items, with commas between the items. -/
def listing : List (List Token) → List Token
  | [] => []
  | [item] => item
  | item :: next :: rest => item ++ comma :: listing (next :: rest)

/-- The tokens between parentheses. -/
def enclosed (tokens : List Token) : List Token := opening :: (tokens ++ [closing])

/-- The names as identifiers between parentheses, with commas between them. -/
def names (list : List String) : List Token :=
  enclosed (listing (list.map fun name => [identifier name]))

@[simp]
theorem values_nil : values [] = [] := rfl

@[simp]
theorem values_append (before after : List Token) :
    values (before ++ after) = values before ++ values after :=
  List.filterMap_append

@[simp]
theorem values_enclosed (tokens : List Token) : values (enclosed tokens) = values tokens := by
  simp [values, enclosed, List.filterMap_cons, value?]

end Token

end TableMapping
