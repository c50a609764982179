import TableMapping.Dialect.Basic
import TableMapping.Text.Quoted

/-!
# Identifiers

How the names of tables, columns and constraints are written in each dialect. A name of ASCII
letters, digits and underscores that does not start with a digit stands for itself, unless the
dialect reserves the word. Every other name is quoted.
-/

namespace TableMapping

namespace Dialect

/-- The mark around a quoted identifier. -/
def identifierQuote : Dialect → Char := fun _ => '"'

/-- The words that every dialect reserves, in lower case. -/
def commonReserved : List String :=
  ["all", "and", "as", "asc", "between", "by", "case", "check", "column", "constraint", "create",
    "cross", "default", "delete", "desc", "distinct", "drop", "else", "exists", "false", "foreign",
    "from", "full", "group", "having", "in", "inner", "insert", "into", "is", "join", "left",
    "like", "limit", "not", "null", "offset", "on", "or", "order", "outer", "primary",
    "references", "right", "select", "set", "table", "then", "true", "union", "unique", "update",
    "using", "values", "when", "where"]

/-- The further words that a dialect reserves, in lower case. -/
def furtherReserved : Dialect → List String
  | h2 => ["minus", "row", "rownum", "intersect", "qualify", "user"]
  | postgresql =>
      ["analyse", "analyze", "array", "current_user", "fetch", "grant", "only", "returning",
        "session_user", "user", "window"]
  | sqlite =>
      ["abort", "autoincrement", "glob", "index", "indexed", "regexp", "transaction", "vacuum"]

/-- The words that a dialect reserves, in lower case. -/
def reserved (dialect : Dialect) : List String := commonReserved ++ dialect.furtherReserved

/-- The dialect reserves the word, in whatever case its ASCII letters are. -/
def isReserved (dialect : Dialect) (word : List Char) : Bool :=
  dialect.reserved.contains (String.ofList (word.map Char.toLower))

/-- The character can start a bare identifier. -/
def startsWord (character : Char) : Bool := character.isAlpha || character = '_'

/-- The character can stand in a bare identifier after the first one. -/
def continuesWord (character : Char) : Bool := character.isAlphanum || character = '_'

/-- The text has the form of a bare identifier. -/
def isWord : List Char → Bool
  | [] => false
  | first :: rest => startsWord first && rest.all continuesWord

/-- A name as it is written in a statement: bare if it has the form of an identifier and is not
reserved, otherwise quoted. -/
def identifier (dialect : Dialect) (name : List Char) : List Char :=
  if isWord name && !dialect.isReserved name then
    name
  else
    Quoted.enclose dialect.identifierQuote name

end Dialect

end TableMapping
