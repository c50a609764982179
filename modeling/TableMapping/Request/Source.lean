import TableMapping.Request.Predicate

/-!
# Sources of rows

The rows that a statement works on, as a caller asks for them: those of a first table with the
tables joined to it, as far as a filter admits them. A join names the record type to join and one
property of the foreign key that connects its table to the ones before it.
-/

namespace TableMapping

/-- A table to be joined to the ones before it. -/
structure JoinRequest where
  kind : JoinKind
  /-- The record type of the table. -/
  record : RecordType
  /-- A property of the foreign key that connects the table. -/
  on : PropertyKey
deriving DecidableEq, Repr

/-- The rows that a statement works on, in terms of records and properties. -/
structure Source where
  /-- The record type of the first table. -/
  root : RecordType
  joins : List JoinRequest
  filter : Option Predicate
deriving DecidableEq

namespace Source

/-- All rows of the table of a record type. -/
def all (record : RecordType) : Source := ⟨record, [], none⟩

/-- The source with one more table joined. -/
def join (source : Source) (request : JoinRequest) : Source :=
  ⟨source.root, source.joins ++ [request], source.filter⟩

/-- The source with the filter combined with one more predicate. -/
def combine (source : Source) (connective : Connective) (predicate : Predicate) : Source :=
  match source.filter with
  | none => ⟨source.root, source.joins, some predicate⟩
  | some filter => ⟨source.root, source.joins, some (.node connective filter predicate)⟩

/-- The source with the predicate for its filter. -/
def filtered (source : Source) (predicate : Predicate) : Source :=
  ⟨source.root, source.joins, some predicate⟩

end Source

end TableMapping
