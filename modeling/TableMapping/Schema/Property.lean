import TableMapping.ValueType

/-!
# Properties

Record types, their properties, and records. A record type is known by its name, and a property by
its name within its record type.
-/

namespace TableMapping

/-- A type of records. -/
structure RecordType where
  name : String
deriving DecidableEq, Repr

/-- A property among those of all record types. -/
structure PropertyKey where
  record : RecordType
  name : String
deriving DecidableEq, Repr

namespace PropertyKey

/-- The name of a property after that of its record type. -/
def qualifiedName (key : PropertyKey) : String := key.record.name ++ "::" ++ key.name

/-- A property as it is shown to a programmer. -/
def display (key : PropertyKey) : String :=
  "Property \x7b entity: " ++ Escaped.text key.record.name ++ ", name: " ++
    Escaped.text key.name ++ " \x7d"

end PropertyKey

/-- A property of a record type. -/
structure Property where
  name : String
  type : ValueType
deriving DecidableEq, Repr

/-- A record gives each property of its type, by name, the SQL value that stands for its value. -/
abbrev Record := String → SqlValue

namespace Record

/-- Every listed property has a value of its type. -/
def Fits (record : Record) (properties : List Property) : Prop :=
  ∀ property ∈ properties, property.type.admits (record property.name) = true

end Record

end TableMapping
