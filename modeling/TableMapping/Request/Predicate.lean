import TableMapping.Schema.Property
import TableMapping.Statement.Basic

/-!
# Predicates

Combinations of tests of properties. A test for equality with the absent value is a test for its
absence.
-/

namespace TableMapping

/-- A combination of tests of properties. -/
abbrev Predicate := Formula (Test PropertyKey)

namespace Predicate

/-- The property is compared with the value. -/
def compare (key : PropertyKey) (comparison : Comparison) (value : SqlValue) : Predicate :=
  .atom (.compare key comparison value)

/-- The property is absent. -/
def isNull (key : PropertyKey) : Predicate := .atom (.isNull key)

/-- The property is present. -/
def isNotNull (key : PropertyKey) : Predicate := .atom (.isNotNull key)

/-- The property has the value, which may be the absent one. -/
def eq (key : PropertyKey) (value : SqlValue) : Predicate :=
  if value = .null then isNull key else compare key .eq value

/-- The property has another value than the given one, which may be the absent one. -/
def notEq (key : PropertyKey) (value : SqlValue) : Predicate :=
  if value = .null then isNotNull key else compare key .notEq value

/-- The property matches a pattern. -/
def like (key : PropertyKey) (pattern : String) : Predicate := compare key .like (.text pattern)

/-- The property matches the pattern of texts with the fragment in them. -/
def contains (key : PropertyKey) (fragment : String) : Predicate :=
  like key ("%" ++ fragment ++ "%")

/-- The property matches the pattern of texts that start with the fragment. -/
def startsWith (key : PropertyKey) (fragment : String) : Predicate := like key (fragment ++ "%")

/-- The property matches the pattern of texts that end with the fragment. -/
def endsWith (key : PropertyKey) (fragment : String) : Predicate := like key ("%" ++ fragment)

/-- Both predicates hold. -/
def and (left right : Predicate) : Predicate := .node .and left right

/-- One of the predicates holds. -/
def or (left right : Predicate) : Predicate := .node .or left right

end Predicate

end TableMapping
