import SchemaQuery.Json.Basic

/-!
# Comparing values

How a value of a document is compared with an operand. Numbers are compared as doubles and strings
by code points; values of different types are never ordered.
-/

namespace SchemaQuery.Json

/-- The order of two numbers or of two strings. -/
def order? : Json → Json → Option Ordering
  | .num a, .num b => some (compare a.key b.key)
  | .str a, .str b => some (compare a b)
  | _, _ => none

/-- Equality with an operand that is no list: numbers count as doubles, anything else as data. -/
def matchesLeaf : Json → Json → Bool
  | .num a, .num b => a.key == b.key
  | actual, expected => actual.equal expected

/-- The elements of an array. -/
def elements : Json → List Json
  | .arr items => items
  | _ => []

/-- The elements of an array; any other value counts as a list of itself. -/
def elementsOrSelf : Json → List Json
  | .arr items => items
  | value => [value]

/-- The values together with the elements of the arrays among them, in order. -/
def candidates (values : List Json) : List Json :=
  values.flatMap fun value => value :: value.elements

end SchemaQuery.Json
