import SchemaQuery.Matching.Path

/-!
# Sorting documents

Documents are sorted by the first value that a path reaches. Missing values come first, then `null`,
booleans, numbers, strings, arrays and objects; arrays count as equal among themselves, and so do
objects. The sort is stable in both directions.
-/

namespace SchemaQuery

/-- The direction of a sort. -/
inductive SortDirection where
  | ascending
  | descending
  deriving DecidableEq, Repr

/-- The path to sort by and the direction. -/
structure SortOrder where
  path : String
  direction : SortDirection
  deriving DecidableEq, Repr

namespace Json

/-- The place of a type in the order of sort keys. -/
def rank : Json → Nat
  | .null => 0
  | .bool _ => 1
  | .num _ => 2
  | .str _ => 3
  | .arr _ => 4
  | .obj _ => 5

/-- The order of two sort keys of the same type. -/
def compareAlike : Json → Json → Ordering
  | .bool a, .bool b => compare a b
  | .num a, .num b => compare a.key b.key
  | .str a, .str b => compare a b
  | _, _ => .eq

/-- The order of two sort keys. -/
def compareKeys : Option Json → Option Json → Ordering
  | none, none => .eq
  | none, some _ => .lt
  | some _, none => .gt
  | some a, some b => (compare a.rank b.rank).then (compareAlike a b)

end Json

namespace SortOrder

/-- The value of a document that it is sorted by. -/
def key? (order : SortOrder) (document : Json) : Option Json :=
  (Path.resolve document order.path).head?

/-- The order of two documents. -/
def compare (order : SortOrder) (a b : Json) : Ordering :=
  let ordering := Json.compareKeys (order.key? a) (order.key? b)
  match order.direction with
  | .ascending => ordering
  | .descending => ordering.swap

/-- The documents in order; those with equal keys keep their places among each other. -/
def sort (order : SortOrder) (documents : List Json) : List Json :=
  documents.mergeSort fun a b => (order.compare a b).isLE

end SortOrder

end SchemaQuery
