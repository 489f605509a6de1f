import SchemaQuery.Operator
import SchemaQuery.Query.Error
import SchemaQuery.TypeMap

/-!
# Nodes of a query

A query is a tree whose terminal nodes are the operator objects bound to paths of the type map.
Paths may be written nested or joined by dots, and the query on an element of a list may be bound to
the list's path followed by `one_fulfills`. Keys that lead to no path of the type map are ignored.
-/

namespace SchemaQuery

/-- A terminal node of a query. -/
structure QueryNode where
  path : String
  category : Category
  /-- The operator object bound to the path. -/
  body : List (String × Json)
  /-- The body is a query on one element of the list at the path. -/
  onElement : Bool

/-- How a node is compiled. -/
inductive NodeKind where
  /-- Operators only. -/
  | plain
  /-- At least one combinator. -/
  | combined
  /-- A query on one element of a list. -/
  | elementMatch
  deriving DecidableEq, Repr

namespace QueryNode

/-- The combinators of the node with what they are bound to. -/
def combinators (node : QueryNode) : List (Combinator × Json) :=
  node.body.filterMap fun (key, value) =>
    (Combinator.ofKey? key).map fun combinator => (combinator, value)

/-- The entries of the node that are no combinators. -/
def plainEntries (node : QueryNode) : List (String × Json) :=
  node.body.filter fun (key, _) => (Combinator.ofKey? key).isNone

/-- The kind of the node. -/
def kind (node : QueryNode) : NodeKind :=
  if node.onElement then .elementMatch
  else if !node.combinators.isEmpty then .combined
  else if node.category.isArray && Entries.contains node.body Operator.oneFulfills then
    .elementMatch
  else .plain

end QueryNode

/-- The path under which the query on an element of a list is written. -/
def elementPath (path : String) : String := path ++ "." ++ Operator.oneFulfills

/-- The path of the list whose element queries are written under a path. -/
def listPath? (path : String) : Option String :=
  let ending := '.' :: Operator.oneFulfills.toList
  if ending.isSuffixOf path.toList then
    some (String.ofList (path.toList.take (path.toList.length - ending.length)))
  else none

/-- The list, with its category, whose element queries are written under a path. -/
def TypeMap.elementTarget? (types : TypeMap) (path : String) : Option (String × Category) := do
  let list ← listPath? path
  let category ← types.get? list
  if category.isArray then some (list, category) else none

namespace Query

/-- What a path means to a query. -/
inductive Target where
  /-- A path of the type map. -/
  | field (category : Category)
  /-- The element queries of a list. -/
  | element (list : String) (category : Category)
  /-- A path above some path of the type map. -/
  | above
  | unknown
  deriving DecidableEq, Repr

/-- What a path means. A path of the type map is never taken for anything else. -/
def target (types : TypeMap) (path : String) : Target :=
  match types.get? path with
  | some category => .field category
  | none =>
    match types.elementTarget? path with
    | some (list, category) => .element list category
    | none => if types.hasDescendants path then .above else .unknown

/-- The terminal nodes among entries found at a path, in order. -/
def nodesOfEntries (types : TypeMap) (parent : Option String) :
    List (String × Json) → Except QueryError (List QueryNode)
  | [] => .ok []
  | (key, value) :: rest => do
    let path := joinPath parent key
    let found ← match target types path, value with
      | .field category, .obj body => .ok [⟨path, category, body, false⟩]
      | .field _, _ => .error (.malformed path .field)
      | .element list category, .obj body => .ok [⟨list, category, body, true⟩]
      | .element .., _ => .error (.malformed path .element)
      | .above, .obj inner => nodesOfEntries types (some path) inner
      | _, _ => .ok []
    let others ← nodesOfEntries types parent rest
    return found ++ others

/-- The terminal nodes of a query in order; `null` is the empty query. -/
def nodes (types : TypeMap) : Json → Except QueryError (List QueryNode)
  | .null => .ok []
  | .obj entries => nodesOfEntries types none entries
  | _ => .error (.malformed "" .query)

end Query

end SchemaQuery
