import SchemaQuery.OperatorTable
import SchemaQuery.Query.Node

/-!
# Constraints on one path

A constraint object holds store operators with their operands, all of which apply to one path.
Fragments are merged into one object as long as nothing in it would be overwritten; otherwise they
stay apart, and all the objects have to hold.
-/

namespace SchemaQuery

/-- Store operators with their operands. -/
abbrev Constraint := List (String × Json)

namespace Constraint

/-- Lists under these keys are concatenated. -/
def listKeys : List String := ["$all", "$nin"]

/-- Under a key, the incoming value cannot be added to what the object holds. -/
def collides (key : String) (existing : Option Json) (incoming : Json) : Bool :=
  match existing, incoming with
  | none, _ => false
  | some (.obj body), .obj other =>
    !(key == elemMatchKey) || other.any fun (inner, _) => Entries.contains body inner
  | some (.arr _), .arr _ => !listKeys.contains key
  | some _, _ => true

/-- The value that holds what both values ask. -/
def combine : Json → Json → Json
  | .obj body, .obj other => .obj (Entries.insertAll body other)
  | .arr items, .arr others => .arr (items ++ others)
  | _, incoming => incoming

/-- Adds a value under a key. -/
def add (target : Constraint) (key : String) (incoming : Json) : Constraint :=
  match Entries.get? target key with
  | some existing => Entries.insert target key (combine existing incoming)
  | none => target ++ [(key, incoming)]

/-- The object that holds what both objects ask; none if something would be overwritten. -/
def merge? (target fragment : Constraint) : Option Constraint :=
  if fragment.any fun (key, incoming) => collides key (Entries.get? target key) incoming then none
  else some (fragment.foldl (fun target entry => target.add entry.1 entry.2) target)

/-- Merges a fragment into the first object that takes it, or appends it as a further object. -/
def fold : List Constraint → Constraint → List Constraint
  | [], fragment => [fragment]
  | target :: rest, fragment =>
    match target.merge? fragment with
    | some merged => merged :: rest
    | none => target :: fold rest fragment

/-- Folds fragments one after the other. -/
def foldAll (conjuncts fragments : List Constraint) : List Constraint :=
  fragments.foldl fold conjuncts

/-- The envelope around conditions on one element of a list. -/
def inEnvelope (body : Constraint) : Constraint := [(elemMatchKey, .obj body)]

/-- The fragment that an operator stands for. -/
def ofOperator (path : String) (category : Category) (key : String) (operand : Json) :
    Except QueryError (List Constraint) :=
  match OperatorTable.find? category key with
  | none => .error (.unknownOperator path category key)
  | some template =>
    match template.substitute operand with
    | .obj fragment => .ok [fragment]
    | _ => .ok []

/-- The constraint objects of operator entries at a path, folded into those found so far. On a list
the entry `one_fulfills` holds a query on one element, which is compiled for the category of an
element and put into an envelope. -/
def compileFrom (path : String) (category : Category) (found : List Constraint) :
    List (String × Json) → Except QueryError (List Constraint)
  | [] => .ok found
  | (key, operand) :: rest => do
    let fragments ← match category.element?, decide (key = Operator.oneFulfills), operand with
      | some element, true, .obj inner => do
        let bodies ← compileFrom (elementPath path) element [] inner
        pure (bodies.map inEnvelope)
      | some _, true, _ => .error (.malformed (elementPath path) .element)
      | _, _, operand => ofOperator path category key operand
    compileFrom path category (foldAll found fragments) rest

/-- The constraint objects that operator entries at a path ask for. -/
def compile (path : String) (category : Category) (entries : List (String × Json)) :
    Except QueryError (List Constraint) := compileFrom path category [] entries

/-- The envelopes of a query on one element of the list at a path. -/
def compileElement (path : String) (element : Category) (entries : List (String × Json)) :
    Except QueryError (List Constraint) := do
  let bodies ← compile (elementPath path) element entries
  return bodies.map inEnvelope

end Constraint

end SchemaQuery
