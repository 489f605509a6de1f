import SchemaQuery.Constraint

/-!
# Filters

A filter is a group of clauses that must all hold and a group of alternatives of which one must
hold. An assembler collects the clauses of a compilation: plain constraints are merged path by path,
while the items of combinators are kept as they are. It finds the plain clauses of a path by their
positions, which it keeps in an index.
-/

namespace SchemaQuery

/-- Constraints on one path. -/
structure Clause where
  path : String
  constraint : Constraint

/-- The clause as a document. -/
def Clause.toDocument (clause : Clause) : Json := .entry clause.path (.obj clause.constraint)

/-- A compiled query. -/
structure Filter where
  /-- All of these clauses must hold. -/
  all : List Clause
  /-- One of these alternatives must hold, with all its clauses. -/
  any : List (List Clause)

namespace Filter

/-- The filter matches every document. -/
def isEmpty (filter : Filter) : Bool := filter.all.isEmpty && filter.any.isEmpty

/-- Clauses that hold together as a document. -/
def conjunction (clauses : List Clause) : Json :=
  .entry "$and" (.arr (clauses.map Clause.toDocument))

/-- An alternative as a document; a single clause stands for itself. -/
def alternative : List Clause → Json
  | [clause] => clause.toDocument
  | clauses => conjunction clauses

/-- The filter as a document of the store; empty groups are left out. -/
def toDocument (filter : Filter) : Json :=
  let all := if filter.all.isEmpty then []
    else [("$and", Json.arr (filter.all.map Clause.toDocument))]
  let any := if filter.any.isEmpty then []
    else [("$or", Json.arr (filter.any.map alternative))]
  .obj (all ++ any)

end Filter

/-- The clauses collected so far. -/
structure Assembler where
  all : List Clause
  any : List (List Clause)
  /-- Of each path, the positions of its plain clauses among those that must all hold. -/
  index : List (String × List Nat)

namespace Assembler

/-- Nothing collected yet. -/
def empty : Assembler := ⟨[], [], []⟩

/-- The positions of the plain clauses on a path. -/
def positions (assembler : Assembler) (path : String) : List Nat :=
  (Entries.get? assembler.index path).getD []

/-- Merges constraints into the clause at a position, if there is one and it takes them. -/
def mergeAt? (clauses : List Clause) (constraint : Constraint) (position : Nat) :
    Option (List Clause) :=
  clauses[position]?.bind fun clause =>
    (clause.constraint.merge? constraint).map fun merged =>
      clauses.set position ⟨clause.path, merged⟩

/-- Merges constraints into the first plain clause on the path that takes them, or appends them as
a further plain clause. -/
def pushPlain (assembler : Assembler) (path : String) (constraint : Constraint) : Assembler :=
  let positions := assembler.positions path
  match positions.findSome? (mergeAt? assembler.all constraint) with
  | some all => { assembler with all }
  | none =>
    { assembler with
      all := assembler.all ++ [⟨path, constraint⟩]
      index := Entries.insert assembler.index path (positions ++ [assembler.all.length]) }

/-- Adds an item of a combinator; an item that asks nothing is dropped. -/
def hoist (assembler : Assembler) (combinator : Combinator) (path : String)
    (conjuncts : List Constraint) : Assembler :=
  let clauses := conjuncts.map (Clause.mk path)
  if conjuncts.isEmpty then assembler
  else if combinator.isDisjunction then { assembler with any := assembler.any ++ [clauses] }
  else { assembler with all := assembler.all ++ clauses }

/-- The filter of all clauses collected. -/
def finish (assembler : Assembler) : Filter := ⟨assembler.all, assembler.any⟩

end Assembler

end SchemaQuery
