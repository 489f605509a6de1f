import SchemaQuery.Filter

/-!
# Compiling queries

Each terminal node of a query adds its clauses to the assembler: first the items of its combinators,
each compiled by itself, then its other operators. The first error ends the compilation.
-/

namespace SchemaQuery.Query

/-- Adds the items that a combinator binds at a path. -/
def addItems (path : String) (category : Category) (combinator : Combinator) :
    List Json → Assembler → Except QueryError Assembler
  | [], assembler => .ok assembler
  | .obj entries :: rest, assembler => do
    let conjuncts ← Constraint.compile path category entries
    addItems path category combinator rest (assembler.hoist combinator path conjuncts)
  | _ :: _, _ => .error (.malformed (path ++ "." ++ combinator.key) .item)

/-- Adds what the combinators of a node bind. -/
def addCombinators (path : String) (category : Category) :
    List (Combinator × Json) → Assembler → Except QueryError Assembler
  | [], assembler => .ok assembler
  | (combinator, .arr items) :: rest, assembler => do
    let assembler ← addItems path category combinator items assembler
    addCombinators path category rest assembler
  | (combinator, _) :: _, _ => .error (.malformedCombinator path combinator.key)

/-- Adds plain constraints on a path one after the other. -/
def pushAll (assembler : Assembler) (path : String) (constraints : List Constraint) : Assembler :=
  constraints.foldl (fun assembler constraint => assembler.pushPlain path constraint) assembler

/-- Adds the clauses of a node. -/
def addNode (assembler : Assembler) (node : QueryNode) : Except QueryError Assembler :=
  if node.onElement then
    match node.category.element? with
    | some element => do
      let envelopes ← Constraint.compileElement node.path element node.body
      return pushAll assembler node.path envelopes
    | none => .ok assembler
  else do
    let assembler ← addCombinators node.path node.category node.combinators assembler
    let constraints ← Constraint.compile node.path node.category node.plainEntries
    return pushAll assembler node.path constraints

/-- Compiles a query against a type map. -/
def compile (types : TypeMap) (query : Json) : Except QueryError Filter := do
  let nodes ← nodes types query
  let assembler ← nodes.foldlM addNode .empty
  return assembler.finish

/-- Compiles a query against a format. -/
def compileFor (format : Format) (query : Json) : Except QueryError Filter :=
  compile (.ofFormat format) query

end SchemaQuery.Query
