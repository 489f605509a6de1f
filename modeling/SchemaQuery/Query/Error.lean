import SchemaQuery.Category

/-!
# Errors of queries

What can be wrong with a query, and where. The first fault found ends a compilation.
-/

namespace SchemaQuery

/-- Something in a query has the wrong shape. -/
inductive QueryShape where
  /-- The query is neither an object nor `null`. -/
  | query
  /-- A field is bound to something other than an object. -/
  | field
  /-- The element query of a list is no object. -/
  | element
  /-- An item under a combinator is no object. -/
  | item
  deriving DecidableEq, Repr

/-- What a query has to have in place of the wrong shape. -/
def QueryShape.expectation : QueryShape → String
  | .query => "query must be an object"
  | .field => "expected an object of query operators"
  | .element => "element query must be an object of operators"
  | .item => "combinator items must be objects of operators"

/-- Why a query does not compile. -/
inductive QueryError where
  /-- The category of the path does not allow the key. -/
  | unknownOperator (path : String) (category : Category) (key : String)
  /-- A combinator is bound to something other than a list. -/
  | malformedCombinator (path : String) (combinator : String)
  | malformed (path : String) (shape : QueryShape)
  deriving DecidableEq, Repr

namespace QueryError

/-- The code of the error in responses. -/
def code : QueryError → String
  | .unknownOperator .. => "DOCFILTER_QUERY_UNKNOWN_OPERATOR"
  | .malformedCombinator .. => "DOCFILTER_QUERY_MALFORMED_COMBINATOR"
  | .malformed .. => "DOCFILTER_QUERY_MALFORMED"

/-- The path at which the fault is. -/
def path : QueryError → String
  | .unknownOperator path .. => path
  | .malformedCombinator path _ => path
  | .malformed path _ => path

/-- The text of the error. -/
def message : QueryError → String
  | .unknownOperator path category key =>
    "Failed to build a query due to an unknown query key \"" ++ key ++ "\" at \"" ++ path ++
      "\" (@" ++ category.name ++ ")"
  | .malformedCombinator path combinator =>
    "Combinator \"" ++ combinator ++ "\" at \"" ++ path ++
      "\" must be bound to a list of queries"
  | .malformed path shape => "Malformed query at \"" ++ path ++ "\": " ++ shape.expectation

end QueryError

end SchemaQuery
