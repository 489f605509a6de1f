/-!
# Errors of matching

Why a filter cannot be evaluated. A filter is only checked as far as its evaluation goes.
-/

namespace SchemaQuery

/-- A part of a filter has the wrong shape. -/
inductive FilterShape where
  /-- The filter or a clause of it is no object. -/
  | filter
  /-- A logical operator needs a list with at least one filter. -/
  | clauses (operator : String)
  /-- A membership operator needs a list. -/
  | list (operator : String)
  | exists
  | all
  | size
  | not
  | elemMatch
  | regex
  | options
  /-- Options need a regular expression beside them. -/
  | optionsAlone
  deriving DecidableEq, Repr

/-- What the filter has to have in place of the wrong shape. -/
def FilterShape.expectation : FilterShape → String
  | .filter => "filter must be an object"
  | .clauses operator => operator ++ " requires a non-empty list of filters"
  | .list operator => operator ++ " requires a list"
  | .exists => "$exists requires a boolean"
  | .all => "$all requires a list"
  | .size => "$size requires a non-negative integer"
  | .not => "$not requires an operator object"
  | .elemMatch => "$elemMatch requires an object"
  | .regex => "$regex requires a string"
  | .options => "$options requires a string"
  | .optionsAlone => "$options requires $regex"

/-- Why a regular expression cannot be used. -/
inductive PatternFault where
  | malformed
  /-- An option that is not known. -/
  | option (flag : Char)
  deriving DecidableEq, Repr

/-- Why a filter cannot be evaluated on documents. -/
inductive MatchError where
  | unknownOperator (operator : String)
  | invalidPattern (pattern : String) (fault : PatternFault)
  | malformed (shape : FilterShape)
  /-- An element of a list of documents is no object. -/
  | notDocument (position : Nat)
  | notDocuments
  deriving DecidableEq, Repr

namespace MatchError

/-- The code of the error in responses. -/
def code : MatchError → String
  | .unknownOperator _ => "DOCFILTER_EXECUTION_UNKNOWN_OPERATOR"
  | .invalidPattern .. => "DOCFILTER_EXECUTION_INVALID_REGEX"
  | .malformed _ => "DOCFILTER_EXECUTION_MALFORMED_FILTER"
  | .notDocument _ | .notDocuments => "DOCFILTER_EXECUTION_INVALID_DOCUMENTS"

/-- The text of the error. -/
def message : MatchError → String
  | .unknownOperator operator => "Unsupported filter operator \"" ++ operator ++ "\""
  | .invalidPattern pattern .malformed => "Invalid regular expression \"" ++ pattern ++ "\""
  | .invalidPattern pattern (.option flag) =>
    "Invalid regular expression \"" ++ pattern ++ "\": unsupported option '" ++
      String.singleton flag ++ "'"
  | .malformed shape => "Malformed filter: " ++ shape.expectation
  | .notDocument position =>
    "Invalid documents: element " ++ toString position ++ " is not an object"
  | .notDocuments => "Invalid documents: expected a list of documents"

end MatchError

end SchemaQuery
