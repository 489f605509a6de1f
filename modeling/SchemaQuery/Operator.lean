/-!
# Query operators

The vocabulary of queries: operators on scalar fields, operators on lists, and combinators, under
which a field has several alternative or additional conditions.
-/

namespace SchemaQuery

/-- An operator of a query. -/
inductive Operator where
  | equalTo
  | notEqualTo
  | greaterThan
  | greaterOrEqualTo
  | lessThan
  | lessOrEqualTo
  | oneOf
  | notOneOf
  | exists
  | regexp
  | contains
  | containsAll
  | identicalTo
  | containsOneOf
  | containsNoneOf
  | notContains
  | size
  | containsGreaterThan
  | containsGreaterOrEqualTo
  | containsLessThan
  | containsLessOrEqualTo
  | containsRegexp
  deriving DecidableEq, Repr, Inhabited

namespace Operator

/-- All operators, scalar ones first. -/
def all : List Operator :=
  [.equalTo, .notEqualTo, .greaterThan, .greaterOrEqualTo, .lessThan, .lessOrEqualTo, .oneOf,
    .notOneOf, .exists, .regexp, .contains, .containsAll, .identicalTo, .containsOneOf,
    .containsNoneOf, .notContains, .size, .containsGreaterThan, .containsGreaterOrEqualTo,
    .containsLessThan, .containsLessOrEqualTo, .containsRegexp]

theorem mem_all (operator : Operator) : operator ∈ all := by cases operator <;> decide

/-- The name of the operator in queries. -/
def name : Operator → String
  | .equalTo => "equal_to"
  | .notEqualTo => "not_equal_to"
  | .greaterThan => "greater_than"
  | .greaterOrEqualTo => "greater_or_equal_to"
  | .lessThan => "less_than"
  | .lessOrEqualTo => "less_or_equal_to"
  | .oneOf => "one_of"
  | .notOneOf => "not_one_of"
  | .exists => "exists"
  | .regexp => "regexp"
  | .contains => "contains"
  | .containsAll => "contains_all"
  | .identicalTo => "identical_to"
  | .containsOneOf => "contains_one_of"
  | .containsNoneOf => "contains_none_of"
  | .notContains => "not_contains"
  | .size => "size"
  | .containsGreaterThan => "contains_greater_than"
  | .containsGreaterOrEqualTo => "contains_greater_or_equal_to"
  | .containsLessThan => "contains_less_than"
  | .containsLessOrEqualTo => "contains_less_or_equal_to"
  | .containsRegexp => "contains_regexp"

/-- The operator with a name. -/
def ofName? (name : String) : Option Operator := all.find? (·.name = name)

@[simp] theorem ofName?_name (operator : Operator) : ofName? operator.name = some operator := by
  cases operator <;> decide

theorem ofName?_eq_some_iff {name : String} {operator : Operator} :
    ofName? name = some operator ↔ operator.name = name := by
  constructor
  · exact fun h => by simpa using List.find?_some h
  · rintro rfl
    exact ofName?_name operator

/-- The key under which a list has a query on one of its elements. -/
def oneFulfills : String := "one_fulfills"

end Operator

/-- A key that binds a list of conditions on the same field. -/
inductive Combinator where
  | and
  | or
  /-- Another name of `or`. -/
  | either
  deriving DecidableEq, Repr, Inhabited

namespace Combinator

/-- The key in queries. -/
def key : Combinator → String
  | .and => "$and"
  | .or => "$or"
  | .either => "$either"

/-- The combinator with a key. -/
def ofKey? (key : String) : Option Combinator :=
  if key = "$and" then some .and
  else if key = "$or" then some .or
  else if key = "$either" then some .either
  else none

@[simp] theorem ofKey?_key (combinator : Combinator) : ofKey? combinator.key = some combinator := by
  cases combinator <;> decide

/-- One of the conditions is enough. -/
def isDisjunction : Combinator → Bool
  | .and => false
  | .or | .either => true

end Combinator

end SchemaQuery
