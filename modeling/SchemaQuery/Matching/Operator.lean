/-!
# Store operators

The operators of filter documents. Their keys start with a dollar sign, which keeps them apart from
the paths of fields.
-/

namespace SchemaQuery

/-- The key starts with a dollar sign. -/
def isOperatorKey (key : String) : Bool := key.toList.head? == some '$'

/-- An operator that joins filters. -/
inductive LogicalOperator where
  | and
  | or
  | nor
  deriving DecidableEq, Repr

namespace LogicalOperator

/-- The operator with a key. -/
def ofKey? (key : String) : Option LogicalOperator :=
  if key = "$and" then some .and
  else if key = "$or" then some .or
  else if key = "$nor" then some .nor
  else none

/-- The outcome of a clause that decides the operator. -/
def decisive : LogicalOperator → Bool
  | .and => false
  | .or | .nor => true

/-- The outcome of the operator, given whether a decisive clause was found. -/
def conclude : LogicalOperator → Bool → Bool
  | .and, found | .nor, found => !found
  | .or, found => found

end LogicalOperator

/-- What a key of a filter is. -/
inductive FilterKey where
  | logical (operator : LogicalOperator)
  /-- An operator that filters do not have. -/
  | unknown
  | path
  deriving DecidableEq, Repr

/-- What a key of a filter is: anything that starts with a dollar sign is meant as an operator. -/
def FilterKey.ofString (key : String) : FilterKey :=
  match LogicalOperator.ofKey? key with
  | some operator => .logical operator
  | none => if isOperatorKey key then .unknown else .path

/-- An operator on the values that a path reaches. -/
inductive StoreOperator where
  | eq
  | ne
  | gt
  | gte
  | lt
  | lte
  | oneOf
  | noneOf
  | exists
  | regex
  | options
  | all
  | elemMatch
  | size
  | not
  deriving DecidableEq, Repr

namespace StoreOperator

/-- All operators. -/
def list : List StoreOperator :=
  [.eq, .ne, .gt, .gte, .lt, .lte, .oneOf, .noneOf, .exists, .regex, .options, .all, .elemMatch,
    .size, .not]

/-- The key of the operator. -/
def key : StoreOperator → String
  | .eq => "$eq"
  | .ne => "$ne"
  | .gt => "$gt"
  | .gte => "$gte"
  | .lt => "$lt"
  | .lte => "$lte"
  | .oneOf => "$in"
  | .noneOf => "$nin"
  | .exists => "$exists"
  | .regex => "$regex"
  | .options => "$options"
  | .all => "$all"
  | .elemMatch => "$elemMatch"
  | .size => "$size"
  | .not => "$not"

/-- The operator with a key. -/
def ofKey? (key : String) : Option StoreOperator := list.find? (·.key = key)

@[simp] theorem ofKey?_key (operator : StoreOperator) : ofKey? operator.key = some operator := by
  cases operator <;> decide

theorem ofKey?_eq_some_iff {key : String} {operator : StoreOperator} :
    ofKey? key = some operator ↔ operator.key = key := by
  constructor
  · exact fun h => by simpa using List.find?_some h
  · rintro rfl
    exact ofKey?_key operator

end StoreOperator

end SchemaQuery
