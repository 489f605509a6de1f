import SchemaQuery.Category
import SchemaQuery.Operator
import SchemaQuery.Template

/-!
# Operator tables

Which operators a category allows, and the filter fragment that each of them stands for. One match
over the operators makes the decision for all categories.
-/

namespace SchemaQuery

/-- The slot for one value of a category, an element in case of a list. -/
def Category.valueSlot (category : Category) : Slot :=
  match category.scalar with
  | .string => .string
  | .number => .number
  | .boolean => .boolean
  | .date => .date
  | _ => .object

/-- The slot for a list of values of a category. -/
def Category.listSlot (category : Category) : Slot :=
  match category.scalar with
  | .string => .strings
  | .number => .numbers
  | .boolean => .booleans
  | .date => .dates
  | _ => .objects

namespace OperatorTable

/-- The template of an operator on a category, if the category allows it. -/
def lookup (category : Category) (operator : Operator) : Option Template :=
  let value := Template.slot category.valueSlot
  let list := Template.slot category.listSlot
  let allowed (condition : Bool) (template : Template) : Option Template :=
    if condition then some template else none
  let onScalar := allowed (!category.isArray)
  let onArray := allowed category.isArray
  let onOrdered := allowed (category == .number || category == .date)
  let onOrderedArray := allowed (category == .numberArray || category == .dateArray)
  let onListable := allowed (category == .string || category == .number || category == .date)
  match operator with
  | .equalTo => onScalar (.entry "$eq" value)
  | .notEqualTo => onScalar (.entry "$ne" value)
  | .greaterThan => onOrdered (.entry "$gt" value)
  | .greaterOrEqualTo => onOrdered (.entry "$gte" value)
  | .lessThan => onOrdered (.entry "$lt" value)
  | .lessOrEqualTo => onOrdered (.entry "$lte" value)
  | .oneOf => onListable (.entry "$in" list)
  | .notOneOf => onListable (.entry "$nin" list)
  | .exists => some (.entry "$exists" (.slot .boolean))
  | .regexp => allowed (category == .string) (.entry "$regex" (.slot .string))
  | .contains =>
    let element := if category == .objectArray then .entry elemMatchKey (.slot .object) else value
    onArray (.entry "$all" (.array [element]))
  | .containsAll => onArray (.entry "$all" list)
  | .identicalTo => onArray (.entry "$eq" list)
  | .containsOneOf => onArray (.entry elemMatchKey (.entry "$in" list))
  | .containsNoneOf => onArray (.entry "$nin" list)
  | .notContains => onArray (.entry "$nin" (.array [value]))
  | .size => onArray (.entry "$size" (.slot .number))
  | .containsGreaterThan => onOrderedArray (.entry elemMatchKey (.entry "$gt" value))
  | .containsGreaterOrEqualTo => onOrderedArray (.entry elemMatchKey (.entry "$gte" value))
  | .containsLessThan => onOrderedArray (.entry elemMatchKey (.entry "$lt" value))
  | .containsLessOrEqualTo => onOrderedArray (.entry elemMatchKey (.entry "$lte" value))
  | .containsRegexp =>
    allowed (category == .stringArray) (.entry elemMatchKey (.entry "$regex" (.slot .string)))

/-- The template of the operator with a name. -/
def find? (category : Category) (name : String) : Option Template :=
  (Operator.ofName? name).bind (lookup category)

/-- The operators of a category with their templates. -/
def table (category : Category) : List (Operator × Template) :=
  Operator.all.filterMap fun operator =>
    (lookup category operator).map fun template => (operator, template)

/-- The table of a category as an object, by operator name. -/
def toJson (category : Category) : Json :=
  .obj ((table category).map fun (operator, template) => (operator.name, template.render))

end OperatorTable

end SchemaQuery
