import SchemaQuery.Schema.Field

/-!
# Query categories

A field that can be queried has a category: its base type, and whether it holds one value or a list
of them. The category decides which operators a query may use on the field.
-/

namespace SchemaQuery

/-- The category of a field that can be queried. -/
inductive Category where
  | string
  | number
  | boolean
  | date
  | object
  | stringArray
  | numberArray
  | booleanArray
  | dateArray
  | objectArray
  deriving DecidableEq, Repr, Inhabited

namespace Category

/-- All categories, scalar ones first. -/
def all : List Category :=
  [.string, .number, .boolean, .date, .object,
    .stringArray, .numberArray, .booleanArray, .dateArray, .objectArray]

theorem mem_all (category : Category) : category ∈ all := by cases category <;> decide

/-- The name of the category in messages and on the command line. -/
def name : Category → String
  | .string => "string"
  | .number => "number"
  | .boolean => "boolean"
  | .date => "date"
  | .object => "object"
  | .stringArray => "stringArray"
  | .numberArray => "numberArray"
  | .booleanArray => "booleanArray"
  | .dateArray => "dateArray"
  | .objectArray => "objectArray"

/-- The category with a name. -/
def ofName? (name : String) : Option Category := all.find? (·.name = name)

@[simp] theorem ofName?_name (category : Category) : ofName? category.name = some category := by
  cases category <;> decide

/-- The category of a single element, for lists. -/
def element? : Category → Option Category
  | .stringArray => some .string
  | .numberArray => some .number
  | .booleanArray => some .boolean
  | .dateArray => some .date
  | .objectArray => some .object
  | _ => none

/-- The field holds a list. -/
def isArray (category : Category) : Bool := category.element?.isSome

/-- The category of a single value. -/
def scalar (category : Category) : Category := category.element?.getD category

/-- The elements of lists are scalar. -/
theorem element?_of_element? {category element : Category} (h : category.element? = some element) :
    element.element? = none := by
  cases category <;> simp [element?] at h <;> subst h <;> rfl

/-- The category of a list whose elements have the named type. Lists of objects and lists of lists
are queried alike. -/
def ofElementType? : FieldType → Option Category
  | .string => some .stringArray
  | .number => some .numberArray
  | .boolean => some .booleanArray
  | .date => some .dateArray
  | .object | .cloudedObject | .array => some .objectArray
  | .unknown => none

/-- The category of a list. -/
def ofArrayMakeup? : Makeup → Option Category
  | .unspecified => none
  | .named type => ofElementType? (.ofName type)
  | .fields _ => some .objectArray
  | .other value => if value.isObject || value.isArray then some .objectArray else none

/-- The category of a field. An object with declared fields has none, as a query goes into its
fields; neither has a field of an unknown type. -/
def ofField? (definition : FieldDef) : Option Category :=
  match definition.type with
  | .string => some .string
  | .number => some .number
  | .boolean => some .boolean
  | .date => some .date
  | .cloudedObject => some .object
  | .object => if definition.nested?.isSome then none else some .object
  | .array => ofArrayMakeup? definition.makeup
  | .unknown => none

end Category

end SchemaQuery
