import SchemaQuery.Json.Basic

/-!
# Schemas

A schema gives a collection's fields: a format lists field definitions by name, and a definition
names a type and says of what an array or an object is made. Type names that are not known are kept
as unknown; such fields cannot be queried.
-/

namespace SchemaQuery

/-- The declared type of a field. -/
inductive FieldType where
  | string
  | number
  | boolean
  | date
  | object
  /-- An object stored as it is, without declared fields. -/
  | cloudedObject
  | array
  | unknown
  deriving DecidableEq, Repr, Inhabited

namespace FieldType

/-- The name of the type in schemas. -/
def name : FieldType → String
  | .string => "string"
  | .number => "number"
  | .boolean => "boolean"
  | .date => "date"
  | .object => "object"
  | .cloudedObject => "cloudedObject"
  | .array => "array"
  | .unknown => "unknown"

/-- The type with a name; any other name is an unknown type. -/
def ofName (name : String) : FieldType :=
  if name = "string" then .string
  else if name = "number" then .number
  else if name = "boolean" then .boolean
  else if name = "date" then .date
  else if name = "object" then .object
  else if name = "cloudedObject" then .cloudedObject
  else if name = "array" then .array
  else .unknown

@[simp] theorem ofName_name (type : FieldType) : ofName type.name = type := by
  cases type <;> decide

end FieldType

mutual

/-- What a field is made of: the element type of an array or the fields of an object. -/
inductive Makeup where
  | unspecified
  | named (type : String)
  | fields (format : List (String × FieldDef))
  /-- Anything else that a schema says here, kept as it is. -/
  | other (value : Json)

/-- The definition of a field. -/
inductive FieldDef where
  | mk (type : FieldType) (makeup : Makeup) (required : Bool)

end

/-- Field definitions by name, in order. -/
abbrev Format := List (String × FieldDef)

instance : Inhabited FieldDef := ⟨.mk .unknown .unspecified false⟩

namespace FieldDef

/-- The declared type. -/
def type : FieldDef → FieldType
  | .mk type _ _ => type

/-- What the field is made of. -/
def makeup : FieldDef → Makeup
  | .mk _ makeup _ => makeup

/-- Stored documents must have the field. -/
def required : FieldDef → Bool
  | .mk _ _ required => required

/-- The fields of the objects that the field holds, if they are declared. -/
def nested? (definition : FieldDef) : Option Format :=
  match definition.makeup with
  | .fields format => some format
  | _ => none

/-! ## Definitions of common fields -/

/-- A field of a type, without further detail. -/
def plain (type : FieldType) (required : Bool) : FieldDef := .mk type .unspecified required

def requiredString : FieldDef := plain .string true
def optionalString : FieldDef := plain .string false
def number : FieldDef := plain .number false
def boolean : FieldDef := plain .boolean false
def date : FieldDef := plain .date false
def cloudedObject : FieldDef := plain .cloudedObject false

/-- An object with declared fields. -/
def object (format : Format) : FieldDef := .mk .object (.fields format) false

/-- An array with elements of a type. -/
def arrayOf (element : FieldType) : FieldDef := .mk .array (.named element.name) false

/-- An array of objects with declared fields. -/
def arrayOfObjects (format : Format) : FieldDef := .mk .array (.fields format) false

end FieldDef

/-- A named schema. -/
structure Schema where
  /-- The name under which the schema is looked up. -/
  identifier : String
  /-- The name of the collection. -/
  name : String
  format : Format

namespace Schema

/-- The name of the field that holds a document's key. -/
def idField : String := "_id"

/-- Appends the key field as a required string, unless the schema declares one. -/
def withIdField (schema : Schema) : Schema :=
  if Entries.contains schema.format idField then schema
  else { schema with format := schema.format ++ [(idField, .requiredString)] }

end Schema

end SchemaQuery
