import SchemaQuery.Schema.Field

/-!
# Schemas as JSON

A definition is written as an object and read from an object or from a list of its parts in order.
Reading what a field is made of never fails: whatever is neither a type name nor a format of valid
definitions is kept as it is. Values are read raw, so that a repeated key can be refused where a
key must be unique.
-/

namespace SchemaQuery

/-! ## Lookup of unique keys -/

/-- The value of a key that may stand at most once; none if it stands twice. -/
def Entries.unique? {α : Type} (entries : List (String × α)) (key : String) :
    Option (Option α) :=
  match entries.filter (·.1 == key) with
  | [] => some none
  | [(_, value)] => some (some value)
  | _ => none

/-! ## Writing -/

mutual

/-- A definition as an object; an unspecified makeup is left out. -/
def FieldDef.toJson : FieldDef → Json
  | .mk type makeup required =>
    .obj (("type", .str type.name) :: makeup.toEntries ++ [("required", .bool required)])

/-- The entry for what a field is made of. -/
def Makeup.toEntries : Makeup → List (String × Json)
  | .unspecified => []
  | .named type => [("subtype", .str type)]
  | .fields format => [("subtype", .obj (Format.toEntries format))]
  | .other value => [("subtype", value)]

/-- The definitions of a format. -/
def Format.toEntries : List (String × FieldDef) → List (String × Json)
  | [] => []
  | (name, definition) :: rest => (name, definition.toJson) :: Format.toEntries rest

end

/-- A format as an object. -/
def Format.toJson (format : Format) : Json := .obj (Format.toEntries format)

/-- A schema as an object. -/
def Schema.toJson (schema : Schema) : Json :=
  .obj [("identifier", .str schema.identifier), ("name", .str schema.name),
    ("format", Format.toJson schema.format)]

/-! ## Reading -/

/-- A type is written as its name or as an object with the name as its only key and no value. -/
def FieldType.ofJson? : Json → Option FieldType
  | .str name => some (.ofName name)
  | .obj [(name, .null)] => some (.ofName name)
  | _ => none

/-- Whether a field is required, by default not. -/
def FieldDef.requiredOfJson? : Option Json → Option Bool
  | none => some false
  | some (.bool required) => some required
  | some _ => none

mutual

/-- The definition that a value writes. -/
def FieldDef.ofJson? : Json → Option FieldDef
  | .obj entries => do
    let type ← (← Entries.unique? entries "type").bind FieldType.ofJson?
    let _ ← Entries.unique? entries "subtype"
    let required ← FieldDef.requiredOfJson? (← Entries.unique? entries "required")
    some (.mk type (Makeup.ofEntries entries) required)
  | .arr [type] => do
    some (.mk (← FieldType.ofJson? type) .unspecified false)
  | .arr [type, makeup] => do
    some (.mk (← FieldType.ofJson? type) (Makeup.ofJson makeup) false)
  | .arr [type, makeup, required] => do
    some (.mk (← FieldType.ofJson? type) (Makeup.ofJson makeup)
      (← FieldDef.requiredOfJson? (some required)))
  | _ => none
termination_by structural value => value

/-- What a field is made of, from the entries of its definition. -/
def Makeup.ofEntries : List (String × Json) → Makeup
  | [] => .unspecified
  | (key, value) :: rest => if key = "subtype" then Makeup.ofJson value else Makeup.ofEntries rest
termination_by structural entries => entries

/-- What a field is made of. -/
def Makeup.ofJson : Json → Makeup
  | .null => .unspecified
  | .str type => .named type
  | .obj entries =>
    match Format.ofEntries? entries with
    | some definitions => .fields (Entries.ofList definitions)
    | none => .other (.obj (Entries.ofList (Json.collapseEntries entries)))
  | value => .other value.collapse
termination_by structural value => value

/-- The definitions of all entries; none if one of them is no definition. -/
def Format.ofEntries? : List (String × Json) → Option (List (String × FieldDef))
  | [] => some []
  | (name, value) :: rest => do
    let definition ← FieldDef.ofJson? value
    some ((name, definition) :: (← Format.ofEntries? rest))
termination_by structural entries => entries

end

/-- The format that a value writes; of a repeated name the last definition counts. -/
def Format.ofJson? : Json → Option Format
  | .obj entries => (Format.ofEntries? entries).map Entries.ofList
  | _ => none

/-- The schema that a value writes: an object, or its three parts in order. -/
def Schema.ofJson? : Json → Option Schema
  | .obj entries => do
    let identifier ← (← Entries.unique? entries "identifier").bind Json.text?
    let name ← (← Entries.unique? entries "name").bind Json.text?
    let format ← (← Entries.unique? entries "format").bind Format.ofJson?
    some ⟨identifier, name, format⟩
  | .arr [identifier, name, format] => do
    some ⟨← identifier.text?, ← name.text?, ← Format.ofJson? format⟩
  | _ => none

/-- The schemas that a file writes: a list of schemas, or else a single one. -/
def Schema.listOfJson? (value : Json) : Option (List Schema) :=
  match value.items?.bind (·.mapM Schema.ofJson?) with
  | some schemas => some schemas
  | none => (Schema.ofJson? value).map ([·])

end SchemaQuery
