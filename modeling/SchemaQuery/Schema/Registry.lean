import SchemaQuery.Files.System
import SchemaQuery.Json.Reader
import SchemaQuery.Query.Error
import SchemaQuery.Schema.Codec
import SchemaQuery.TypeMap

/-!
# Schema registries

A registry holds schemas by identifier, in the order in which they were registered; an identifier is
registered only once. Schemas are loaded from the JSON files of a directory in the order of file
names. Loading stops at the first fault and keeps what was registered before it.
-/

namespace SchemaQuery

/-- Why a schema file cannot be loaded. -/
inductive SchemaFault where
  | directory (error : FileError)
  | file (error : FileError)
  /-- The text is no JSON, or the JSON is no schema. -/
  | content
  deriving DecidableEq, Repr

/-- The text of the fault. -/
def SchemaFault.message : SchemaFault → String
  | .directory error => "Failed to read schema directory: " ++ error.message
  | .file error => "Failed to read file: " ++ error.message
  | .content => "Invalid JSON"

/-- Why a schema cannot be found or registered. -/
inductive SchemaError where
  | unknown (identifier : String)
  | duplicate (identifier : String)
  | malformed (location : String) (fault : SchemaFault)
  deriving DecidableEq, Repr

namespace SchemaError

/-- The code of the error in responses. -/
def code : SchemaError → String
  | .unknown _ => "DOCFILTER_UNKNOWN_SCHEMA"
  | .duplicate _ => "DOCFILTER_DUPLICATE_SCHEMA"
  | .malformed .. => "DOCFILTER_MALFORMED_SCHEMA"

/-- The text of the error. -/
def message : SchemaError → String
  | .unknown identifier => "Schema '" ++ identifier ++ "' not found"
  | .duplicate identifier => "Schema '" ++ identifier ++ "' is already registered"
  | .malformed location fault => "Malformed schema at " ++ location ++ ": " ++ fault.message

end SchemaError

/-- Schemas by identifier, in the order of registration. -/
structure Registry where
  entries : List (String × Schema)

/-- A registry after a series of registrations, with the error that ended it early. -/
structure Registration where
  registry : Registry
  error : Option SchemaError

namespace Registry

/-- No schemas. -/
def empty : Registry := ⟨[]⟩

/-- The schema with an identifier. -/
def get? (registry : Registry) (identifier : String) : Option Schema :=
  Entries.get? registry.entries identifier

/-- Some schema has the identifier. -/
def contains (registry : Registry) (identifier : String) : Bool :=
  Entries.contains registry.entries identifier

/-- The schemas in the order of registration. -/
def schemas (registry : Registry) : List Schema := registry.entries.map (·.2)

/-- The identifiers in the order of registration. -/
def identifiers (registry : Registry) : List String := Entries.keys registry.entries

/-- Adds a schema; an identifier that is taken is refused. -/
def register (registry : Registry) (schema : Schema) : Except SchemaError Registry :=
  if registry.contains schema.identifier then .error (.duplicate schema.identifier)
  else .ok ⟨registry.entries ++ [(schema.identifier, schema)]⟩

/-- Keeps the schemas with the given identifiers. -/
def retain (registry : Registry) (identifiers : List String) : Registry :=
  ⟨registry.entries.filter fun (identifier, _) => identifiers.contains identifier⟩

/-- Gives every schema a key field. -/
def addIdFields (registry : Registry) : Registry :=
  ⟨Entries.mapValues Schema.withIdField registry.entries⟩

/-- The type map of the schema with an identifier. -/
def typeMap (registry : Registry) (identifier : String) : Except SchemaError TypeMap :=
  match registry.get? identifier with
  | some schema => .ok (.ofFormat schema.format)
  | none => .error (.unknown identifier)

/-! ## Loading -/

/-- Registers schemas up to the first that is refused. -/
def registerAll (registry : Registry) : List Schema → Registration
  | [] => ⟨registry, none⟩
  | schema :: rest =>
    match registry.register schema with
    | .ok registry => registry.registerAll rest
    | .error error => ⟨registry, some error⟩

/-- Registers the schemas of a file. -/
def loadFile (registry : Registry) (location : String) (text : Except FileError String) :
    Registration :=
  match text with
  | .error error => ⟨registry, some (.malformed location (.file error))⟩
  | .ok text =>
    match (Json.parseRaw Json.nestingLimit text).bind Schema.listOfJson? with
    | some schemas => registry.registerAll schemas
    | none => ⟨registry, some (.malformed location .content)⟩

/-- Loads files of a directory one after the other, up to the first fault. -/
def loadFiles (registry : Registry) (directory : String) :
    List (String × Except FileError String) → Registration
  | [] => ⟨registry, none⟩
  | (name, text) :: rest =>
    let loaded := registry.loadFile (Location.join directory name) text
    match loaded.error with
    | some error => ⟨loaded.registry, some error⟩
    | none => loaded.registry.loadFiles directory rest

/-- The schema files among the entries of a directory, by name. -/
def schemaFiles (entries : List (String × Except FileError String)) :
    List (String × Except FileError String) :=
  (entries.filter fun (name, _) => Location.extension? name == some "json").mergeSort
    fun a b => decide (a.1 ≤ b.1)

/-- Loads the schema files of a directory. -/
def loadAll (registry : Registry) (directory : String) (listing : Listing) : Registration :=
  match listing with
  | .error error => ⟨registry, some (.malformed directory (.directory error))⟩
  | .ok entries => registry.loadFiles directory (schemaFiles entries)

end Registry

end SchemaQuery
