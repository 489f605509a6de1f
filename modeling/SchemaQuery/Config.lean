import SchemaQuery.Collection.Basic
import SchemaQuery.Schema.Registry
import SchemaQuery.Text.Blank

/-!
# Configuration

A configuration file names the directory of schema files, relative to its own directory, and says
which schemas are used, how large a page is when a request gives no limit, and whether schemas get a
key field.
-/

namespace SchemaQuery

/-- The settings of a configuration file. -/
structure Config where
  schemaDir : String
  /-- The identifiers of the schemas in use; all schemas if none are given. -/
  usedSchemas : Option (List String)
  defaultLimit : Nat
  addIdField : Bool
  deriving DecidableEq, Repr

/-- Why a configuration cannot be used. -/
inductive ConfigError where
  | unreadable (error : FileError)
  | content
  | emptySchemaDir
  | zeroLimit
  | emptyIdentifier
  | schemas (error : SchemaError)
  deriving DecidableEq, Repr

namespace ConfigError

/-- The code of the error in responses. -/
def code : String := "DOCFILTER_CLI_CONFIG_ERROR"

/-- The text of the error. -/
def message : ConfigError → String
  | .unreadable error => "Failed to read config: " ++ error.message
  | .content => "Invalid config JSON"
  | .emptySchemaDir => "schema_dir must not be empty"
  | .zeroLimit => "default_limit must be > 0"
  | .emptyIdentifier => "used_schemas must not contain empty identifiers"
  | .schemas error => "Failed to load schemas: " ++ error.message

end ConfigError

namespace Config

/-! ## Reading -/

/-- A natural number of at most 64 bits. -/
def size? : Json → Option Nat
  | .num n => n.toNat?
  | _ => none

/-- A list of identifiers, or `null`. -/
def usedSchemasOfJson? : Json → Option (Option (List String))
  | .null => some none
  | .arr items => (items.mapM Json.text?).map some
  | _ => none

/-- A truth value. -/
def flag? : Json → Option Bool
  | .bool value => some value
  | _ => none

/-- A setting that may be missing. -/
def settingOr {α : Type} (standard : α) (read : Json → Option α) : Option Json → Option α
  | none => some standard
  | some value => read value

/-- The configuration with these settings; only the directory is required. -/
def ofSettings? (schemaDir usedSchemas defaultLimit addIdField : Option Json) : Option Config := do
  some {
    schemaDir := ← schemaDir.bind Json.text?
    usedSchemas := ← settingOr none usedSchemasOfJson? usedSchemas
    defaultLimit := ← settingOr Collection.standardLimit size? defaultLimit
    addIdField := ← settingOr true flag? addIdField }

/-- The configuration that a value writes: an object, or its settings in order. -/
def ofJson? : Json → Option Config
  | .obj entries => do
    ofSettings? (← Entries.unique? entries "schema_dir") (← Entries.unique? entries "used_schemas")
      (← Entries.unique? entries "default_limit") (← Entries.unique? entries "add_id_field")
  | .arr settings =>
    if settings.length ≤ 4 then ofSettings? settings[0]? settings[1]? settings[2]? settings[3]?
    else none
  | _ => none

/-- The configuration that a text writes, if its settings make sense. -/
def parse (text : String) : Except ConfigError Config :=
  match (Json.parseRaw Json.nestingLimit text).bind ofJson? with
  | none => .error .content
  | some config =>
    if config.schemaDir.isEmpty then .error .emptySchemaDir
    else if config.defaultLimit = 0 then .error .zeroLimit
    else if (config.usedSchemas.getD []).any Text.allBlank then .error .emptyIdentifier
    else .ok config

/-- The configuration of a file; its schema directory is seen from the directory of the file. -/
def ofFile (location : String) (text : Except FileError String) : Except ConfigError Config :=
  match text with
  | .error error => .error (.unreadable error)
  | .ok text => do
    let config ← parse text
    if Location.isAbsolute config.schemaDir then return config
    else return { config with
      schemaDir := Location.join (Location.parent location) config.schemaDir }

/-! ## Schemas -/

/-- The schemas that the configuration puts to use. -/
def loadSchemas (config : Config) (listing : Listing) : Except ConfigError Registry :=
  let loaded := Registry.empty.loadAll config.schemaDir listing
  match loaded.error with
  | some error => .error (.schemas error)
  | none =>
    let used := match config.usedSchemas with
      | some identifiers => loaded.registry.retain identifiers
      | none => loaded.registry
    .ok (if config.addIdField then used.addIdFields else used)

end Config

end SchemaQuery
