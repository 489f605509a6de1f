import SchemaQuery.CommandLine.Arguments
import SchemaQuery.Compiler
import SchemaQuery.Config
import SchemaQuery.Json.Printer

/-!
# Commands

What the commands do. A fault of the configuration ends a command; anything wrong with the request
itself is answered by an error response. A response is one line of JSON.
-/

namespace SchemaQuery.CommandLine

/-- Why a request cannot be answered. -/
inductive RequestError where
  | json
  | emptyInput
  /-- The standard input is not UTF-8. -/
  | input
  | dataFile (location : String) (error : FileError)
  | category (name : String)
  | schema (error : SchemaError)
  | query (error : QueryError)
  | documents (error : MatchError)
  deriving DecidableEq, Repr

namespace RequestError

/-- The code of the error in responses. -/
def code : RequestError → String
  | .json | .emptyInput | .input | .dataFile .. => "DOCFILTER_CLI_IO_ERROR"
  | .category _ => "DOCFILTER_CLI_INVALID_ARGUMENT"
  | .schema error => error.code
  | .query error => error.code
  | .documents error => error.code

/-- The text of the error. -/
def message : RequestError → String
  | .json => "JSON error"
  | .emptyInput => "Empty input"
  | .input => FileError.notText.message
  | .dataFile location error => "Failed to read data file " ++ location ++ ": " ++ error.message
  | .category name => "Unknown query category '" ++ name ++ "'"
  | .schema error => error.message
  | .query error => error.message
  | .documents error => error.message

end RequestError

/-- The answer to a request. -/
abbrev Answer := Except RequestError Json

/-- The response that gives an answer. -/
def respond : Answer → Json
  | .ok data => .obj [("status", .str "ok"), ("data", data)]
  | .error error =>
    .obj [("status", .str "error"), ("code", .str error.code), ("message", .str error.message)]

/-- The query that the standard input holds; none stands for input that is not UTF-8. -/
def readQuery : Option String → Answer
  | none => .error .input
  | some text =>
    if Text.allBlank text then .error .emptyInput
    else match Json.parse text with
      | some query => .ok query
      | none => .error .json

/-- The type map of a schema. -/
def typeMap (registry : Registry) (schema : String) : Except RequestError TypeMap :=
  (registry.typeMap schema).mapError .schema

/-- Compiles a query for a schema. -/
def compileQuery (registry : Registry) (schema : String) (query : Json) :
    Except RequestError Filter := do
  let types ← typeMap registry schema
  (Query.compile types query).mapError .query

/-- The documents of a data file. -/
def readCollection (location : String) (text : Except FileError String) :
    Except RequestError Collection :=
  match text with
  | .error error => .error (.dataFile location error)
  | .ok text =>
    match Json.parse text with
    | none => .error .json
    | some documents => (Collection.ofJson documents).mapError .documents

/-- A page of the documents that match a query for a schema. -/
def findDocuments (registry : Registry) (schema : String) (query : Json) (collection : Collection)
    (options : FindOptions) : Except RequestError Page := do
  let filter ← compileQuery registry schema query
  (collection.find filter options).mapError .documents

/-- The operators of a category with their templates. -/
def operatorTable (category : String) : Answer :=
  match Category.ofName? category with
  | some category => .ok (OperatorTable.toJson category)
  | none => .error (.category category)

/-- The sort that a command asks for. -/
def sortOrder? (path : Option String) (descending : Bool) : Option SortOrder :=
  path.map fun path => ⟨path, if descending then .descending else .ascending⟩

/-- Reads the configuration at a location and loads its schemas. -/
def configure (files : FileSystem) (location : String) :
    Except ConfigError (Config × Registry) := do
  let config ← Config.ofFile location (files.readText location)
  let registry ← config.loadSchemas (files.readDirectory config.schemaDir)
  return (config, registry)

/-- Runs a command: its answer, unless the configuration is at fault. -/
def run (files : FileSystem) (input : Option String) : Command → Except ConfigError Answer
  | .operators category => .ok (operatorTable category)
  | .paths config schema => do
    let (_, registry) ← configure files config
    return TypeMap.toJson <$> typeMap registry schema
  | .compile config schema => do
    let (_, registry) ← configure files config
    return do
      let query ← readQuery input
      Filter.toDocument <$> compileQuery registry schema query
  | .find config schema data limit offset sort descending => do
    let (config, registry) ← configure files config
    let options : FindOptions := ⟨sortOrder? sort descending, limit, offset⟩
    return do
      let query ← readQuery input
      let collection ← readCollection data (files.readText data)
      let collection := { collection with defaultLimit := config.defaultLimit }
      Page.toJson <$> findDocuments registry schema query collection options

/-- The line that answers a command. -/
def line (answer : Answer) : String := (respond answer).render

end SchemaQuery.CommandLine
