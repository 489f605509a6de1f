import SchemaQuery.Category

/-!
# Type maps

The type map of a format lists the paths that can be queried, each with its category, in the order
of the schema. A path joins field names by dots; objects with declared fields are replaced by their
fields.
-/

namespace SchemaQuery

/-- The path of a field within the object at a path. -/
def joinPath : Option String → String → String
  | none, key => key
  | some parent, key => parent ++ "." ++ key

/-- The categories of the paths that can be queried. -/
structure TypeMap where
  paths : List (String × Category)
  deriving Repr, DecidableEq

namespace TypeMap

mutual

/-- The paths of the fields of a format within the object at `parent`, each occurrence by itself. -/
def leaves (parent : Option String) : List (String × FieldDef) → List (String × Category)
  | [] => []
  | (key, definition) :: rest =>
    leavesOfField (joinPath parent key) definition ++ leaves parent rest

/-- The paths at or below a field. -/
def leavesOfField (path : String) : FieldDef → List (String × Category)
  | .mk type makeup required =>
    match Category.ofField? (.mk type makeup required) with
    | some category => [(path, category)]
    | none => if type = .object then leavesOfMakeup path makeup else []

/-- The paths of the declared fields of an object. -/
def leavesOfMakeup (path : String) : Makeup → List (String × Category)
  | .fields format => leaves (some path) format
  | _ => []

end

/-- The type map of a format. A path that is reached twice keeps its first place and its last
category. -/
def ofFormat (format : Format) : TypeMap := ⟨Entries.ofList (leaves none format)⟩

/-- The category of a path. -/
def get? (types : TypeMap) (path : String) : Option Category := Entries.get? types.paths path

/-- The path can be queried. -/
def contains (types : TypeMap) (path : String) : Bool := Entries.contains types.paths path

/-- Some path that can be queried lies below this one. -/
def hasDescendants (types : TypeMap) (path : String) : Bool :=
  types.paths.any fun (below, _) => (path.toList ++ ['.']).isPrefixOf below.toList

/-- The map as an object from path to the name of the category. -/
def toJson (types : TypeMap) : Json :=
  .obj (Entries.mapValues (fun category => .str category.name) types.paths)

end TypeMap

end SchemaQuery
