import SchemaQuery.Collection.Sort
import SchemaQuery.Filter
import SchemaQuery.Matching.Evaluate

/-!
# Collections

Documents held in memory, and pages of those that match a filter: matching documents are sorted if a
sort is given, the offset is skipped, and the limit cuts off the rest.
-/

namespace SchemaQuery

/-- Documents with the page size for requests that give none. -/
structure Collection where
  documents : List Json
  defaultLimit : Nat

/-- What to return of the matching documents. -/
structure FindOptions where
  sort : Option SortOrder := none
  limit : Option Nat := none
  offset : Nat := 0

/-- A page of matching documents. -/
structure Page where
  documents : List Json
  /-- The number of matching documents on all pages. -/
  total : Nat

/-- The page as an object. -/
def Page.toJson (page : Page) : Json :=
  .obj [("data", .arr page.documents), ("total", .int page.total)]

namespace Collection

/-- The page size when none is configured. -/
def standardLimit : Nat := 100

/-- The documents of a list; each has to be an object. -/
def ofJson (value : Json) : Except MatchError Collection :=
  match value with
  | .arr documents =>
    match documents.findIdx? fun document => !document.isObject with
    | some position => .error (.notDocument position)
    | none => .ok ⟨documents, standardLimit⟩
  | _ => .error .notDocuments

/-- The documents that satisfy a filter document, in order. The first error is the result. -/
def select (filter : Json) : List Json → Except MatchError (List Json)
  | [] => .ok []
  | document :: rest => do
    let holds ← Matching.holds document filter
    let others ← select filter rest
    return if holds then document :: others else others

/-- The documents that match a filter, in the order of the collection. -/
def execute (collection : Collection) (filter : Filter) : Except MatchError (List Json) :=
  select filter.toDocument collection.documents

/-- The number of documents that match a filter. -/
def count (collection : Collection) (filter : Filter) : Except MatchError Nat :=
  List.length <$> collection.execute filter

/-- The page size for a request. -/
def limitOf (collection : Collection) (options : FindOptions) : Nat :=
  options.limit.getD collection.defaultLimit

/-- One page of the documents that match a filter. -/
def find (collection : Collection) (filter : Filter) (options : FindOptions) :
    Except MatchError Page := do
  let matching ← collection.execute filter
  let sorted := match options.sort with
    | some order => order.sort matching
    | none => matching
  return ⟨(sorted.drop options.offset).take (collection.limitOf options), matching.length⟩

end Collection

end SchemaQuery
