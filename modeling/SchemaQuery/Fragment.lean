import SchemaQuery.Template

/-!
# Building filters

Functions that build fragments of filter documents without a schema. A condition on a field binds
its path to a fragment; the logical functions join whole filters.
-/

namespace SchemaQuery.Fragment

/-! ## Conditions on a value -/

def equal (value : Json) : Json := .entry "$eq" value
def notEqual (value : Json) : Json := .entry "$ne" value
def greaterThan (value : Json) : Json := .entry "$gt" value
def greaterOrEqualTo (value : Json) : Json := .entry "$gte" value
def lesserThan (value : Json) : Json := .entry "$lt" value
def lesserOrEqualTo (value : Json) : Json := .entry "$lte" value
def isOneOf (values : List Json) : Json := .entry "$in" (.arr values)
def isNoneOf (values : List Json) : Json := .entry "$nin" (.arr values)
def «exists» (wanted : Bool) : Json := .entry "$exists" (.bool wanted)

/-- How a regular expression is meant. -/
structure RegexOptions where
  caseInsensitive : Bool := false
  multiline : Bool := false
  dotMatchesNewline : Bool := false

/-- The letters of the options that are set. -/
def RegexOptions.letters (options : RegexOptions) : List Char :=
  (if options.caseInsensitive then ['i'] else []) ++
    (if options.multiline then ['m'] else []) ++
    (if options.dotMatchesNewline then ['s'] else [])

/-- Strings with a match of a regular expression. The options are left out when none is set. -/
def matchesRegex (regex : String) (options : RegexOptions) : Json :=
  match options.letters with
  | [] => .entry "$regex" (.str regex)
  | letters => .obj [("$regex", .str regex), ("$options", .str (String.ofList letters))]

/-! ## Conditions on a list -/

/-- Lists with an element that satisfies every rule. The rules are joined in one body, a later rule
replacing an earlier one under the same key; what is no object is no rule. -/
def containsElementThat (rules : List Json) : Json :=
  envelope (.obj (rules.foldl
    (fun body rule => Entries.insertAll body (rule.entries?.getD [])) []))

def allElements (values : List Json) : Json := .entry "$all" (.arr values)
def listSizeIs (size : Nat) : Json := .entry "$size" (.int size)

/-! ## Logic -/

def and (filters : List Json) : Json := .entry "$and" (.arr filters)
def or (filters : List Json) : Json := .entry "$or" (.arr filters)
def nor (filters : List Json) : Json := .entry "$nor" (.arr filters)
def not (condition : Json) : Json := .entry "$not" condition

/-! ## Order -/

/-- The order of results: `1` for ascending, `-1` for descending. -/
def sortResult (descending : Bool) : Json := .entry "sort" (.int (if descending then -1 else 1))

end SchemaQuery.Fragment
