import SchemaQuery.Entries
import SchemaQuery.Number.Basic

/-!
# JSON values

Values whose objects keep their entries in order. Two notions of sameness are kept apart: `=`, which
sees the order of keys, and `Json.equal`, which does not. A value is distinct when no object in it
has a key twice.
-/

namespace SchemaQuery

/-- A JSON value; an object is the list of its entries. -/
inductive Json where
  | null
  | bool (value : Bool)
  | num (value : Number)
  | str (value : String)
  | arr (items : List Json)
  | obj (entries : List (String × Json))
  deriving Inhabited

namespace Json

/-- The object with a single entry. -/
def entry (key : String) (value : Json) : Json := .obj [(key, value)]

/-- The integer as a value. -/
def int (n : Int) : Json := .num (.int n)

/-- The value is `null`. -/
def isNull : Json → Bool
  | .null => true
  | _ => false

/-- The value is an object. -/
def isObject : Json → Bool
  | .obj _ => true
  | _ => false

/-- The value is an array. -/
def isArray : Json → Bool
  | .arr _ => true
  | _ => false

/-- The entries of an object. -/
def entries? : Json → Option (List (String × Json))
  | .obj entries => some entries
  | _ => none

/-- The items of an array. -/
def items? : Json → Option (List Json)
  | .arr items => some items
  | _ => none

/-- The text of a string. -/
def text? : Json → Option String
  | .str s => some s
  | _ => none

/-- The field of an object. -/
def field? (value : Json) (key : String) : Option Json :=
  value.entries?.bind (Entries.get? · key)

/-! ## Equality up to the order of keys -/

mutual

/-- Equality as data: the order of keys does not count, and an integer is never a double. -/
def equal : Json → Json → Bool
  | .null, .null => true
  | .bool a, .bool b => a == b
  | .num a, .num b => a.equal b
  | .str a, .str b => a == b
  | .arr xs, .arr ys => equalItems xs ys
  | .obj es, .obj fs => es.length == fs.length && equalEntries es fs
  | _, _ => false
termination_by structural a => a

/-- Equality of lists of values, place by place. -/
def equalItems : List Json → List Json → Bool
  | [], [] => true
  | x :: xs, y :: ys => equal x y && equalItems xs ys
  | _, _ => false
termination_by structural xs => xs

/-- Each entry has an equal counterpart among the others. -/
def equalEntries : List (String × Json) → List (String × Json) → Bool
  | [], _ => true
  | (key, value) :: rest, others =>
    (match Entries.get? others key with
      | some other => equal value other
      | none => false) && equalEntries rest others
termination_by structural es => es

end

/-! ## Repeated keys -/

mutual

/-- Of a key that an object repeats, the last value counts, at the place of the first. -/
def collapse : Json → Json
  | .arr items => .arr (collapseItems items)
  | .obj entries => .obj (Entries.ofList (collapseEntries entries))
  | value => value

/-- Collapses each item. -/
def collapseItems : List Json → List Json
  | [] => []
  | item :: rest => collapse item :: collapseItems rest

/-- Collapses the value of each entry. -/
def collapseEntries : List (String × Json) → List (String × Json)
  | [] => []
  | (key, value) :: rest => (key, collapse value) :: collapseEntries rest

end

mutual

/-- No object in the value has a key twice. -/
def Distinct : Json → Prop
  | .arr items => DistinctItems items
  | .obj entries => (Entries.keys entries).Nodup ∧ DistinctEntries entries
  | _ => True

/-- All items are distinct. -/
def DistinctItems : List Json → Prop
  | [] => True
  | item :: rest => Distinct item ∧ DistinctItems rest

/-- The values of all entries are distinct. -/
def DistinctEntries : List (String × Json) → Prop
  | [] => True
  | (_, value) :: rest => Distinct value ∧ DistinctEntries rest

end

end Json

end SchemaQuery
