import SchemaQuery.Json.Basic

/-!
# Filter templates

A template is a fragment of a filter with slots where the operand of an operator goes. Slots are
nodes of their own, so that no operand can be taken for one.
-/

namespace SchemaQuery

/-- The kind of operand that a slot is meant for. -/
inductive Slot where
  | string
  | strings
  | number
  | numbers
  | boolean
  | booleans
  | date
  | dates
  | object
  /-- A list of objects, each of which gets an envelope of its own. -/
  | objects
  deriving DecidableEq, Repr, Inhabited

namespace Slot

/-- All slots. -/
def all : List Slot :=
  [.string, .strings, .number, .numbers, .boolean, .booleans, .date, .dates, .object, .objects]

/-- The name of the slot when a template is shown. -/
def name : Slot → String
  | .string => "string"
  | .strings => "string[]"
  | .number => "number"
  | .numbers => "number[]"
  | .boolean => "boolean"
  | .booleans => "boolean[]"
  | .date => "date"
  | .dates => "date[]"
  | .object => "object"
  | .objects => "object[]"

/-- The slot with a name. -/
def ofName? (name : String) : Option Slot := all.find? (·.name = name)

end Slot

/-- The key of the envelope around a condition on one element of a list. -/
def elemMatchKey : String := "$elemMatch"

/-- Wraps a condition on one element of a list. -/
def envelope (condition : Json) : Json := .entry elemMatchKey condition

/-- A fragment of a filter with slots. -/
inductive Template where
  | literal (value : Json)
  | slot (kind : Slot)
  | object (entries : List (String × Template))
  | array (items : List Template)
  deriving Inhabited

namespace Template

/-- The object with a single key. -/
def entry (key : String) (inner : Template) : Template := .object [(key, inner)]

/-- The value of a slot: the operand itself, or each of its elements in an envelope. An operand
that is no list counts as a list of one. -/
def fill : Slot → Json → Json
  | .objects, .arr elements => .arr (elements.map envelope)
  | .objects, operand => .arr [envelope operand]
  | _, operand => operand

mutual

/-- The fragment with the operand in every slot. -/
def substitute (operand : Json) : Template → Json
  | .literal value => value
  | .slot kind => fill kind operand
  | .object entries => .obj (Entries.ofList (substituteEntries operand entries))
  | .array items => .arr (substituteItems operand items)

/-- Substitutes in each entry. -/
def substituteEntries (operand : Json) : List (String × Template) → List (String × Json)
  | [] => []
  | (key, inner) :: rest => (key, substitute operand inner) :: substituteEntries operand rest

/-- Substitutes in each item. -/
def substituteItems (operand : Json) : List Template → List Json
  | [] => []
  | item :: rest => substitute operand item :: substituteItems operand rest

end

mutual

/-- The template as a value, a slot shown by its name between angle brackets. -/
def render : Template → Json
  | .literal value => value
  | .slot kind => .str ("<" ++ kind.name ++ ">")
  | .object entries => .obj (Entries.ofList (renderEntries entries))
  | .array items => .arr (renderItems items)

/-- Renders each entry. -/
def renderEntries : List (String × Template) → List (String × Json)
  | [] => []
  | (key, inner) :: rest => (key, render inner) :: renderEntries rest

/-- Renders each item. -/
def renderItems : List Template → List Json
  | [] => []
  | item :: rest => render item :: renderItems rest

end

end Template

end SchemaQuery
