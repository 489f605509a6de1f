import SchemaQuery.Json.Basic
import SchemaQuery.Text.Natural

/-!
# Paths into documents

A dotted path reaches any number of values of a document. In an object a segment names a field. In
an array a segment that writes a natural number is an index, and any other segment is looked up in
each element that is an object.
-/

namespace SchemaQuery.Path

/-! ## Segments -/

/-- The parts of a text between dots; there is always at least one. -/
def splitDots : List Char → List (List Char)
  | [] => [[]]
  | c :: cs =>
    if c = '.' then [] :: splitDots cs
    else match splitDots cs with
      | first :: others => (c :: first) :: others
      | [] => [[c]]

/-- The segments of a path. -/
def segments (path : String) : List String := (splitDots path.toList).map String.ofList

theorem splitDots_ne_nil (cs : List Char) : splitDots cs ≠ [] := by
  cases cs with
  | nil => simp [splitDots]
  | cons c cs =>
    unfold splitDots
    split
    · simp
    · split <;> simp

theorem splitDots_append_dot (xs ys : List Char) :
    splitDots (xs ++ '.' :: ys) = splitDots xs ++ splitDots ys := by
  induction xs with
  | nil => simp [splitDots]
  | cons c cs ih =>
    by_cases h : c = '.'
    · simp [splitDots, h, ih]
    · cases hs : splitDots cs with
      | nil => exact absurd hs (splitDots_ne_nil cs)
      | cons first others => simp [splitDots, h, ih, hs]

theorem segments_append_dot (p q : String) :
    segments (p ++ "." ++ q) = segments p ++ segments q := by
  have h : (p ++ "." ++ q).toList = p.toList ++ '.' :: q.toList := by simp
  simp [segments, h, splitDots_append_dot]

/-! ## Descent -/

mutual

/-- The values that segments reach from a value, in order. -/
def descend : Json → List String → List Json
  | value, [] => [value]
  | .obj entries, segment :: rest => descendField entries segment rest
  | .arr items, segment :: rest =>
    match Text.word? segment with
    | some index => descendItem items index rest
    | none => descendObjects items (segment :: rest)
  | _, _ :: _ => []
termination_by structural value => value

/-- The values reached from the field with a name. -/
def descendField : List (String × Json) → String → List String → List Json
  | [], _, _ => []
  | (key, value) :: entries, segment, rest =>
    if key = segment then descend value rest else descendField entries segment rest
termination_by structural entries => entries

/-- The values reached from the item at an index. -/
def descendItem : List Json → Nat → List String → List Json
  | [], _, _ => []
  | item :: _, 0, rest => descend item rest
  | _ :: items, index + 1, rest => descendItem items index rest
termination_by structural items => items

/-- The values reached from the items that are objects. -/
def descendObjects : List Json → List String → List Json
  | [], _ => []
  | item :: items, rest =>
    (if item.isObject then descend item rest else []) ++ descendObjects items rest
termination_by structural items => items

end

/-- The values of a document that a path reaches, in order. -/
def resolve (document : Json) (path : String) : List Json := descend document (segments path)

end SchemaQuery.Path
