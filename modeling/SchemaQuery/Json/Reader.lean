import SchemaQuery.Json.Token

/-!
# Reading JSON text

A machine with a stack of open containers reads the tokens one by one. Raw values keep repeated
keys; reading a value lets the last one count. Containers may be nested only so deep.
-/

namespace SchemaQuery.Json

/-- An open container around the value being read; what was read of it stands in reverse. -/
inductive Frame where
  | items (done : List Json)
  | members (done : List (String × Json)) (key : String)

/-- What may come next. -/
inductive Reading where
  | expectValue (stack : List Frame)
  /-- A first item or the end of the array. -/
  | firstItem (stack : List Frame)
  /-- A first key or the end of the object. -/
  | firstKey (stack : List Frame)
  | expectKey (done : List (String × Json)) (stack : List Frame)
  | expectColon (done : List (String × Json)) (key : String) (stack : List Frame)
  /-- A comma or the end of the array. -/
  | inArray (done : List Json) (stack : List Frame)
  /-- A comma or the end of the object. -/
  | inObject (done : List (String × Json)) (stack : List Frame)
  | complete (value : Json)

namespace Reading

/-- The state after a whole value. -/
def finish : List Frame → Json → Reading
  | [], value => .complete value
  | .items done :: stack, value => .inArray (value :: done) stack
  | .members done key :: stack, value => .inObject ((key, value) :: done) stack

/-- The state after the first token of a value. -/
def begin (limit : Nat) (stack : List Frame) : Token → Option Reading
  | .scalar value => some (finish stack value)
  | .openArray => if stack.length < limit then some (.firstItem stack) else none
  | .openObject => if stack.length < limit then some (.firstKey stack) else none
  | _ => none

/-- The state after a token. -/
def step (limit : Nat) : Reading → Token → Option Reading
  | .expectValue stack, token => begin limit stack token
  | .firstItem stack, .closeArray => some (finish stack (.arr []))
  | .firstItem stack, token => begin limit (.items [] :: stack) token
  | .firstKey stack, .closeObject => some (finish stack (.obj []))
  | .firstKey stack, .scalar (.str key) => some (.expectColon [] key stack)
  | .expectKey done stack, .scalar (.str key) => some (.expectColon done key stack)
  | .expectColon done key stack, .colon => some (.expectValue (.members done key :: stack))
  | .inArray done stack, .comma => some (.expectValue (.items done :: stack))
  | .inArray done stack, .closeArray => some (finish stack (.arr done.reverse))
  | .inObject done stack, .comma => some (.expectKey done stack)
  | .inObject done stack, .closeObject => some (finish stack (.obj done.reverse))
  | _, _ => none

end Reading

/-- The value of a text with repeated keys kept, with at most `limit` containers around each
other. -/
def parseRaw (limit : Nat) (text : String) : Option Json := do
  let tokens ← Token.scan text
  match ← tokens.foldlM (Reading.step limit) (.expectValue []) with
  | .complete value => some value
  | _ => none

/-- Containers of a text may stand this deep in each other. -/
def nestingLimit : Nat := 127

/-- The value of a text; of a repeated key the last value counts. -/
def parse (text : String) : Option Json := (parseRaw nestingLimit text).map collapse

end SchemaQuery.Json
