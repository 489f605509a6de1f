import SchemaQuery.Json.Basic
import SchemaQuery.Number.Decimal
import SchemaQuery.Text.Hex

/-!
# Tokens of JSON text

A text is cut into punctuation and scalars by a machine that reads one character at a time. A word
is a longest run of characters that are neither blanks nor punctuation nor quotes; it has to be a
number or one of the three names.
-/

namespace SchemaQuery.Json

/-- A punctuation mark or a scalar value. -/
inductive Token where
  | openObject
  | closeObject
  | openArray
  | closeArray
  | colon
  | comma
  | scalar (value : Json)

namespace Token

/-- What the machine is reading; collected characters stand in reverse. -/
inductive Partial where
  | between
  | word (done : List Char)
  | text (done : List Char)
  | escape (done : List Char)
  /-- The hexadecimal digits of a code unit, perhaps after a high surrogate. -/
  | unit (done : List Char) (high : Option Nat) (digits : List Char)
  /-- A high surrogate whose other half has to follow. -/
  | high (done : List Char) (unit : Nat)
  | highEscape (done : List Char) (unit : Nat)

/-- The blanks of JSON: space, tab, line feed and carriage return. -/
def isBlank (c : Char) : Bool := c == ' ' || c == '\t' || c == '\n' || c == '\r'

/-- The token that a single character is. -/
def punctuation? (c : Char) : Option Token :=
  if c = '\x7b' then some .openObject
  else if c = '\x7d' then some .closeObject
  else if c = '[' then some .openArray
  else if c = ']' then some .closeArray
  else if c = ':' then some .colon
  else if c = ',' then some .comma
  else none

/-- The scalar that a word is. -/
def ofWord? (word : List Char) : Option Token :=
  if word = ['n', 'u', 'l', 'l'] then some (.scalar .null)
  else if word = ['t', 'r', 'u', 'e'] then some (.scalar (.bool true))
  else if word = ['f', 'a', 'l', 's', 'e'] then some (.scalar (.bool false))
  else (Number.parse word).map fun n => .scalar (.num n)

/-- The character that a one-letter escape stands for. -/
def unescape? (c : Char) : Option Char :=
  if c = '"' ∨ c = '\\' ∨ c = '/' then some c
  else if c = 'b' then some '\x08'
  else if c = 'f' then some '\x0c'
  else if c = 'n' then some '\n'
  else if c = 'r' then some '\r'
  else if c = 't' then some '\t'
  else none

/-- The number that hexadecimal digits write. -/
def ofHex? (digits : List Char) : Option Nat :=
  digits.foldlM (fun n c => (Text.hexDigit? c).map (16 * n + ·)) 0

/-- The state after a whole code unit. A low surrogate completes a high one and stands nowhere
else. -/
def afterUnit (done : List Char) (high : Option Nat) (unit : Nat) : Option Partial :=
  let isHigh := 0xD800 ≤ unit ∧ unit < 0xDC00
  let isLow := 0xDC00 ≤ unit ∧ unit < 0xE000
  match high with
  | none =>
    if isHigh then some (.high done unit)
    else if isLow then none
    else some (.text (Char.ofNat unit :: done))
  | some first =>
    if isLow then
      some (.text (Char.ofNat (0x10000 + (first - 0xD800) * 0x400 + (unit - 0xDC00)) :: done))
    else none

/-- The tokens that a character completes between words and strings, and the state after it. -/
def start (c : Char) : List Token × Partial :=
  if isBlank c then ([], .between)
  else if c = '"' then ([], .text [])
  else match punctuation? c with
    | some token => ([token], .between)
    | none => ([], .word [c])

/-- The tokens that a character completes, and the state after it. -/
def step : Partial → Char → Option (List Token × Partial)
  | .between, c => some (start c)
  | .word done, c =>
    if isBlank c ∨ c = '"' ∨ (punctuation? c).isSome then
      let (tokens, state) := start c
      (ofWord? done.reverse).map fun token => (token :: tokens, state)
    else some ([], .word (c :: done))
  | .text done, c =>
    if c = '"' then some ([.scalar (.str (String.ofList done.reverse))], .between)
    else if c = '\\' then some ([], .escape done)
    else if c.toNat < 0x20 then none
    else some ([], .text (c :: done))
  | .escape done, c =>
    if c = 'u' then some ([], .unit done none [])
    else (unescape? c).map fun c => ([], .text (c :: done))
  | .unit done high digits, c =>
    let digits := digits ++ [c]
    if digits.length < 4 then some ([], .unit done high digits)
    else do
      let unit ← ofHex? digits
      let state ← afterUnit done high unit
      some ([], state)
  | .high done unit, c => if c = '\\' then some ([], .highEscape done unit) else none
  | .highEscape done unit, c => if c = 'u' then some ([], .unit done (some unit) []) else none

/-- The tokens of a text from a state on. -/
def scanFrom : Partial → List Char → Option (List Token)
  | .between, [] => some []
  | .word done, [] => (ofWord? done.reverse).map ([·])
  | _, [] => none
  | state, c :: cs => do
    let (tokens, state) ← step state c
    let rest ← scanFrom state cs
    some (tokens ++ rest)

/-- The tokens of a text. -/
def scan (text : String) : Option (List Token) := scanFrom .between text.toList

end Token

end SchemaQuery.Json
