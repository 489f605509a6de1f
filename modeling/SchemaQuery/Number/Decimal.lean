import SchemaQuery.Number.Basic
import SchemaQuery.Number.Shortest
import SchemaQuery.Text.Natural

/-!
# Reading numbers

The number grammar of JSON, and the double of a decimal. The digits of a decimal are kept as long as
they fit an unsigned 64-bit word; the kept digits and the power of ten are each rounded to a double
before the one is multiplied or divided by the other. With at most fifteen digits and a small power
the result is the nearest double.
-/

namespace SchemaQuery.Number

/-! ## The double of a decimal -/

/-- The number that the digits extend `significand` to while it fits 64 bits, and the digits left
over. -/
def takeDigits (significand : Nat) : List Char → Nat × List Char
  | [] => (significand, [])
  | c :: cs =>
    let next := significand * 10 + (c.toNat - '0'.toNat)
    if next < Text.wordLimit then takeDigits next cs else (significand, c :: cs)

/-- The position of `significand * 10 ^ exponent`; none if it is past the largest double. Powers
below `10 ^ (-308)` are divided out in steps. -/
def scale (significand : Nat) (exponent : Int) : Option Nat :=
  let value := Binary64.ofNat significand
  let power (n : Nat) : Nat := Binary64.ofNat (Nat.pow 10 n)
  if significand = 0 then some 0
  else if 308 < exponent then none
  else if 0 ≤ exponent then
    let product := Binary64.mul value (power exponent.toNat)
    if product < Binary64.overflow then some product else none
  else
    let down := (-exponent).toNat
    if down ≤ 308 then some (Binary64.div value (power down))
    else if down ≤ 616 then
      some (Binary64.div (Binary64.div value (power 308)) (power (down - 308)))
    else some 0

/-- The position of the decimal with these digits before and after the point. -/
def decimal (whole fraction : List Char) (exponent : Int) : Option Nat :=
  let (kept, shifted) := takeDigits 0 whole
  let (significand, dropped) := takeDigits kept fraction
  scale significand (exponent + shifted.length - (fraction.length - dropped.length : Nat))

/-! ## The grammar -/

/-- The digits at the start of a text, at least one, and the rest. -/
def digits? (cs : List Char) : Option (List Char × List Char) :=
  match cs.takeWhile Char.isDigit with
  | [] => none
  | digits => some (digits, cs.dropWhile Char.isDigit)

/-- The digits before the point: a single zero, or digits that start with none. -/
def whole? (cs : List Char) : Option (List Char × List Char) :=
  match digits? cs with
  | some (digits, rest) => if digits.head? = some '0' ∧ digits ≠ ['0'] then none
    else some (digits, rest)
  | none => none

/-- The digits after the point, if there is a point. -/
def fraction? (cs : List Char) : Option (List Char × List Char) :=
  match cs with
  | '.' :: rest => digits? rest
  | _ => some ([], cs)

/-- The exponent, if the text ends in one. -/
def exponent? (cs : List Char) : Option (Option Int) :=
  let signed (negative : Bool) (rest : List Char) : Option (Option Int) :=
    match digits? rest with
    | some (digits, []) =>
      let n : Int := Text.digitsValue digits
      some (some (if negative then -n else n))
    | _ => none
  match cs with
  | [] => some none
  | e :: rest =>
    if e = 'e' ∨ e = 'E' then
      match rest with
      | '+' :: rest => signed false rest
      | '-' :: rest => signed true rest
      | rest => signed false rest
    else none

/-- The double with a sign and these parts. -/
def realOfParts (negative : Bool) (whole fraction : List Char) (exponent : Int) : Option Number :=
  (decimal whole fraction exponent).map fun position => .real ⟨negative, position⟩

/-- The number with a sign and these parts. Without point and exponent it is an integer if it lies
between `-2 ^ 63` and `2 ^ 64 - 1` and is not `-0`; otherwise it is a double. -/
def ofParts (negative : Bool) (whole fraction : List Char) : Option Int → Option Number
  | some exponent => realOfParts negative whole fraction exponent
  | none =>
    let n := Text.digitsValue whole
    if fraction ≠ [] then realOfParts negative whole fraction 0
    else if negative then
      if 0 < n ∧ 2 * n ≤ Text.wordLimit then some (.int (-n)) else realOfParts negative whole [] 0
    else if n < Text.wordLimit then some (.int n)
    else realOfParts negative whole [] 0

/-- Reads a number that takes the whole text. -/
def parse (cs : List Char) : Option Number := do
  let (negative, cs) := match cs with
    | '-' :: rest => (true, rest)
    | _ => (false, cs)
  let (whole, cs) ← whole? cs
  let (fraction, cs) ← fraction? cs
  let exponent ← exponent? cs
  ofParts negative whole fraction exponent

/-- The text of a number. -/
def render : Number → String
  | .int n => toString n
  | .real x => x.render

end SchemaQuery.Number
