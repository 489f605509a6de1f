import SchemaQuery.Number.Binary64

/-!
# Shortest decimals

The fewest decimal digits that read back as a given double: of the decimals with that many digits
the nearest to the double is taken, a tie going to the even last digit. The reals that round to a
double are those between the midpoints to its two neighbours, midpoints included when its position
is even.
-/

namespace SchemaQuery.Binary64

/-- The nearest multiple of `10 ^ exponent` among those that read back as the double. -/
def onGrid (position : Nat) (exponent : Int) : Option Nat :=
  let scale := Nat.pow 10 (-exponent).toNat
  let grid := Nat.pow 10 exponent.toNat <<< 1075
  let value := 2 * units position * scale
  let low := (units (position - 1) + units position) * scale
  let high := (units position + units (position + 1)) * scale
  let readsBack (n : Nat) : Bool :=
    if position % 2 = 0 then decide (low ≤ n * grid ∧ n * grid ≤ high)
    else decide (low < n * grid ∧ n * grid < high)
  let below := value / grid
  let rest := value % grid
  let nearer := if 2 * rest < grid ∨ (2 * rest = grid ∧ below % 2 = 0) then below else below + 1
  let farther := if nearer = below then below + 1 else below
  if readsBack nearer then some nearer
  else if readsBack farther then some farther
  else none

/-- The decimal exponent of the first digit of a positive double. -/
def firstExponent (position : Nat) : Int :=
  (Nat.toDigits 10 ((units position * Nat.pow 10 400) >>> 1074)).length - 401

/-- Digits without trailing zeros, at least one of them. -/
def trimZeros (digits : List Char) : List Char :=
  match (digits.reverse.dropWhile (· == '0')).reverse with
  | [] => ['0']
  | trimmed => trimmed

/-- The shortest digits of a positive double and the decimal exponent of the first of them. -/
def shortest (position : Nat) : List Char × Int :=
  let first := firstExponent position
  let found := (List.range 17).findSome? fun (places : Nat) =>
    (onGrid position (first - places)).map fun n => (Nat.toDigits 10 n, first - places)
  match found with
  | some (digits, exponent) => (trimZeros digits, exponent + digits.length - 1)
  | none => (['0'], 0)

/-- The text of a double: positional when the first digit stands for `10 ^ (-5)` to `10 ^ 15`, and
then always with a point, with a signed exponent otherwise. -/
def render (x : Binary64) : String :=
  let sign := if x.negative then "-" else ""
  if x.position = 0 then sign ++ "0.0"
  else
    let (digits, exponent) := shortest x.position
    let count : Int := digits.length
    let body : List Char :=
      if exponent < -5 ∨ 15 < exponent then
        let mantissa := match digits with
          | [] => []
          | [d] => [d]
          | d :: ds => d :: '.' :: ds
        let power := Nat.toDigits 10 exponent.natAbs
        mantissa ++ ['e', if exponent < 0 then '-' else '+'] ++ power
      else if exponent < 0 then
        '0' :: '.' :: List.replicate (-exponent - 1).toNat '0' ++ digits
      else if count ≤ exponent + 1 then
        digits ++ List.replicate (exponent + 1 - count).toNat '0' ++ ['.', '0']
      else
        digits.take (exponent + 1).toNat ++ '.' :: digits.drop (exponent + 1).toNat
    sign ++ String.ofList body

end SchemaQuery.Binary64
