/-!
# Double precision numbers

A finite double is a sign and a position: the non-negative doubles are counted upwards from zero,
so comparing two of them is comparing two positions. The value at a position is a natural number of
`2 ^ (-1074)`, the least positive double, and rounding is done on these units in exact arithmetic.
-/

namespace SchemaQuery

/-- A double. Positions from `Binary64.overflow` on are past the largest finite double. -/
structure Binary64 where
  /-- The sign bit, set for `-0.0` too. -/
  negative : Bool
  /-- The position of the absolute value among the non-negative doubles. -/
  position : Nat
  deriving DecidableEq, Repr, Inhabited

namespace Binary64

/-- The quotient rounded to the nearest natural number, a half going to the even neighbour. -/
def roundDiv (num den : Nat) : Nat :=
  let quotient := num / den
  let rest := num % den
  if 2 * rest < den ∨ (2 * rest = den ∧ quotient % 2 = 0) then quotient else quotient + 1

/-- The number of positions between a power of two and the next one: `2 ^ 52`. -/
def binade : Nat := 1 <<< 52

/-- The least position that no finite double has. -/
def overflow : Nat := 2047 * binade

/-- The value at a position, in units of `2 ^ (-1074)`. -/
def units (position : Nat) : Nat :=
  if position < binade then position
  else (binade + position % binade) <<< (position / binade - 1)

/-- The position nearest to the quotient of two numbers of units. -/
def nearest (num den : Nat) : Nat :=
  let shift := Nat.log2 (num / den) - 52
  shift * binade + roundDiv num (den <<< shift)

/-- The position nearest to a natural number: 53 significant bits are kept. -/
def ofNat (n : Nat) : Nat :=
  let exponent := Nat.log2 n
  if n = 0 then 0
  else if exponent ≤ 52 then (exponent + 1022) * binade + n <<< (52 - exponent)
  else (exponent + 1022) * binade + roundDiv n (1 <<< (exponent - 52))

/-- The product of the doubles at two positions, rounded. -/
def mul (a b : Nat) : Nat := nearest (units a * units b) (1 <<< 1074)

/-- The quotient of the doubles at two positions, rounded. -/
def div (a b : Nat) : Nat := nearest (units a <<< 1074) (units b)

/-- The place of a double on the number line; both zeros have place zero. -/
def key (x : Binary64) : Int := if x.negative then -(x.position : Int) else x.position

/-- The double nearest to an integer. -/
def ofInt (n : Int) : Binary64 := ⟨decide (n < 0), ofNat n.natAbs⟩

end Binary64

end SchemaQuery
