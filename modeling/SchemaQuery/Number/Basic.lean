import SchemaQuery.Number.Binary64

/-!
# Numbers of documents

A number is written either as an integer or with a point or an exponent; the two kinds stay apart
as data. Where numbers are compared by value, each counts as the double nearest to it.
-/

namespace SchemaQuery

/-- An integer, or a double for anything written with a point or an exponent. -/
inductive Number where
  | int (value : Int)
  | real (value : Binary64)
  deriving DecidableEq, Repr, Inhabited

namespace Number

/-- The double that stands for the number in comparisons. -/
def toBinary64 : Number → Binary64
  | .int n => .ofInt n
  | .real x => x

/-- The place of the number on the line of doubles. -/
def key (n : Number) : Int := n.toBinary64.key

/-- Equality as data: an integer is no double, and the two zeros are one double. -/
def equal : Number → Number → Bool
  | .int m, .int n => m == n
  | .real x, .real y => x.key == y.key
  | _, _ => false

/-- The natural number, for an integer that is not negative. -/
def toNat? : Number → Option Nat
  | .int (.ofNat n) => some n
  | _ => none

end Number

end SchemaQuery
