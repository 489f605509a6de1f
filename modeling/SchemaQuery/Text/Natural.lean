/-!
# Natural numbers in text

Decimal digits and the number that they write. Indices and counts are at most 64-bit words.
-/

namespace SchemaQuery.Text

/-- The number that decimal digits write. -/
def digitsValue (digits : List Char) : Nat :=
  digits.foldl (fun n c => n * 10 + (c.toNat - '0'.toNat)) 0

/-- The least number that is no 64-bit word: `2 ^ 64`. -/
def wordLimit : Nat := 1 <<< 64

/-- The characters behind a plus sign, if there is one. -/
def withoutPlus : List Char → List Char
  | '+' :: rest => rest
  | cs => cs

/-- The number that a text writes in digits, perhaps after a plus sign, if it is a 64-bit word. -/
def word? (text : String) : Option Nat :=
  let digits := withoutPlus text.toList
  if digits ≠ [] ∧ digits.all Char.isDigit ∧ digitsValue digits < wordLimit then
    some (digitsValue digits)
  else none

theorem lt_of_word? {text : String} {n : Nat} (h : word? text = some n) : n < wordLimit := by
  simp only [word?] at h
  split at h
  · rename_i digits
    simp only [Option.some.injEq] at h
    exact h ▸ digits.2.2
  · simp at h

end SchemaQuery.Text
