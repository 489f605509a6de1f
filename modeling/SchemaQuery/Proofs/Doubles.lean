import Mathlib
import SchemaQuery.Number.Basic

/-!
# The values of numbers

The value of a number is counted in units of `2 ^ (-1074)`, as that of a double (`Number.value`).
Integers of up to 53 bits keep their value as doubles (`Binary64.units_ofNat`). Hence numbers that
are compared as the same double have the same value, unless one of them is a longer integer
(`Number.alike_of_key_eq`).
-/

namespace SchemaQuery

namespace Binary64

theorem binade_eq : binade = 2 ^ 52 := rfl

/-- The position of an integer of up to 53 bits: as many powers of two as fit below it, and its
bits moved up to the place of the leading one. -/
theorem ofNat_of_lt {n : Nat} (hpos : n ≠ 0) (h : n < 2 ^ 53) :
    ofNat n = (n.log2 + 1022) * 2 ^ 52 + n * 2 ^ (52 - n.log2) := by
  have hlog : n.log2 < 53 := (Nat.log2_lt hpos).2 h
  have hle : n.log2 ≤ 52 := by omega
  simp only [ofNat, if_neg hpos, if_pos hle, binade_eq, Nat.shiftLeft_eq]

/-- The value at a position that is given by its power of two and its significand. -/
theorem units_normal {exponent significand : Nat} (hlow : 2 ^ 52 ≤ significand)
    (hhigh : significand < 2 ^ 53) :
    units (exponent * 2 ^ 52 + significand) = significand * 2 ^ exponent := by
  obtain ⟨rest, rfl⟩ := Nat.exists_eq_add_of_le hlow
  have hrest : rest < 2 ^ 52 := by omega
  have hposition : exponent * 2 ^ 52 + (2 ^ 52 + rest) = rest + 2 ^ 52 * (exponent + 1) := by ring
  have hmod : (rest + 2 ^ 52 * (exponent + 1)) % 2 ^ 52 = rest := by
    rw [Nat.add_mul_mod_self_left, Nat.mod_eq_of_lt hrest]
  have hdiv : (rest + 2 ^ 52 * (exponent + 1)) / 2 ^ 52 = exponent + 1 := by
    rw [Nat.add_mul_div_left _ _ (by decide), Nat.div_eq_of_lt hrest, Nat.zero_add]
  have hge : ¬ rest + 2 ^ 52 * (exponent + 1) < 2 ^ 52 := by
    have : 2 ^ 52 * 1 ≤ 2 ^ 52 * (exponent + 1) := Nat.mul_le_mul_left _ (by omega)
    omega
  rw [hposition, units, binade_eq, if_neg hge, hmod, hdiv, Nat.shiftLeft_eq, Nat.add_sub_cancel]

/-- Integers of up to 53 bits are doubles. -/
theorem units_ofNat {n : Nat} (h : n < 2 ^ 53) : units (ofNat n) = n * 2 ^ 1074 := by
  by_cases hpos : n = 0
  · subst hpos
    rw [Nat.zero_mul]
    rfl
  · have hlog : n.log2 < 53 := (Nat.log2_lt hpos).2 h
    have hsum : n.log2 + (52 - n.log2) = 52 := by omega
    have hsplit : 2 ^ n.log2 * 2 ^ (52 - n.log2) = 2 ^ 52 := by rw [← Nat.pow_add, hsum]
    have hlow : 2 ^ 52 ≤ n * 2 ^ (52 - n.log2) := by
      rw [← hsplit]
      exact Nat.mul_le_mul_right _ (Nat.log2_self_le hpos)
    have hhigh : n * 2 ^ (52 - n.log2) < 2 ^ 53 := by
      calc n * 2 ^ (52 - n.log2) < 2 ^ (n.log2 + 1) * 2 ^ (52 - n.log2) :=
            Nat.mul_lt_mul_of_pos_right Nat.lt_log2_self (Nat.two_pow_pos _)
        _ = 2 ^ 53 := by rw [Nat.pow_succ, Nat.mul_right_comm, hsplit, ← Nat.pow_succ]
    have hexponent : 52 - n.log2 + (n.log2 + 1022) = 1074 := by omega
    calc units (ofNat n) = n * 2 ^ (52 - n.log2) * 2 ^ (n.log2 + 1022) := by
          rw [ofNat_of_lt hpos h, units_normal hlow hhigh]
      _ = n * 2 ^ (52 - n.log2 + (n.log2 + 1022)) := by rw [Nat.mul_assoc, ← Nat.pow_add]
      _ = n * 2 ^ 1074 := congrArg (n * 2 ^ ·) hexponent

/-- The value of a double, in units of `2 ^ (-1074)`. -/
def value (x : Binary64) : Int := if x.negative then -(units x.position : Int) else units x.position

/-- Doubles at the same place have the same value; this includes the two zeros. -/
theorem value_eq_of_key_eq {x y : Binary64} (h : x.key = y.key) : x.value = y.value := by
  have hzero : units 0 = 0 := rfl
  obtain ⟨_ | _, p⟩ := x <;> obtain ⟨_ | _, q⟩ := y
  · obtain rfl : p = q := by simpa [key] using h
    rfl
  · obtain ⟨rfl, rfl⟩ : p = 0 ∧ q = 0 := by
      simp [key] at h
      omega
    simp [value, hzero]
  · obtain ⟨rfl, rfl⟩ : p = 0 ∧ q = 0 := by
      simp [key] at h
      omega
    simp [value, hzero]
  · obtain rfl : p = q := by simpa [key] using h
    rfl

theorem value_ofInt {n : Int} (h : n.natAbs < 2 ^ 53) : (ofInt n).value = n * 2 ^ 1074 := by
  have hunits : (units (ofNat n.natAbs) : Int) = n.natAbs * 2 ^ 1074 := by
    rw [units_ofNat h, Int.natCast_mul, Int.natCast_pow]
    rfl
  by_cases hn : n < 0
  · have habs : (n.natAbs : Int) = -n := Int.ofNat_natAbs_of_nonpos hn.le
    simp only [value, ofInt, hn, decide_true, if_true, hunits, habs, Int.neg_mul, Int.neg_neg]
  · have habs : (n.natAbs : Int) = n := Int.natAbs_of_nonneg (Int.not_lt.1 hn)
    simp only [value, ofInt, hn, decide_false, Bool.false_eq_true, if_false, hunits, habs]

end Binary64

namespace Number

/-- The value of a number, in units of `2 ^ (-1074)`. -/
def value : Number → Int
  | .int n => n * 2 ^ 1074
  | .real x => x.value

/-- The number is an integer of more than 53 bits, which may be no double. -/
def IsLong : Number → Prop
  | .int n => 2 ^ 53 ≤ n.natAbs
  | .real _ => False

/-- The numbers have the same value, or they round to the same double and one is a long integer. -/
def Alike (m n : Number) : Prop :=
  m.value = n.value ∨ (m.IsLong ∨ n.IsLong) ∧ m.key = n.key

theorem value_toBinary64 {n : Number} (h : ¬ n.IsLong) : n.toBinary64.value = n.value := by
  cases n with
  | int n => exact Binary64.value_ofInt (Nat.lt_of_not_le h)
  | real x => rfl

/-- Numbers that are compared as the same double are alike. -/
theorem alike_of_key_eq {m n : Number} (h : m.key = n.key) : m.Alike n := by
  by_cases hlong : m.IsLong ∨ n.IsLong
  · exact .inr ⟨hlong, h⟩
  · rw [not_or] at hlong
    left
    rw [← value_toBinary64 hlong.1, ← value_toBinary64 hlong.2]
    exact Binary64.value_eq_of_key_eq h

theorem value_eq_of_equal {m n : Number} (h : m.equal n = true) : m.value = n.value := by
  cases m with
  | int m =>
    cases n with
    | int n => rw [eq_of_beq h]
    | real y => cases h
  | real x =>
    cases n with
    | int n => cases h
    | real y => exact Binary64.value_eq_of_key_eq (eq_of_beq h)

end Number

end SchemaQuery
