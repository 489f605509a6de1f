import SchemaQuery.Proofs.Doubles

/-!
# Integers as doubles

The values of doubles are in the order of their places (`Binary64.value_lt_iff`). What it is to be
nearest to an integer is said without the way to find such a double (`Binary64.IsNearest`): there is
one (`Binary64.isNearest_ofInt`), its value is determined (`Binary64.IsNearest.value_eq`), and
greater integers never have smaller nearest doubles (`Binary64.IsNearest.value_le`). Two integers
share a nearest double only if both are long (`Binary64.IsNearest.eq_or_long`).
-/

namespace SchemaQuery.Binary64

/-! ## Values in order -/

theorem units_of_lt {position : Nat} (h : position < 2 ^ 52) : units position = position := by
  rw [units, binade_eq, if_pos h]

/-- The value at a position, where the significand may also be that of the next power of two. -/
theorem units_significand {exponent significand : Nat} (hlow : 2 ^ 52 ≤ significand)
    (hhigh : significand ≤ 2 ^ 53) :
    units (exponent * 2 ^ 52 + significand) = significand * 2 ^ exponent := by
  rcases hhigh.lt_or_eq with hlt | rfl
  · exact units_normal hlow hlt
  · have hnext : exponent * 2 ^ 52 + 2 ^ 53 = (exponent + 1) * 2 ^ 52 + 2 ^ 52 := by ring
    rw [hnext, units_normal le_rfl (by decide), pow_succ]
    ring

theorem units_lt_succ (position : Nat) : units position < units (position + 1) := by
  by_cases h : position < 2 ^ 52
  · have hsucc : units (position + 1) = position + 1 := by
      rcases Nat.lt_or_eq_of_le (show position + 1 ≤ 2 ^ 52 from h) with hlt | heq
      · exact units_of_lt hlt
      · have hbinade := @units_significand 0 (2 ^ 52) le_rfl (by decide)
        rw [Nat.zero_mul, Nat.zero_add, pow_zero, Nat.mul_one] at hbinade
        rw [heq, hbinade]
    rw [units_of_lt h, hsucc]
    exact Nat.lt_succ_self position
  · have hlow : 2 ^ 52 ≤ 2 ^ 52 + position % 2 ^ 52 := Nat.le_add_right _ _
    have hhigh : 2 ^ 52 + position % 2 ^ 52 < 2 ^ 53 := by omega
    have hposition :
        position = (position / 2 ^ 52 - 1) * 2 ^ 52 + (2 ^ 52 + position % 2 ^ 52) := by omega
    rw [hposition, Nat.add_assoc, units_significand hlow hhigh.le,
      units_significand (Nat.le_succ_of_le hlow) hhigh]
    exact Nat.mul_lt_mul_of_pos_right (Nat.lt_succ_self _) (Nat.two_pow_pos _)

theorem units_strictMono : StrictMono units := strictMono_nat_of_lt_succ units_lt_succ

/-- The values of doubles are in the order of their places. -/
theorem value_lt_iff {x y : Binary64} : x.value < y.value ↔ x.key < y.key := by
  obtain ⟨_ | _, p⟩ := x <;> obtain ⟨_ | _, q⟩ := y
  all_goals
    have hlt : units p < units q ↔ p < q := units_strictMono.lt_iff_lt
    have hgt : units q < units p ↔ q < p := units_strictMono.lt_iff_lt
    have hp : units 0 < units p ↔ 0 < p := units_strictMono.lt_iff_lt
    have hq : units 0 < units q ↔ 0 < q := units_strictMono.lt_iff_lt
    have hzero : units 0 = 0 := rfl
    simp only [value, key, if_true, Bool.false_eq_true, if_false]
    omega

theorem compare_value (x y : Binary64) : compare x.value y.value = compare x.key y.key := by
  rcases lt_trichotomy x.key y.key with h | h | h
  · rw [compare_lt_iff_lt.2 h, compare_lt_iff_lt.2 (value_lt_iff.2 h)]
  · rw [compare_eq_iff_eq.2 h, compare_eq_iff_eq.2 (value_eq_of_key_eq h)]
  · rw [compare_gt_iff_gt.2 h, compare_gt_iff_gt.2 (value_lt_iff.2 h)]

/-! ## The nearest double -/

/-- How far a double is from an integer, in units of `2 ^ (-1074)`. -/
def distance (n : Int) (x : Binary64) : Nat := (n * 2 ^ 1074 - x.value).natAbs

/-- No double is nearer to the integer, and of two that are equally near it is the even one. -/
structure IsNearest (n : Int) (x : Binary64) : Prop where
  least : ∀ y, distance n x ≤ distance n y
  even : ∀ y, distance n x = distance n y → x.position % 2 ≤ y.position % 2

/-- The double with the other sign. -/
def neg (x : Binary64) : Binary64 := ⟨!x.negative, x.position⟩

theorem neg_neg (x : Binary64) : x.neg.neg = x := by
  rw [neg, neg, Bool.not_not]

theorem value_neg (x : Binary64) : x.neg.value = -x.value := by
  obtain ⟨_ | _, p⟩ := x
  · rfl
  · exact (Int.neg_neg _).symm

theorem distance_neg (n : Int) (x : Binary64) : distance (-n) x.neg = distance n x := by
  rw [distance, distance, value_neg]
  omega

/-- Every place is that of some double. -/
theorem exists_key (k : Int) : ∃ x : Binary64, x.key = k ∧ x.position = k.natAbs := by
  refine ⟨⟨decide (k < 0), k.natAbs⟩, ?_, rfl⟩
  by_cases h : k < 0
  · simp only [key, h, decide_true, if_true]
    omega
  · simp only [key, h, decide_false, Bool.false_eq_true, if_false]
    omega

namespace IsNearest

variable {m n : Int} {x y : Binary64}

theorem neg (h : IsNearest n x) : IsNearest (-n) x.neg where
  least y := by
    have hle := h.least y.neg
    rwa [← distance_neg, ← distance_neg n y.neg, neg_neg] at hle
  even y heq := by
    rw [← neg_neg y, distance_neg, distance_neg] at heq
    exact h.even y.neg heq

/-- Rounding keeps the order. -/
theorem value_le (hx : IsNearest m x) (hy : IsNearest n y) (h : m < n) : x.value ≤ y.value := by
  have hxy := hx.least y
  have hyx := hy.least x
  rw [distance, distance] at hxy hyx
  omega

/-- Two doubles nearest to the same integer have the same value: if they were on different sides of
it, both would be even, and an odd one between them would be nearer. -/
theorem value_le_of_isNearest (hx : IsNearest n x) (hy : IsNearest n y) : x.value ≤ y.value := by
  by_contra hlt
  have hdistance := Nat.le_antisymm (hx.least y) (hy.least x)
  have hparity := Nat.le_antisymm (hx.even y hdistance) (hy.even x hdistance.symm)
  have hkey : y.key < x.key := value_lt_iff.1 (Int.not_le.1 hlt)
  -- the places have the same parity, so that there is one between them
  obtain ⟨z, hz, -⟩ := exists_key (y.key + 1)
  have hyz : y.value < z.value := value_lt_iff.2 (by omega)
  have hzx : z.value < x.value := by
    refine value_lt_iff.2 ?_
    have hyparity : y.key % 2 = y.position % 2 := by rw [key]; split <;> omega
    have hxparity : x.key % 2 = x.position % 2 := by rw [key]; split <;> omega
    omega
  have hxz := hx.least z
  rw [distance, distance] at hdistance hxz
  omega

theorem value_eq (hx : IsNearest n x) (hy : IsNearest n y) : x.value = y.value :=
  Int.le_antisymm (hx.value_le_of_isNearest hy) (hy.value_le_of_isNearest hx)

theorem lt_of_value_lt (hx : IsNearest m x) (hy : IsNearest n y) (h : x.value < y.value) :
    m < n := by
  by_contra hle
  rcases Int.lt_or_eq_of_le (Int.not_lt.1 hle) with hlt | rfl
  · exact Int.not_le.2 h (hy.value_le hx hlt)
  · exact Int.ne_of_lt h (hx.value_eq hy)

end IsNearest

/-! ## Rounding an integer -/

/-- A position is nearest to a natural number that lies between the midpoints to its neighbours; on
a midpoint it has to be even. -/
theorem isNearest_of_midpoints {n position : Nat}
    (hlow : ∀ previous, previous + 1 = position →
      units previous + units position < 2 * (n * 2 ^ 1074) ∨
        units previous + units position = 2 * (n * 2 ^ 1074) ∧ position % 2 = 0)
    (hhigh : 2 * (n * 2 ^ 1074) < units position + units (position + 1) ∨
      2 * (n * 2 ^ 1074) = units position + units (position + 1) ∧ position % 2 = 0) :
    IsNearest n ⟨false, position⟩ := by
  have hposition (q : Nat) : distance n ⟨false, position⟩ ≤ distance n ⟨false, q⟩ ∧
      (distance n ⟨false, position⟩ = distance n ⟨false, q⟩ → position % 2 ≤ q % 2) := by
    simp only [distance, value, Bool.false_eq_true, if_false]
    -- on either side, the neighbour is the nearest of the others
    rcases Nat.lt_trichotomy q position with hlt | rfl | hgt
    · obtain ⟨previous, rfl⟩ := Nat.exists_eq_add_of_lt hlt
      have hq : units q ≤ units (q + previous) := units_strictMono.monotone (by omega)
      have hprevious := units_lt_succ (q + previous)
      have hmidpoint := hlow (q + previous) rfl
      omega
    · omega
    · have hq : units (position + 1) ≤ units q := units_strictMono.monotone hgt
      have hnext := units_lt_succ position
      omega
  -- a negative double is no nearer than zero
  have hnegative (q : Nat) : distance n ⟨false, 0⟩ ≤ distance n ⟨true, q⟩ := by
    have hzero : units 0 = 0 := rfl
    simp only [distance, value, hzero, if_true, Bool.false_eq_true, if_false]
    omega
  constructor
  · rintro ⟨_ | _, q⟩
    · exact (hposition q).1
    · exact (hposition 0).1.trans (hnegative q)
  · rintro ⟨_ | _, q⟩ heq
    · exact (hposition q).2 heq
    · have hle : distance n ⟨false, 0⟩ ≤ distance n ⟨false, position⟩ :=
        (hnegative q).trans heq.ge
      exact ((hposition 0).2 (Nat.le_antisymm (hposition 0).1 hle)).trans (Nat.zero_le _)

/-- The position of an integer of more than 53 bits: the bits that do not fit are rounded off. -/
theorem ofNat_of_ge {n : Nat} (h : 2 ^ 53 ≤ n) :
    ∃ shift, 2 ^ 52 * 2 ^ shift ≤ n ∧ n < 2 ^ 53 * 2 ^ shift ∧
      ofNat n = (shift + 1074) * 2 ^ 52 + roundDiv n (2 ^ shift) := by
  have hpos : n ≠ 0 := by omega
  have hlog : 53 ≤ n.log2 := (Nat.le_log2 hpos).2 h
  refine ⟨n.log2 - 52, ?_, ?_, ?_⟩
  · calc 2 ^ 52 * 2 ^ (n.log2 - 52) = 2 ^ n.log2 := by rw [← Nat.pow_add]; congr 1; omega
      _ ≤ n := Nat.log2_self_le hpos
  · calc n < 2 ^ (n.log2 + 1) := Nat.lt_log2_self
      _ = 2 ^ 53 * 2 ^ (n.log2 - 52) := by rw [← Nat.pow_add]; congr 1; omega
  · have hexponent : n.log2 + 1022 = n.log2 - 52 + 1074 := by omega
    rw [ofNat, if_neg hpos, if_neg (by omega), binade_eq, Nat.one_shiftLeft, hexponent]

/-- The quotient is rounded down or up, to the side of the remainder. -/
theorem roundDiv_cases (num den : Nat) :
    roundDiv num den = num / den ∧
        (2 * (num % den) < den ∨ 2 * (num % den) = den ∧ num / den % 2 = 0) ∨
      roundDiv num den = num / den + 1 ∧
        (den < 2 * (num % den) ∨ den = 2 * (num % den) ∧ num / den % 2 = 1) := by
  simp only [roundDiv]
  split <;> omega

/-- Of two neighbours the one on the side of the remainder is nearest. -/
theorem isNearest_of_remainder {n position rest gap : Nat} (hrest : rest < gap)
    (hlow : n * 2 ^ 1074 = units position + rest * 2 ^ 1074)
    (hhigh : units (position + 1) = units position + gap * 2 ^ 1074) :
    (2 * rest < gap ∨ 2 * rest = gap ∧ position % 2 = 0 → IsNearest n ⟨false, position⟩) ∧
      (gap < 2 * rest ∨ gap = 2 * rest ∧ position % 2 = 1 →
        IsNearest n ⟨false, position + 1⟩) := by
  have hprevious := units_lt_succ position
  have hnext := units_lt_succ (position + 1)
  constructor
  · intro hside
    refine isNearest_of_midpoints (fun previous heq => .inl ?_) ?_
    · have hlt := units_lt_succ previous
      rw [heq] at hlt
      omega
    · omega
  · intro hside
    refine isNearest_of_midpoints (fun previous heq => ?_) (.inl ?_)
    · obtain rfl : previous = position := Nat.succ_injective heq
      omega
    · omega

/-- The bits of a number that fit into a significand are a position, and the others tell how far
the number is above it. -/
theorem units_div {n shift : Nat} (hlow : 2 ^ 52 * 2 ^ shift ≤ n) (hhigh : n < 2 ^ 53 * 2 ^ shift)
    (exponent : Nat) :
    n * 2 ^ exponent = units ((shift + exponent) * 2 ^ 52 + n / 2 ^ shift) +
        n % 2 ^ shift * 2 ^ exponent ∧
      units ((shift + exponent) * 2 ^ 52 + n / 2 ^ shift + 1) =
        units ((shift + exponent) * 2 ^ 52 + n / 2 ^ shift) + 2 ^ shift * 2 ^ exponent := by
  have hden : 0 < 2 ^ shift := Nat.two_pow_pos shift
  have hmin : 2 ^ 52 ≤ n / 2 ^ shift := (Nat.le_div_iff_mul_le hden).2 hlow
  have hmax : n / 2 ^ shift < 2 ^ 53 := (Nat.div_lt_iff_lt_mul hden).2 hhigh
  rw [Nat.add_assoc _ _ 1, units_significand hmin hmax.le,
    units_significand (Nat.le_succ_of_le hmin) hmax, Nat.pow_add]
  constructor
  · rw [← Nat.mul_assoc, ← Nat.add_mul, Nat.div_add_mod']
  · exact Nat.succ_mul _ _

/-- Rounding a natural number finds its nearest double. -/
theorem isNearest_ofNat (n : Nat) : IsNearest n ⟨false, ofNat n⟩ := by
  rcases Nat.lt_or_ge n (2 ^ 53) with hshort | hlong
  · have hunits := units_ofNat hshort
    have hnext := units_lt_succ (ofNat n)
    refine isNearest_of_midpoints (fun previous heq => .inl ?_) (.inl ?_)
    · have hlt := units_lt_succ previous
      rw [heq] at hlt
      omega
    · omega
  · obtain ⟨shift, hlow, hhigh, hposition⟩ := ofNat_of_ge hlong
    obtain ⟨hbelow, habove⟩ := units_div hlow hhigh 1074
    obtain ⟨hdown, hup⟩ :=
      isNearest_of_remainder (Nat.mod_lt n (Nat.two_pow_pos shift)) hbelow habove
    have hparity : ((shift + 1074) * 2 ^ 52 + n / 2 ^ shift) % 2 = n / 2 ^ shift % 2 := by omega
    rw [hparity] at hdown hup
    rw [hposition]
    rcases roundDiv_cases n (2 ^ shift) with ⟨hdiv, hside⟩ | ⟨hdiv, hside⟩
    · rw [hdiv]
      exact hdown hside
    · rw [hdiv, ← Nat.add_assoc]
      exact hup hside

theorem isNearest_ofInt (n : Int) : IsNearest n (ofInt n) := by
  have hnatural := isNearest_ofNat n.natAbs
  by_cases h : n < 0
  · rw [Int.ofNat_natAbs_of_nonpos h.le] at hnatural
    have hneg := hnatural.neg
    rw [Int.neg_neg] at hneg
    rw [ofInt, decide_eq_true h]
    exact hneg
  · rw [Int.natAbs_of_nonneg (Int.not_lt.1 h)] at hnatural
    rw [ofInt, decide_eq_false h]
    exact hnatural

/-! ## Integers that are doubles -/

/-- The value of the nearest double is the integer itself up to `2 ^ 53`. -/
theorem value_ofInt_of_le {n : Int} (h : n.natAbs ≤ 2 ^ 53) :
    (ofInt n).value = n * 2 ^ 1074 := by
  rcases h.lt_or_eq with hlt | heq
  · exact value_ofInt hlt
  · rcases Int.natAbs_eq n with hn | hn
    · rw [hn, heq]
      decide +kernel
    · rw [hn, heq]
      decide +kernel

/-- A nearest double of an integer of up to 53 bits is that of no other integer. -/
theorem IsNearest.eq_of_short {m n : Int} {x y : Binary64} (hx : IsNearest m x)
    (hy : IsNearest n y) (h : x.value = y.value) (hm : m.natAbs < 2 ^ 53) : m = n := by
  have hxm : x.value = m * 2 ^ 1074 := by
    rw [hx.value_eq (isNearest_ofInt m), value_ofInt hm]
  have hlow : n < -2 ^ 53 → y.value ≤ -2 ^ 53 * 2 ^ 1074 := fun hlt => by
    rw [← value_ofInt_of_le (by decide)]
    exact hy.value_le (isNearest_ofInt _) hlt
  have hhigh : 2 ^ 53 < n → 2 ^ 53 * 2 ^ 1074 ≤ y.value := fun hlt => by
    rw [← value_ofInt_of_le (by decide)]
    exact (isNearest_ofInt _).value_le hy hlt
  -- beyond `2 ^ 53`, the nearest doubles are at least as far from zero
  by_cases hn : n.natAbs ≤ 2 ^ 53
  · have hyn : y.value = n * 2 ^ 1074 := by
      rw [hy.value_eq (isNearest_ofInt n), value_ofInt_of_le hn]
    omega
  · omega

/-- Different integers with the same nearest double are both long. -/
theorem IsNearest.eq_or_long {m n : Int} {x y : Binary64} (hx : IsNearest m x)
    (hy : IsNearest n y) (h : x.value = y.value) :
    m = n ∨ 2 ^ 53 ≤ m.natAbs ∧ 2 ^ 53 ≤ n.natAbs := by
  rcases Nat.lt_or_ge m.natAbs (2 ^ 53) with hm | hm
  · exact .inl (hx.eq_of_short hy h hm)
  rcases Nat.lt_or_ge n.natAbs (2 ^ 53) with hn | hn
  · exact .inl (hy.eq_of_short hx h.symm hn).symm
  · exact .inr ⟨hm, hn⟩

end SchemaQuery.Binary64
