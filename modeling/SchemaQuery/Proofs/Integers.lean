import SchemaQuery.Proofs.Comparisons
import SchemaQuery.Proofs.ElementQueries
import SchemaQuery.Proofs.Expansions
import SchemaQuery.Proofs.Rounding
import SchemaQuery.Proofs.SortKeys

/-!
# Integers in filters and sorts

Integers are compared by the values of their nearest doubles (`Json.compareKeys_int`), in filters
and in sorts alike. So the comparison never contradicts the order of integers, and it is exact
unless both integers are long (`Matching.integers_compare_as_doubles`); different long integers can
count as equal (`Matching.long_integers_count_as_equal`).
-/

namespace SchemaQuery

variable {m n : Int} {x y : Binary64}

/-- The case that two integers are in is that of their nearest doubles. -/
theorem Json.compareKeys_int (hx : x.IsNearest m) (hy : y.IsNearest n) :
    compareKeys (some (.int m)) (some (.int n)) = compare x.value y.value := by
  have horder : some (compare (Number.int m).key (Number.int n).key) =
    some (compareKeys (some (.int m)) (some (.int n))) := order?_of_comparable (.num _ _)
  rw [hx.value_eq (Binary64.isNearest_ofInt m), hy.value_eq (Binary64.isNearest_ofInt n),
    Binary64.compare_value]
  exact (Option.some.inj horder).symm

theorem SortOrder.compare_int {field : String} (hf : '.' ∉ field.toList) (hx : x.IsNearest m)
    (hy : y.IsNearest n) :
    SortOrder.compare ⟨field, .ascending⟩ (.entry field (.int m)) (.entry field (.int n)) =
      Ord.compare x.value y.value := by
  have hkey (k : Int) :
      SortOrder.key? ⟨field, .ascending⟩ (.entry field (.int k)) = some (.int k) := by
    rw [SortOrder.key?, Path.resolve_entry hf]
    rfl
  show Json.compareKeys (SortOrder.key? _ _) (SortOrder.key? _ _) = _
  rw [hkey, hkey]
  exact Json.compareKeys_int hx hy

namespace Matching

/-- Integers are compared as their nearest doubles. On a field that holds one, filters tell the case
that the values of the two doubles are in, and an ascending sort puts the one with the smaller value
first and leaves those with the same value in place. A smaller value only belongs to a smaller
integer, and the same value to the same integer or to two that are both long. -/
theorem integers_compare_as_doubles {field : String} (hp : isOperatorKey field = false)
    (hf : '.' ∉ field.toList) (m n : Int) :
    (∃ x : Binary64, x.IsNearest m) ∧
    (∀ documents : List Json,
      (SortOrder.sort ⟨field, .ascending⟩ documents).Perm documents) ∧
    ∀ x y : Binary64, x.IsNearest m → y.IsNearest n →
      holds (.entry field (.int m)) (.entry field (.entry "$eq" (.int n))) =
        .ok (decide (x.value = y.value)) ∧
      holds (.entry field (.int m)) (.entry field (.entry "$gt" (.int n))) =
        .ok (decide (y.value < x.value)) ∧
      holds (.entry field (.int m)) (.entry field (.entry "$lt" (.int n))) =
        .ok (decide (x.value < y.value)) ∧
      holds (.entry field (.int m)) (.entry field (.entry "$in" (.arr [.int n]))) =
        .ok (decide (x.value = y.value)) ∧
      (x.value < y.value → m < n ∧ ∀ (documents : List Json) (i j : Nat),
        (SortOrder.sort ⟨field, .ascending⟩ documents)[i]? = some (.entry field (.int m)) →
        (SortOrder.sort ⟨field, .ascending⟩ documents)[j]? = some (.entry field (.int n)) →
        i < j) ∧
      (x.value = y.value → (m = n ∨ 2 ^ 53 ≤ m.natAbs ∧ 2 ^ 53 ≤ n.natAbs) ∧
        ∀ documents : List Json,
          [Json.entry field (.int m), .entry field (.int n)].Sublist documents →
          [Json.entry field (.int m), .entry field (.int n)].Sublist
            (SortOrder.sort ⟨field, .ascending⟩ documents)) := by
  refine ⟨⟨_, Binary64.isNearest_ofInt m⟩, SortOrder.perm_sort _, fun x y hx hy => ?_⟩
  have hcase (o : Ordering) : holds (.entry field (.int m))
      (.entry field (.entry (strictKey o) (.int n))) = .ok (compare x.value y.value == o) := by
    have hcomparable : (Json.int m).Comparable (.int n) := .num _ _
    rw [holds_strictKey_singleton hp hcomparable (Path.resolve_entry hf (.int m)),
      Json.compareKeys_int hx hy]
  have heq : (compare x.value y.value == .eq) = decide (x.value = y.value) := by
    rw [Bool.eq_iff_iff, beq_iff_eq, decide_eq_true_iff, compare_eq_iff_eq]
  have hgt : (compare x.value y.value == .gt) = decide (y.value < x.value) := by
    rw [Bool.eq_iff_iff, beq_iff_eq, decide_eq_true_iff, compare_gt_iff_gt]
  have hlt : (compare x.value y.value == .lt) = decide (x.value < y.value) := by
    rw [Bool.eq_iff_iff, beq_iff_eq, decide_eq_true_iff, compare_lt_iff_lt]
  refine ⟨heq ▸ hcase .eq, hgt ▸ hcase .gt, hlt ▸ hcase .lt, ?_, fun h => ⟨?_, ?_⟩,
    fun h => ⟨?_, ?_⟩⟩
  · rw [holds, filterHolds_operator _ hp rfl, verdict_in_eq_any, Outcome.any_singleton,
      ← filterHolds_operator _ hp rfl]
    exact heq ▸ hcase .eq
  · exact hx.lt_of_value_lt hy h
  · intro documents i j hi hj
    have hbefore := (SortOrder.compare_int hf hx hy).trans (compare_lt_iff_lt.2 h)
    exact SortOrder.lt_of_compare_eq_lt _ hbefore hi hj
  · exact hx.eq_or_long hy h
  · intro documents hsublist
    have htie := (SortOrder.compare_int hf hx hy).trans (compare_eq_iff_eq.2 h)
    refine SortOrder.sublist_sort _ ?_ hsublist
    rw [List.pairwise_pair, htie]
    rfl

/-- Two integers of 54 bits that are no doubles and round to different sides. -/
theorem longReadings_compare :
    isOperatorKey "reading" = false ∧ '.' ∉ "reading".toList ∧
      (Binary64.ofInt 9007199254740992).IsNearest 9007199254740993 ∧
      (Binary64.ofInt 9007199254740996).IsNearest 9007199254740995 ∧
      holds (.entry "reading" (.int 9007199254740993))
        (.entry "reading" (.entry "$lt" (.int 9007199254740995))) =
        .ok (decide ((Binary64.ofInt 9007199254740992).value <
          (Binary64.ofInt 9007199254740996).value)) := by
  have hp : isOperatorKey "reading" = false := rfl
  have hf : '.' ∉ "reading".toList := by decide
  have hdown : Binary64.ofInt 9007199254740993 = Binary64.ofInt 9007199254740992 := by decide
  have hup : Binary64.ofInt 9007199254740995 = Binary64.ofInt 9007199254740996 := by decide
  have hx := Binary64.isNearest_ofInt 9007199254740993
  have hy := Binary64.isNearest_ofInt 9007199254740995
  rw [hdown] at hx
  rw [hup] at hy
  obtain ⟨-, -, hcompared⟩ :=
    integers_compare_as_doubles hp hf 9007199254740993 9007199254740995
  exact ⟨hp, hf, hx, hy, (hcompared _ _ hx hy).2.2.1⟩

/-- The least integer that is no double counts as equal to the one before it: it is not greater, and
a sort does not put the smaller of the two first. -/
theorem long_integers_count_as_equal :
    (9007199254740992 : Int) < 9007199254740993 ∧
      holds (.entry "a" (.int 9007199254740993))
        (.entry "a" (.entry "$eq" (.int 9007199254740992))) = .ok true ∧
      holds (.entry "a" (.int 9007199254740993))
        (.entry "a" (.entry "$gt" (.int 9007199254740992))) = .ok false ∧
      holds (.entry "a" (.int 9007199254740992))
        (.entry "a" (.entry "$lt" (.int 9007199254740993))) = .ok false ∧
      SortOrder.sort ⟨"a", .ascending⟩
          [.entry "a" (.int 9007199254740993), .entry "a" (.int 9007199254740992)] =
        [.entry "a" (.int 9007199254740993), .entry "a" (.int 9007199254740992)] := by
  refine ⟨by decide, by decide +kernel, by decide +kernel, by decide +kernel, ?_⟩
  exact List.mergeSort_of_pairwise (List.pairwise_pair.2 (by decide +kernel))

end Matching

end SchemaQuery
