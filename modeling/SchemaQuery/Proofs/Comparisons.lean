import SchemaQuery.Collection.Sort
import SchemaQuery.Proofs.Evaluation

/-!
# Equality, ranges and sort keys

Numbers and strings are compared in one way wherever an operand is one of them: equality with it
is the middle case of the order (`Json.matchesLeaf_eq_order?`), the range operators ask for one or
two of the three cases (`verdict_strictKey`, `verdict_gte`, `verdict_lte`), and the sort puts two
keys in the same case (`Json.order?_of_comparable`). So the operators divide the values of a field
among them as the sort does (`comparisons_agree`).
-/

namespace SchemaQuery

namespace Json

/-- The value is of a type that is ordered: it is a number or a string. -/
def isOrdered : Json → Bool
  | .num _ | .str _ => true
  | _ => false

/-- Both values are numbers, or both are strings. -/
inductive Comparable : Json → Json → Prop
  | num (m n : Number) : Comparable (.num m) (.num n)
  | str (s t : String) : Comparable (.str s) (.str t)

namespace Comparable

variable {a b : Json}

theorem isOrdered_left (h : Comparable a b) : a.isOrdered = true := by cases h <;> rfl

theorem isOrdered_right (h : Comparable a b) : b.isOrdered = true := by cases h <;> rfl

end Comparable

/-- Ranges and sort keys order values alike. -/
theorem order?_of_comparable {a b : Json} (h : Comparable a b) :
    a.order? b = some (compareKeys (some a) (some b)) := by
  cases h with
  | num m n =>
    show some (compare m.key n.key) = some ((compare 2 2).then (compare m.key n.key))
    rw [Std.ReflOrd.compare_self, Ordering.eq_then]
  | str s t =>
    show some (compare s t) = some ((compare 3 3).then (compare s t))
    rw [Std.ReflOrd.compare_self, Ordering.eq_then]

/-- A value with an order is the only candidate when it is reached alone. -/
theorem candidates_singleton_of_isOrdered {a : Json} (h : a.isOrdered = true) :
    candidates [a] = [a] := by
  cases a with
  | num m => rfl
  | str s => rfl
  | _ => cases h

/-- Equality with a number or a string is the middle case of the order. -/
theorem matchesLeaf_eq_order? {bound : Json} (h : bound.isOrdered = true) (value : Json) :
    value.matchesLeaf bound = (value.order? bound == some .eq) := by
  cases bound with
  | num n =>
    cases value with
    | num m =>
      show (m.key == n.key) = (some (compare m.key n.key) == some .eq)
      rw [Bool.eq_iff_iff, beq_iff_eq, beq_iff_eq, Option.some_inj, Std.compare_eq_iff_eq]
    | _ => rfl
  | str t =>
    cases value with
    | str s =>
      show (s == t) = (some (compare s t) == some .eq)
      rw [Bool.eq_iff_iff, beq_iff_eq, beq_iff_eq, Option.some_inj, Std.compare_eq_iff_eq]
    | _ => rfl
  | _ => cases h

end Json

namespace Matching

variable {values : List Json} {bound : Json}

theorem itemMatches_of_isOrdered (h : bound.isOrdered = true) (value : Json) :
    itemMatches value bound = .ok (value.order? bound == some .eq) := by
  rw [← Json.matchesLeaf_eq_order? h]
  cases bound with
  | num n => rw [itemMatches] <;> simp
  | str t => rw [itemMatches] <;> simp
  | _ => cases h

theorem ordered_or (values : List Json) (bound : Json) (wanted other : Ordering → Bool) :
    ordered values bound (fun o => wanted o || other o) =
      (ordered values bound wanted || ordered values bound other) := by
  have hany (value : Json) : (value.order? bound).any (fun o => wanted o || other o) =
      ((value.order? bound).any wanted || (value.order? bound).any other) := by
    cases value.order? bound <;> rfl
  rw [Bool.eq_iff_iff, Bool.or_eq_true]
  simp only [ordered, List.any_eq_true, hany, Bool.or_eq_true, and_or_left, exists_or]

/-- The operator that asks for one case of the order. -/
def strictKey : Ordering → String
  | .lt => "$lt"
  | .eq => "$eq"
  | .gt => "$gt"

/-- An operator that asks for one case of the order holds when a candidate is in it. -/
theorem verdict_strictKey (h : bound.isOrdered = true) (o : Ordering) :
    verdict values (strictKey o, bound) = .ok (ordered values bound (· == o)) := by
  cases o with
  | lt =>
    have hk : StoreOperator.ofKey? (strictKey .lt) = some .lt := StoreOperator.ofKey?_key .lt
    simp only [verdict, operatorsHold, hk, Outcome.and_ok_true]
  | gt =>
    have hk : StoreOperator.ofKey? (strictKey .gt) = some .gt := StoreOperator.ofKey?_key .gt
    simp only [verdict, operatorsHold, hk, Outcome.and_ok_true]
  | eq =>
    have hnull : bound.isNull = false := by
      cases bound with
      | null => cases h
      | _ => rfl
    have htest : (fun value => itemMatches value bound) =
        fun value => .ok (value.order? bound == some .eq) :=
      funext (itemMatches_of_isOrdered h)
    rw [strictKey, verdict_eq, equalsBy, hnull, Bool.false_and, if_neg Bool.false_ne_true, htest,
      Outcome.any_ok, ordered]
    congr 2
    funext value
    cases value.order? bound <;> rfl

theorem verdict_gte (values : List Json) (bound : Json) :
    verdict values ("$gte", bound) =
      .ok (ordered values bound fun o => o == .gt || o == .eq) := by
  have hk : StoreOperator.ofKey? "$gte" = some .gte := StoreOperator.ofKey?_key .gte
  have hcases : (fun o : Ordering => o != .lt) = fun o => o == .gt || o == .eq := by
    funext o
    cases o <;> rfl
  simp only [verdict, operatorsHold, hk, Outcome.and_ok_true, hcases]

theorem verdict_lte (values : List Json) (bound : Json) :
    verdict values ("$lte", bound) =
      .ok (ordered values bound fun o => o == .lt || o == .eq) := by
  have hk : StoreOperator.ofKey? "$lte" = some .lte := StoreOperator.ofKey?_key .lte
  have hcases : (fun o : Ordering => o != .gt) = fun o => o == .lt || o == .eq := by
    funext o
    cases o <;> rfl
  simp only [verdict, operatorsHold, hk, Outcome.and_ok_true, hcases]

/-- A value that is reached alone is in the case that the sort reports. -/
theorem ordered_singleton {a b : Json} (h : a.Comparable b) (o : Ordering) :
    ordered [a] b (· == o) = (Json.compareKeys (some a) (some b) == o) := by
  rw [ordered, Json.candidates_singleton_of_isOrdered h.isOrdered_left, List.any_cons,
    List.any_nil, Bool.or_false, Json.order?_of_comparable h, Option.any_some]

/-- The clause on a path that asks for one case of the order. -/
theorem holds_strictKey (document : Json) {path : String} (hp : isOperatorKey path = false)
    (h : bound.isOrdered = true) (o : Ordering) :
    holds document (.entry path (.entry (strictKey o) bound)) =
      .ok (ordered (Path.resolve document path) bound (· == o)) := by
  have hkey : isOperatorKey (strictKey o) = true := by cases o <;> rfl
  rw [holds, filterHolds_operator document hp hkey, verdict_strictKey h]

theorem holds_strictKey_singleton {document : Json} {path : String}
    (hp : isOperatorKey path = false) {a b : Json} (h : a.Comparable b)
    (hresolve : Path.resolve document path = [a]) (o : Ordering) :
    holds document (.entry path (.entry (strictKey o) b)) =
      .ok (Json.compareKeys (some a) (some b) == o) := by
  rw [holds_strictKey document hp h.isOrdered_right, hresolve, ordered_singleton h]

/-- Comparisons agree with each other and with the sort. Where the bound is a number or a string,
"at least" is "greater" or "equal" and "at most" is "less" or "equal", whatever the path reaches. Of
two numbers or two strings, exactly one of "less", "equal" and "greater" holds, the one that the
sort reports. -/
theorem comparisons_agree (document : Json) {path : String} (hp : isOperatorKey path = false) :
    (∀ bound : Json, bound.isOrdered = true →
      (holds document (.entry path (.entry "$gte" bound)) = .ok true ↔
        holds document (.entry path (.entry "$gt" bound)) = .ok true ∨
          holds document (.entry path (.entry "$eq" bound)) = .ok true) ∧
      (holds document (.entry path (.entry "$lte" bound)) = .ok true ↔
        holds document (.entry path (.entry "$lt" bound)) = .ok true ∨
          holds document (.entry path (.entry "$eq" bound)) = .ok true)) ∧
    ∀ a b : Json, a.Comparable b → Path.resolve document path = [a] → ∀ o : Ordering,
      holds document (.entry path (.entry (strictKey o) b)) =
        .ok (Json.compareKeys (some a) (some b) == o) := by
  have hok {p : Bool} : (Except.ok p : Outcome) = .ok true ↔ p = true := by
    rw [Except.ok.injEq]
  constructor
  · intro bound hbound
    have hlt : holds document (.entry path (.entry "$lt" bound)) = .ok _ :=
      holds_strictKey document hp hbound .lt
    have heq : holds document (.entry path (.entry "$eq" bound)) = .ok _ :=
      holds_strictKey document hp hbound .eq
    have hgt : holds document (.entry path (.entry "$gt" bound)) = .ok _ :=
      holds_strictKey document hp hbound .gt
    rw [hlt, heq, hgt, hok, hok, hok]
    constructor
    · rw [holds, filterHolds_operator document hp rfl, verdict_gte, hok, ordered_or,
        Bool.or_eq_true]
    · rw [holds, filterHolds_operator document hp rfl, verdict_lte, hok, ordered_or,
        Bool.or_eq_true]
  · intro a b hab hresolve o
    exact holds_strictKey_singleton hp hab hresolve o

/-- An integer that is no double among strings and lists, and a zero with a sign. -/
theorem readings_compare :
    (isOperatorKey "readings" = false ∧ (Json.int 9007199254740992).isOrdered = true ∧
      (holds (.entry "readings" (.arr [.str "none", .arr [.int 7], .int 9007199254740993]))
          (.entry "readings" (.entry "$lte" (.int 9007199254740992))) = .ok true ↔
        holds (.entry "readings" (.arr [.str "none", .arr [.int 7], .int 9007199254740993]))
          (.entry "readings" (.entry "$lt" (.int 9007199254740992))) = .ok true ∨
        holds (.entry "readings" (.arr [.str "none", .arr [.int 7], .int 9007199254740993]))
          (.entry "readings" (.entry "$eq" (.int 9007199254740992))) = .ok true)) ∧
    isOperatorKey "zero" = false ∧
      (Json.num (.real ⟨true, 0⟩)).Comparable (.int 0) ∧
      Path.resolve (.entry "zero" (.num (.real ⟨true, 0⟩))) "zero" = [.num (.real ⟨true, 0⟩)] ∧
      holds (.entry "zero" (.num (.real ⟨true, 0⟩))) (.entry "zero" (.entry "$eq" (.int 0))) =
        .ok (Json.compareKeys (some (.num (.real ⟨true, 0⟩))) (some (.int 0)) == .eq) := by
  have hreadings : isOperatorKey "readings" = false := rfl
  have hzero : isOperatorKey "zero" = false := rfl
  have hbound : (Json.int 9007199254740992).isOrdered = true := rfl
  have hcomparable : (Json.num (.real ⟨true, 0⟩)).Comparable (.int 0) := .num _ _
  have hresolve : Path.resolve (.entry "zero" (.num (.real ⟨true, 0⟩))) "zero" =
      [.num (.real ⟨true, 0⟩)] := by cbv
  exact ⟨⟨hreadings, hbound, ((comparisons_agree _ hreadings).1 _ hbound).2⟩, hzero, hcomparable,
    hresolve, (comparisons_agree _ hzero).2 _ _ hcomparable hresolve .eq⟩

end Matching

end SchemaQuery
