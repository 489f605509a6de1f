import Mathlib
import SchemaQuery.Collection.Sort

/-!
# The order of sort keys

Sort keys are compared by type and then within it, which is a lexicographic order
(`Json.compareKeys_eq_lex`) and so transitive. The documents of a sorted list are in the order of
their keys (`SortOrder.pairwise_sort`), hence those with smaller keys come first
(`SortOrder.lt_of_compare_eq_lt`) and those with equal keys stay in order
(`SortOrder.sublist_sort`).
-/

namespace SchemaQuery

namespace Json

/-- The place of the type of a sort key; a missing key is before all types. -/
def keyRank : Option Json → Nat
  | none => 0
  | some value => value.rank + 1

/-- What sort keys of the same type are compared by if they are truth values or numbers. -/
def keyNumber : Option Json → Int
  | some (.bool b) => b.toNat
  | some (.num n) => n.key
  | _ => 0

/-- What sort keys of the same type are compared by if they are strings. -/
def keyText : Option Json → String
  | some (.str s) => s
  | _ => ""

theorem compareKeys_eq_lex :
    compareKeys =
      compareLex (compareOn keyRank) (compareLex (compareOn keyNumber) (compareOn keyText)) := by
  funext a b
  rcases a with _ | a <;> rcases b with _ | b
  · rfl
  · rfl
  · rfl
  · -- the parts that do not belong to the type are equal, and only numbers come before a text
    cases a <;> cases b <;> try rfl
    case bool.bool p q => cases p <;> cases q <;> rfl
    case num.num m n => exact (Ordering.then_eq (o := compare m.key n.key)).symm

instance : Std.TransCmp compareKeys := by
  rw [compareKeys_eq_lex]
  infer_instance

end Json

namespace SortOrder

variable (order : SortOrder)

theorem compare_swap (a b : Json) : order.compare a b = (order.compare b a).swap := by
  have h : Json.compareKeys (order.key? a) (order.key? b) =
    (Json.compareKeys (order.key? b) (order.key? a)).swap := Std.OrientedCmp.eq_swap
  obtain ⟨path, _ | _⟩ := order
  · exact h
  · exact congrArg Ordering.swap h

/-- Both directions go through the keys in one order. -/
instance : Std.TransCmp order.compare where
  eq_swap := order.compare_swap _ _
  isLE_trans {a b c} hab hbc := by
    obtain ⟨path, _ | _⟩ := order
    · have h := @Std.TransCmp.isLE_trans _ Json.compareKeys _
      exact h hab hbc
    · have h := @Std.TransCmp.isGE_trans _ Json.compareKeys _
      exact Ordering.isLE_swap.trans (h (Ordering.isLE_swap.symm.trans hab)
        (Ordering.isLE_swap.symm.trans hbc))

theorem isLE_trans (a b c : Json) (hab : (order.compare a b).isLE = true)
    (hbc : (order.compare b c).isLE = true) : (order.compare a c).isLE = true :=
  Std.TransCmp.isLE_trans hab hbc

theorem isLE_total (a b : Json) :
    ((order.compare a b).isLE || (order.compare b a).isLE) = true := by
  rw [order.compare_swap b a]
  cases order.compare a b <;> rfl

theorem perm_sort (documents : List Json) : (order.sort documents).Perm documents :=
  List.mergeSort_perm documents _

/-- A sorted list is in order. -/
theorem pairwise_sort (documents : List Json) :
    (order.sort documents).Pairwise fun a b => (order.compare a b).isLE = true :=
  List.pairwise_mergeSort order.isLE_trans order.isLE_total documents

/-- A document with a smaller key comes before one with a greater key. -/
theorem lt_of_compare_eq_lt {a b : Json} (h : order.compare a b = .lt) {documents : List Json}
    {i j : Nat} (hi : (order.sort documents)[i]? = some a)
    (hj : (order.sort documents)[j]? = some b) : i < j := by
  obtain ⟨hlti, hi⟩ := List.getElem?_eq_some_iff.1 hi
  obtain ⟨hltj, hj⟩ := List.getElem?_eq_some_iff.1 hj
  by_contra hle
  rcases Nat.lt_or_eq_of_le (Nat.le_of_not_lt hle) with hlt | heq
  · have hge := List.pairwise_iff_getElem.1 (order.pairwise_sort documents) j i hltj hlti hlt
    rw [hi, hj, order.compare_swap b a, h] at hge
    cases hge
  · subst heq
    have hself : order.compare a a = .eq := Std.ReflCmp.compare_self
    rw [← hj, hi, hself] at h
    cases h

/-- Documents that are in order already keep their places among each other. -/
theorem sublist_sort {part documents : List Json}
    (hpart : part.Pairwise fun a b => (order.compare a b).isLE = true)
    (h : part.Sublist documents) : part.Sublist (order.sort documents) :=
  List.sublist_mergeSort order.isLE_trans order.isLE_total hpart h

end SortOrder

end SchemaQuery
