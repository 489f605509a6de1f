import SchemaQuery.Proofs.ListOperators
import SchemaQuery.Proofs.Rearranging

/-!
# Operators on lists of objects

An object can be asked for in two ways: as a query that an element satisfies, which has it in an
envelope, or as a value that an element equals. `contains` and `contains_none_of` take it as a query
and are the opposites of each other, while `not_contains` takes it as a value
(`objectLists_contain`) and is not the opposite of `contains` where an element has further fields
(`rex_contained_and_not_contained`).
-/

namespace SchemaQuery

/-! ## Objects without operators -/

namespace Matching

variable {fields : List (String × Json)} {items : List Json}

theorem itemMatches_of_isOperatorFree (h : (Json.obj fields).isOperatorFree = true)
    (value : Json) : itemMatches value (.obj fields) = .ok (value.equal (.obj fields)) := by
  refine itemMatches_obj value fun hkeys => ?_
  obtain ⟨operand, rfl⟩ := Entries.exists_eq_singleton hkeys
  have hfree : isOperatorKey elemMatchKey = false :=
    (Json.isOperatorFreeEntries_iff.1 h _ List.mem_cons_self).1
  exact absurd hfree (by decide)

/-- In an envelope, an object is a query on the elements of a list. -/
theorem any_itemMatches_envelope (h : (Json.obj fields).isOperatorFree = true)
    (hitems : ∀ item ∈ items, item.isObject = true) :
    Outcome.any (itemMatches · (envelope (.obj fields))) items =
      Outcome.any (holds · (.obj fields)) items := by
  refine Outcome.any_congr fun item hm => ?_
  show elementMatches item (.obj fields) = fieldsHold item fields
  rw [elementMatches_of_isOperatorFree h, if_pos (hitems item hm)]

theorem containsAll_envelope (h : (Json.obj fields).isOperatorFree = true)
    (hitems : ∀ item ∈ items, item.isObject = true) :
    containsAll [.arr items] (.arr [envelope (.obj fields)]) =
      Outcome.any (holds · (.obj fields)) items := by
  rw [containsAll_list (by simp), Outcome.all_singleton, any_itemMatches_envelope h hitems]

/-- The list as a whole satisfies no query. -/
theorem inList_envelope (h : (Json.obj fields).isOperatorFree = true)
    (hitems : ∀ item ∈ items, item.isObject = true) (key : String) :
    inList [.arr items] key (.arr [envelope (.obj fields)]) =
      Outcome.any (holds · (.obj fields)) items := by
  have hwhole : itemMatches (.arr items) (envelope (.obj fields)) = .ok false :=
    elementMatches_of_isOperatorFree h (.arr items)
  rw [inList_singleton, equalsBy_list, hwhole, Outcome.or_false, any_itemMatches_envelope h hitems]

/-- Without an envelope, an object is a value that elements equal. -/
theorem inList_object (h : (Json.obj fields).isOperatorFree = true) (items : List Json)
    (key : String) :
    inList [.arr items] key (.arr [.obj fields]) = .ok (items.any (·.equal (.obj fields))) := by
  have hwhole : itemMatches (.arr items) (.obj fields) = .ok false :=
    itemMatches_of_isOperatorFree h (.arr items)
  rw [inList_singleton, equalsBy_list, hwhole, Outcome.or_false, ← Outcome.any_ok]
  exact Outcome.any_congr fun item _ => itemMatches_of_isOperatorFree h item

end Matching

/-! ## Three operators on lists of objects -/

namespace Query

open Matching (Outcome verdict)
open Matching.Outcome (Evaluates)

/-- The path is that of a list of objects, and the document has there exactly one list, whose
elements are objects. -/
structure ObjectList (format : Format) (document : Json) (path : String) (items : List Json) :
    Prop where
  category : (TypeMap.ofFormat format).get? path = some .objectArray
  field : isOperatorKey path = false
  reached : Path.resolve document path = [.arr items]
  objects : ∀ item ∈ items, item.isObject = true

section ObjectLists

variable {format : Format} {document : Json} {path : String} {items : List Json}
  {fields : List (String × Json)} {Q : Outcome → Prop}

theorem ObjectList.alone_iff (h : ObjectList format document path items) {operator : Operator}
    (ho : operator ∈ Operator.onContents) (operand : Json) :
    Alone Q format document path (operator.name, operand) ↔
      Q (verdict [.arr items]
        (operator.store.key, operator.storeOperand .objectArray operand)) := by
  rw [alone_operator_iff h.category h.field (legal_of_mem_onContents rfl ho), h.reached]

theorem ObjectList.alone_contains_iff (h : ObjectList format document path items)
    (hv : (Json.obj fields).isOperatorFree = true) :
    Alone Q format document path (Operator.contains.name, .obj fields) ↔
      Q (Outcome.any (Matching.holds · (.obj fields)) items) := by
  have hverdict : verdict [.arr items] ("$all", .arr [envelope (.obj fields)]) =
      Outcome.any (Matching.holds · (.obj fields)) items := by
    rw [Matching.verdict_all, Matching.containsAll_envelope hv h.objects]
  rw [h.alone_iff (by decide), ← hverdict]
  rfl

theorem ObjectList.alone_containsNoneOf_iff (h : ObjectList format document path items)
    (hv : (Json.obj fields).isOperatorFree = true) :
    Alone Q format document path (Operator.containsNoneOf.name, .arr [.obj fields]) ↔
      Q (Outcome.not (Outcome.any (Matching.holds · (.obj fields)) items)) := by
  have hverdict : verdict [.arr items] ("$nin", .arr [envelope (.obj fields)]) =
      Outcome.not (Outcome.any (Matching.holds · (.obj fields)) items) := by
    rw [Matching.verdict_nin, Matching.inList_envelope hv h.objects]
  rw [h.alone_iff (by decide), ← hverdict]
  rfl

theorem ObjectList.alone_notContains_iff (h : ObjectList format document path items)
    (hv : (Json.obj fields).isOperatorFree = true) :
    Alone Q format document path (Operator.notContains.name, .obj fields) ↔
      Q (.ok (!items.any (·.equal (.obj fields)))) := by
  have hverdict : verdict [.arr items] ("$nin", .arr [.obj fields]) =
      .ok (!items.any (·.equal (.obj fields))) := by
    rw [Matching.verdict_nin, Matching.inList_object hv]
    rfl
  rw [h.alone_iff (by decide), ← hverdict]
  rfl

/-- On a list of objects, the operators can always be evaluated for an object without operators.
Containing it is having an element that satisfies it as a query, and containing none of it is the
opposite. Not to contain it is having no element that equals it, which is the opposite only where
the elements that satisfy it and those that equal it are there together. -/
theorem objectLists_contain (h : ObjectList format document path items)
    (hv : (Json.obj fields).isOperatorFree = true) :
    (Alone Evaluates format document path (Operator.contains.name, .obj fields) ∧
      Alone Evaluates format document path (Operator.notContains.name, .obj fields) ∧
      Alone Evaluates format document path (Operator.containsNoneOf.name, .arr [.obj fields])) ∧
    (Selects format document path .contains (.obj fields) ↔
      ∃ item ∈ items, Matching.holds item (.obj fields) = .ok true) ∧
    (Selects format document path .containsNoneOf (.arr [.obj fields]) ↔
      ¬Selects format document path .contains (.obj fields)) ∧
    (Selects format document path .notContains (.obj fields) ↔
      ∀ item ∈ items, item.equal (.obj fields) = false) ∧
    ((Selects format document path .notContains (.obj fields) ↔
        ¬Selects format document path .contains (.obj fields)) ↔
      ((∃ item ∈ items, item.equal (.obj fields) = true) ↔
        ∃ item ∈ items, Matching.holds item (.obj fields) = .ok true)) := by
  have hall : ∀ item ∈ items, Evaluates (Matching.holds item (.obj fields)) :=
    fun item _ => Matching.evaluates_fieldsHold hv item
  have hany : Evaluates (Outcome.any (Matching.holds · (.obj fields)) items) :=
    Outcome.any_evaluates hall
  have hcontains : Selects format document path .contains (.obj fields) ↔
      ∃ item ∈ items, Matching.holds item (.obj fields) = .ok true := by
    rw [Selects, h.alone_contains_iff hv, Outcome.any_eq_true_iff hall]
  have hnot : Selects format document path .notContains (.obj fields) ↔
      ∀ item ∈ items, item.equal (.obj fields) = false := by
    rw [Selects, h.alone_notContains_iff hv, Except.ok.injEq, Bool.not_eq_true',
      List.any_eq_false]
    simp only [Bool.not_eq_true]
  have hnone : Selects format document path .containsNoneOf (.arr [.obj fields]) ↔
      ¬Selects format document path .contains (.obj fields) := by
    rw [Selects, h.alone_containsNoneOf_iff hv, Selects, h.alone_contains_iff hv]
    obtain ⟨answer, hanswer⟩ := hany
    rw [hanswer]
    cases answer <;> simp
  refine ⟨⟨?_, ?_, ?_⟩, hcontains, hnone, hnot, ?_⟩
  · exact (h.alone_contains_iff hv).2 hany
  · exact (h.alone_notContains_iff hv).2 ⟨_, rfl⟩
  · exact (h.alone_containsNoneOf_iff hv).2 hany.not
  · have hsome : ¬(∀ item ∈ items, item.equal (.obj fields) = false) ↔
        ∃ item ∈ items, item.equal (.obj fields) = true := by
      simp
    rw [hcontains, hnot, ← hsome]
    exact iff_not_comm.trans iff_comm

/-! ### A pet that is contained and is not -/

def petsFormat : Format := [("pets", .arrayOf .object)]

theorem objectList_pets :
    ObjectList petsFormat Matching.pets "pets" [Matching.rex] :=
  ⟨by cbv, rfl, by cbv, by simp [Matching.rex, Json.isObject]⟩

/-- The name alone, without the age. -/
def rexName : List (String × Json) := [("name", .str "Rex")]

theorem pets_contain_rexName :
    ObjectList petsFormat Matching.pets "pets" [Matching.rex] ∧
    (Json.obj rexName).isOperatorFree = true ∧
    (Selects petsFormat Matching.pets "pets" .containsNoneOf (.arr [.obj rexName]) ↔
      ¬Selects petsFormat Matching.pets "pets" .contains (.obj rexName)) ∧
    (Selects petsFormat Matching.pets "pets" .notContains (.obj rexName) ↔
      ∀ item ∈ [Matching.rex], item.equal (.obj rexName) = false) := by
  have hfree : (Json.obj rexName).isOperatorFree = true := by decide
  have h := objectLists_contain objectList_pets hfree
  exact ⟨objectList_pets, hfree, h.2.2.1, h.2.2.2.1⟩

/-- A pet with this name is there, but none that has no other field. -/
theorem rex_contained_and_not_contained :
    ObjectList petsFormat Matching.pets "pets" [Matching.rex] ∧
    (Json.obj rexName).isOperatorFree = true ∧
    Selects petsFormat Matching.pets "pets" .contains (.obj rexName) ∧
    Selects petsFormat Matching.pets "pets" .notContains (.obj rexName) ∧
    ¬Selects petsFormat Matching.pets "pets" .containsNoneOf (.arr [.obj rexName]) := by
  have hfree : (Json.obj rexName).isOperatorFree = true := by decide
  refine ⟨objectList_pets, hfree, ?_, ?_, ?_⟩
  · rw [Selects, objectList_pets.alone_contains_iff hfree]
    cbv
  · rw [Selects, objectList_pets.alone_notContains_iff hfree]
    cbv
  · rw [Selects, objectList_pets.alone_containsNoneOf_iff hfree]
    have hnone : Outcome.not (Outcome.any (Matching.holds · (.obj rexName)) [Matching.rex]) =
        .ok false := by cbv
    simp [hnone]

end ObjectLists

end Query

end SchemaQuery
