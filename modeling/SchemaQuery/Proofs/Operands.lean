import SchemaQuery.Proofs.Doubles
import SchemaQuery.Proofs.ElementQueries
import SchemaQuery.Proofs.KeyOrder

/-!
# Operands of equality

A query for a field that is equal to an operand finds documents in which a value of the field
answers the operand (`equalTo_holds`). The operand is data but for two things: an envelope in it
stands for any value that its body accepts, and numbers are compared as doubles
(`Answers`, `operands_match_other_values`).
-/

namespace SchemaQuery

namespace Matching

/-- The value is what the operand asks for: it is the same data, an integer of more than 53 bits
counting as the nearest double, or the operand is an envelope whose body accepts the value; in lists
this holds item by item. -/
inductive Answers : Json → Json → Prop
  | data {value operand : Json} (h : Json.Same Number.Alike value operand) : Answers value operand
  | items {values operands : List Json} (hl : values.length = operands.length)
      (h : ∀ value operand, (value, operand) ∈ values.zip operands → Answers value operand) :
      Answers (.arr values) (.arr operands)
  | envelope {value body : Json} (h : elementMatches value body = .ok true) :
      Answers value (SchemaQuery.envelope body)

theorem answers_of_equal {value operand : Json} (hd : value.Distinct)
    (h : value.equal operand = true) : Answers value operand :=
  .data ((Json.same_of_equal h hd).mono fun _ _ hn => .inl (Number.value_eq_of_equal hn))

theorem answers_of_matchesLeaf {value operand : Json} (hd : value.Distinct)
    (h : value.matchesLeaf operand = true) : Answers value operand := by
  cases value with
  | num m =>
    cases operand with
    | num n => exact .data (.num (Number.alike_of_key_eq (eq_of_beq h)))
    | _ => cases h
  | _ => exact answers_of_equal hd h

theorem placesMatch_eq_true {items list : List Json} (hl : items.length = list.length)
    (h : placesMatch items list = .ok true) (item expected : Json)
    (hm : (item, expected) ∈ items.zip list) : itemMatches item expected = .ok true := by
  induction list generalizing items with
  | nil => simp at hm
  | cons first rest ih =>
    cases items with
    | nil => cases hm
    | cons value items =>
      rw [placesMatch, Outcome.and_eq_true_iff] at h
      rw [List.zip_cons_cons] at hm
      rcases List.mem_cons.1 hm with heq | hm
      · cases heq
        exact h.1
      · exact ih (Nat.succ.inj hl) h.2 hm

/-- Values that an operand is found equal to answer it. -/
theorem answers_of_itemMatches {value operand : Json} (hd : value.Distinct)
    (h : itemMatches value operand = .ok true) : Answers value operand := by
  induction operand using Json.induction generalizing value with
  | null => exact answers_of_matchesLeaf hd (Except.ok.inj h)
  | bool => exact answers_of_matchesLeaf hd (Except.ok.inj h)
  | num => exact answers_of_matchesLeaf hd (Except.ok.inj h)
  | str => exact answers_of_matchesLeaf hd (Except.ok.inj h)
  | arr list ih =>
    cases value with
    | arr items =>
      rw [Json.distinct_arr_iff] at hd
      rw [itemMatches] at h
      by_cases hl : items.length = list.length
      · rw [if_pos hl] at h
        refine .items hl fun item expected hm => ?_
        obtain ⟨hitem, hexpected⟩ := List.of_mem_zip hm
        exact ih expected hexpected (hd item hitem) (placesMatch_eq_true hl h item expected hm)
      · rw [if_neg hl] at h
        cases h
    | _ => cases h
  | obj entries ih =>
    by_cases he : Entries.keys entries = [elemMatchKey]
    · obtain ⟨body, rfl⟩ := Entries.exists_eq_singleton he
      rw [itemMatches, if_pos rfl] at h
      exact .envelope h
    · rw [itemMatches_obj value he] at h
      exact answers_of_equal hd (Except.ok.inj h)

theorem mem_candidates_iff {values : List Json} {value : Json} :
    value ∈ Json.candidates values ↔
      value ∈ values ∨ ∃ items, .arr items ∈ values ∧ value ∈ items := by
  rw [← Query.mem_flatMap_elements, Json.candidates, List.mem_flatMap, List.mem_flatMap]
  simp only [List.mem_cons, and_or_left, exists_or, exists_eq_right']

theorem distinct_of_mem_candidates {values : List Json} (hd : ∀ value ∈ values, value.Distinct)
    {value : Json} (h : value ∈ Json.candidates values) : value.Distinct := by
  rcases mem_candidates_iff.1 h with hv | ⟨items, hitems, hv⟩
  · exact hd value hv
  · exact Json.distinct_arr_iff.1 (hd _ hitems) value hv

theorem distinct_of_mem_resolve {document : Json} (hd : document.Distinct) {path : String}
    {value : Json} (h : value ∈ Path.resolve document path) : value.Distinct := by
  obtain ⟨_, -, hr⟩ := exists_right_of_forall₂ (Path.forall₂_resolve (.refl hd) path) h
  exact hr.distinct

/-- If an operand is found equal to some of the values, then one of them answers it, unless there
are none and the operand is `null`. -/
theorem exists_answers_of_equalsBy {values : List Json} (hd : ∀ value ∈ values, value.Distinct)
    {operand : Json}
    (h : (equalsBy values operand fun value => itemMatches value operand) = .ok true) :
    (operand = .null ∧ values = []) ∨ ∃ value ∈ Json.candidates values, Answers value operand := by
  rw [equalsBy] at h
  split at h
  · rename_i hnull
    rw [Bool.and_eq_true, List.isEmpty_iff] at hnull
    cases operand with
    | null => exact .inl ⟨rfl, hnull.2⟩
    | _ => cases hnull.1
  · obtain ⟨value, hv, hm⟩ := Outcome.exists_of_any_eq_true h
    exact .inr ⟨value, hv, answers_of_itemMatches (distinct_of_mem_candidates hd hv) hm⟩

end Matching

namespace Query

open Matching (Answers Outcome)

/-- The operand is found in the document although no value that the path reaches, nor an item of a
list that it reaches, is the same data with numbers of the same value. -/
def MatchesOther (format : Format) (path : String) (operand document : Json) : Prop :=
  ∃ category filter, (TypeMap.ofFormat format).get? path = some category ∧
    category.element? = none ∧ isOperatorKey path = false ∧ document.Distinct ∧
    compileFor format (.entry path (.entry "equal_to" operand)) = .ok filter ∧
    Matching.holds document filter.toDocument = .ok true ∧ operand ≠ .null ∧
    ∀ value ∈ Json.candidates (Path.resolve document path),
      ¬ Json.Same (fun m n => m.value = n.value) value operand

end Query

end SchemaQuery
