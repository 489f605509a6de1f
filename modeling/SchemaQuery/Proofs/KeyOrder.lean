import SchemaQuery.Proofs.Sameness
import SchemaQuery.Proofs.Verdicts

/-!
# The order of keys in documents

No part of a filter sees in which order a document lists its keys: values that are the same data
have the same outcome, be it an error (`filterHolds_rekeyed`).
-/

namespace SchemaQuery

namespace Json

variable {a b : Json}

theorem Same.order?_eq (h : Same Eq a b) (bound : Json) : a.order? bound = b.order? bound := by
  cases h with
  | num h => rw [h]
  | _ => rfl

theorem Same.matchesLeaf_eq (h : Same Eq a b) (expected : Json) :
    a.matchesLeaf expected = b.matchesLeaf expected := by
  have he := h.equal_left expected
  cases h with
  | num h => rw [h]
  | _ => exact he

theorem Same.text?_eq (h : Same Eq a b) : a.text? = b.text? := by cases h <;> rfl

theorem Same.length_items? (h : Same Eq a b) :
    a.items?.map List.length = b.items?.map List.length := by
  cases h with
  | arr hl => exact congrArg some hl
  | _ => rfl

end Json

namespace Matching

open Json (Rekeyed)

/-! ## What equality compares -/

/-- A list as a condition asks for a value that equals it, as an operand of `$eq` does. -/
theorem conditionHolds_arr (values expected : List Json) :
    conditionHolds values (.arr expected) =
      Outcome.any (fun value => itemMatches value (.arr expected)) (Json.candidates values) := by
  rw [conditionHolds]
  refine Outcome.any_congr fun value _ => ?_
  cases value <;> rfl

/-- An object that is no envelope is compared as data. -/
theorem itemMatches_obj {entries : List (String × Json)} (value : Json)
    (h : Entries.keys entries ≠ [elemMatchKey]) :
    itemMatches value (.obj entries) = .ok (value.equal (.obj entries)) := by
  match entries, h with
  | [], _ => cases value <;> rfl
  | [(key, condition)], h =>
    have hkey : key ≠ elemMatchKey := fun heq => h (by rw [heq]; rfl)
    rw [itemMatches, if_neg hkey]
  | _ :: _ :: _, _ => cases value <;> rfl

/-! ## Values of a path -/

section Values

variable {vs ws : List Json}

theorem Outcome.any_of_forall₂ {test : Json → Outcome} (h : List.Forall₂ Rekeyed vs ws)
    (ht : ∀ a b, Rekeyed a b → test a = test b) : Outcome.any test vs = Outcome.any test ws := by
  induction h with
  | nil => rfl
  | cons hr _ ih => rw [Outcome.any_cons, Outcome.any_cons, ht _ _ hr, ih]

theorem any_of_forall₂ {test : Json → Bool} (h : List.Forall₂ Rekeyed vs ws)
    (ht : ∀ a b, Rekeyed a b → test a = test b) : vs.any test = ws.any test := by
  induction h with
  | nil => rfl
  | cons hr _ ih => rw [List.any_cons, List.any_cons, ht _ _ hr, ih]

theorem isEmpty_of_forall₂ (h : List.Forall₂ Rekeyed vs ws) : vs.isEmpty = ws.isEmpty := by
  cases h <;> rfl

theorem equalsBy_of_forall₂ {test : Json → Outcome} (h : List.Forall₂ Rekeyed vs ws)
    (expected : Json) (ht : ∀ a b, Rekeyed a b → test a = test b) :
    equalsBy vs expected test = equalsBy ws expected test := by
  rw [equalsBy, equalsBy, isEmpty_of_forall₂ h,
    Outcome.any_of_forall₂ (Json.forall₂_candidates h) ht]

theorem ordered_of_forall₂ (h : List.Forall₂ Rekeyed vs ws) (bound : Json)
    (wanted : Ordering → Bool) : ordered vs bound wanted = ordered ws bound wanted :=
  any_of_forall₂ (Json.forall₂_candidates h) fun a b hr => by rw [hr.same.order?_eq bound]

theorem hasSize_of_forall₂ (h : List.Forall₂ Rekeyed vs ws) (size : Json) :
    hasSize vs size = hasSize ws size := by
  have hany (length : Nat) : (vs.any fun value => value.items?.map List.length == some length) =
      ws.any fun value => value.items?.map List.length == some length :=
    any_of_forall₂ h fun a b hr => by rw [hr.same.length_items?]
  cases size <;> simp only [hasSize, hany]

theorem existsAs_of_forall₂ (h : List.Forall₂ Rekeyed vs ws) (wanted : Json) :
    existsAs vs wanted = existsAs ws wanted := by
  cases wanted <;> simp only [existsAs, isEmpty_of_forall₂ h]

theorem matchesPattern_of_forall₂ (h : List.Forall₂ Rekeyed vs ws) (pattern : Json)
    (options : Option Json) :
    matchesPattern vs pattern options = matchesPattern ws pattern options := by
  have hany (compiled : Pattern.Regex) :
      ((Json.candidates vs).any fun value => value.text?.any compiled.isMatch) =
        (Json.candidates ws).any fun value => value.text?.any compiled.isMatch :=
    any_of_forall₂ (Json.forall₂_candidates h) fun a b hr => by rw [hr.same.text?_eq]
  cases pattern <;> simp only [matchesPattern, hany]

end Values

theorem itemMatches_arr_rekeyed {a b : Json} (h : Rekeyed a b) {expected : List Json}
    (hplaces : ∀ vs ws, List.Forall₂ Rekeyed vs ws →
      placesMatch vs expected = placesMatch ws expected) :
    itemMatches a (.arr expected) = itemMatches b (.arr expected) := by
  have he := h.elements
  obtain ⟨hs, -⟩ := h
  cases hs with
  | @arr xs ys hl => rw [itemMatches, itemMatches, hl, hplaces xs ys he]
  | _ => rfl

/-! ## Filters -/

mutual

/-- A filter has the same outcome on documents that are the same data. -/
theorem filterHolds_rekeyed {a b : Json} (h : Rekeyed a b) :
    ∀ filter, filterHolds a filter = filterHolds b filter
  | .obj entries => fieldsHold_rekeyed h entries
  | .null | .bool _ | .num _ | .str _ | .arr _ => rfl
termination_by structural filter => filter

theorem fieldsHold_rekeyed {a b : Json} (h : Rekeyed a b) :
    ∀ entries, fieldsHold a entries = fieldsHold b entries
  | [] => rfl
  | (key, condition) :: rest => by
    rw [fieldsHold, fieldsHold, fieldsHold_rekeyed h rest]
    cases FilterKey.ofString key with
    | logical operator => simp only [clausesHold_rekeyed h key operator condition]
    | unknown => rfl
    | path => simp only [conditionHolds_rekeyed (Path.forall₂_resolve h key) condition]
termination_by structural entries => entries

theorem clausesHold_rekeyed {a b : Json} (h : Rekeyed a b) (key : String)
    (operator : LogicalOperator) :
    ∀ clauses, clausesHold a key operator clauses = clausesHold b key operator clauses
  | .arr (clause :: rest) => by
    rw [clausesHold, clausesHold, someClause_rekeyed h operator.decisive (clause :: rest)]
  | .arr [] | .null | .bool _ | .num _ | .str _ | .obj _ => rfl
termination_by structural clauses => clauses

theorem someClause_rekeyed {a b : Json} (h : Rekeyed a b) (wanted : Bool) :
    ∀ clauses, someClause a wanted clauses = someClause b wanted clauses
  | [] => rfl
  | clause :: rest => by
    rw [someClause, someClause, filterHolds_rekeyed h clause, someClause_rekeyed h wanted rest]
termination_by structural clauses => clauses

theorem conditionHolds_rekeyed {vs ws : List Json} (h : List.Forall₂ Rekeyed vs ws) :
    ∀ condition, conditionHolds vs condition = conditionHolds ws condition
  | .obj entries => by
    rw [conditionHolds, conditionHolds, operatorsHold_rekeyed h entries entries,
      any_of_forall₂ (Json.forall₂_candidates h) fun a b hr => hr.same.equal_left (.obj entries)]
  | .arr expected => by
    rw [conditionHolds_arr, conditionHolds_arr]
    refine Outcome.any_of_forall₂ (Json.forall₂_candidates h) fun a b hr => ?_
    exact itemMatches_arr_rekeyed hr fun _ _ hvs => placesMatch_rekeyed hvs expected
  | .null | .bool _ | .num _ | .str _ =>
    equalsBy_of_forall₂ h _ fun a b hr => congrArg Except.ok (hr.same.matchesLeaf_eq _)
termination_by structural condition => condition

theorem operatorsHold_rekeyed {vs ws : List Json} (h : List.Forall₂ Rekeyed vs ws)
    (siblings : List (String × Json)) :
    ∀ entries, operatorsHold vs siblings entries = operatorsHold ws siblings entries
  | [] => rfl
  | (key, operand) :: rest => by
    have hequals : equalsBy vs operand (fun value => itemMatches value operand) =
        equalsBy ws operand (fun value => itemMatches value operand) :=
      equalsBy_of_forall₂ h operand fun a b hr => itemMatches_rekeyed hr operand
    have hlist := inList_rekeyed h key operand
    have hmatch : Outcome.any (fun element => elementMatches element operand)
        (vs.flatMap Json.elements) = Outcome.any (fun element => elementMatches element operand)
          (ws.flatMap Json.elements) :=
      Outcome.any_of_forall₂ (List.rel_flatMap h fun _ _ hr => hr.elements) fun a b hr =>
        elementMatches_rekeyed hr operand
    rw [operatorsHold, operatorsHold, operatorsHold_rekeyed h siblings rest]
    cases StoreOperator.ofKey? key with
    | none => rfl
    | some operator =>
      cases operator with
      | options => rfl
      | eq | ne => simp only [hequals]
      | gt | gte | lt | lte => simp only [ordered_of_forall₂ h]
      | oneOf | noneOf => simp only [hlist]
      | «exists» => simp only [existsAs_of_forall₂ h]
      | regex => simp only [matchesPattern_of_forall₂ h]
      | all => simp only [containsAll_rekeyed h operand]
      | elemMatch => simp only [hmatch]
      | size => simp only [hasSize_of_forall₂ h]
      | not => simp only [conditionHolds_rekeyed h operand]
termination_by structural entries => entries

theorem inList_rekeyed {vs ws : List Json} (h : List.Forall₂ Rekeyed vs ws) (key : String) :
    ∀ list, inList vs key list = inList ws key list
  | .arr list => equalsSome_rekeyed h list
  | .null | .bool _ | .num _ | .str _ | .obj _ => rfl
termination_by structural list => list

theorem equalsSome_rekeyed {vs ws : List Json} (h : List.Forall₂ Rekeyed vs ws) :
    ∀ list, equalsSome vs list = equalsSome ws list
  | [] => rfl
  | expected :: rest => by
    rw [equalsSome, equalsSome, equalsSome_rekeyed h rest,
      equalsBy_of_forall₂ h expected fun a b hr => itemMatches_rekeyed hr expected]
termination_by structural list => list

theorem containsAll_rekeyed {vs ws : List Json} (h : List.Forall₂ Rekeyed vs ws) :
    ∀ list, containsAll vs list = containsAll ws list
  | .arr (first :: rest) =>
    Outcome.any_of_forall₂ h fun _ _ hr => containsEach_rekeyed hr.elementsOrSelf (first :: rest)
  | .arr [] | .null | .bool _ | .num _ | .str _ | .obj _ => rfl
termination_by structural list => list

theorem containsEach_rekeyed {vs ws : List Json} (h : List.Forall₂ Rekeyed vs ws) :
    ∀ list, containsEach vs list = containsEach ws list
  | [] => rfl
  | expected :: rest => by
    rw [containsEach, containsEach, containsEach_rekeyed h rest,
      Outcome.any_of_forall₂ h fun a b hr => itemMatches_rekeyed hr expected]
termination_by structural list => list

theorem itemMatches_rekeyed {a b : Json} (h : Rekeyed a b) :
    ∀ expected, itemMatches a expected = itemMatches b expected
  | .obj [(key, condition)] => by
    rw [itemMatches, itemMatches, elementMatches_rekeyed h condition, h.same.equal_left]
  | .arr expected =>
    itemMatches_arr_rekeyed h fun _ _ hvs => placesMatch_rekeyed hvs expected
  | .obj [] | .obj (_ :: _ :: _) | .null | .bool _ | .num _ | .str _ =>
    congrArg Except.ok (h.same.matchesLeaf_eq _)
termination_by structural expected => expected

theorem placesMatch_rekeyed {vs ws : List Json} (h : List.Forall₂ Rekeyed vs ws) :
    ∀ list, placesMatch vs list = placesMatch ws list
  | [] => by rw [placesMatch, placesMatch]
  | expected :: rest => by
    cases h with
    | nil => rfl
    | cons hr h =>
      rw [placesMatch, placesMatch, itemMatches_rekeyed hr expected, placesMatch_rekeyed h rest]
termination_by structural list => list

theorem elementMatches_rekeyed {a b : Json} (h : Rekeyed a b) :
    ∀ body, elementMatches a body = elementMatches b body
  | .obj body => by
    rw [elementMatches, elementMatches, operatorsHold_rekeyed (.cons h .nil) body body,
      h.same.isObject_eq, fieldsHold_rekeyed h body]
  | .null | .bool _ | .num _ | .str _ | .arr _ => rfl
termination_by structural body => body

end

end Matching

end SchemaQuery
