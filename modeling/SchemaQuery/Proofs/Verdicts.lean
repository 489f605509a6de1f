import SchemaQuery.Matching.Evaluate
import SchemaQuery.Proofs.Outcomes

/-!
# Operators one by one

As long as no `$options` is around, each operator of an object is decided by its own operand, and
the object holds when all its operators do (`conditionHolds_obj`, `elementMatches_obj`). For the
operators whose operands are merged, it is shown what a longer operand says of its parts
(`verdict_all_ne_false`, `verdict_nin_of_subset`, `verdict_elemMatch_ne_false`) and what the parts
say of it (`Conjunctive.verdict_all_append`, `Conjunctive.verdict_nin_append`).
-/

namespace SchemaQuery.Matching

/-- The outcome of a single operator on the values that a path reaches. -/
def verdict (values : List Json) (entry : String × Json) : Outcome :=
  operatorsHold values [entry] [entry]

/-- The key of an operator that is decided by its own operand. -/
structure IsCondition (key : String) : Prop where
  operator : isOperatorKey key = true
  notLogical : LogicalOperator.ofKey? key = none
  notOptions : key ≠ "$options"

/-- An object of operators, each of which is decided by its own operand. -/
structure Conditions (body : List (String × Json)) : Prop where
  ne_nil : body ≠ []
  keys : ∀ key ∈ Entries.keys body, IsCondition key

theorem Conditions.mem {body : List (String × Json)} (h : Conditions body) {entry : String × Json}
    (he : entry ∈ body) : IsCondition entry.1 :=
  h.keys _ (List.mem_map_of_mem he)

theorem Conditions.append {body other : List (String × Json)} (hb : Conditions body)
    (ho : Conditions other) : Conditions (body ++ other) where
  ne_nil hnil := hb.ne_nil (List.append_eq_nil_iff.1 hnil).1
  keys key hk := by
    rw [Entries.keys, List.map_append, List.mem_append] at hk
    exact hk.elim (hb.keys key) (ho.keys key)

theorem Conditions.isOperatorObject {body : List (String × Json)} (h : Conditions body) :
    isOperatorObject body = true := by
  have hall : body.all (fun entry => isOperatorKey entry.1) = true :=
    List.all_eq_true.2 fun entry he => (h.mem he).operator
  cases body with
  | nil => exact absurd rfl h.ne_nil
  | cons entry rest => simpa [Matching.isOperatorObject] using hall

theorem Conditions.isElementCondition {body : List (String × Json)} (h : Conditions body) :
    isElementCondition body = true := by
  have hany : body.any (fun entry => (LogicalOperator.ofKey? entry.1).isSome) = false := by
    rw [List.any_eq_false]
    intro entry he
    simp [(h.mem he).notLogical]
  rw [Matching.isElementCondition, h.isOperatorObject]
  simpa using hany

theorem Conditions.get?_options {body : List (String × Json)} (h : Conditions body) :
    Entries.get? body "$options" = none :=
  Entries.get?_eq_none_iff.2 fun hm => (h.keys _ hm).notOptions rfl

/-! ## An object of operators -/

/-- Without `$options` among its siblings, an operator is decided as if it stood alone. -/
theorem operatorsHold_cons (values : List Json) {siblings : List (String × Json)}
    (hs : Entries.get? siblings "$options" = none) {entry : String × Json}
    (he : entry.1 ≠ "$options") (rest : List (String × Json)) :
    operatorsHold values siblings (entry :: rest) =
      Outcome.and (verdict values entry) fun _ => operatorsHold values siblings rest := by
  obtain ⟨key, operand⟩ := entry
  have hk : StoreOperator.ofKey? key ≠ some .options :=
    fun h => he (StoreOperator.ofKey?_eq_some_iff.1 h).symm
  have hg : Entries.get? [(key, operand)] "$options" = none := by
    rw [Entries.get?, if_neg he]
    rfl
  rw [verdict, operatorsHold, operatorsHold]
  cases h : StoreOperator.ofKey? key with
  | none => rfl
  | some operator =>
    cases operator with
    | options => exact absurd h hk
    | regex => simp only [hs, hg, operatorsHold, Outcome.and_ok_true]
    | _ => simp only [operatorsHold, Outcome.and_ok_true]

theorem operatorsHold_eq_all (values : List Json) {siblings : List (String × Json)}
    (hs : Entries.get? siblings "$options" = none) {entries : List (String × Json)}
    (he : ∀ entry ∈ entries, entry.1 ≠ "$options") :
    operatorsHold values siblings entries = Outcome.all (verdict values) entries := by
  induction entries with
  | nil => rfl
  | cons entry rest ih =>
    rw [operatorsHold_cons values hs (he entry List.mem_cons_self), Outcome.all_cons,
      ih fun other ho => he other (List.mem_cons_of_mem _ ho)]

theorem Conditions.operatorsHold {body : List (String × Json)} (h : Conditions body)
    (values : List Json) :
    Matching.operatorsHold values body body = Outcome.all (verdict values) body :=
  operatorsHold_eq_all values h.get?_options fun _ he => (h.mem he).notOptions

theorem conditionHolds_obj {body : List (String × Json)} (h : Conditions body)
    (values : List Json) :
    conditionHolds values (.obj body) = Outcome.all (verdict values) body := by
  rw [conditionHolds, if_pos h.isOperatorObject, h.operatorsHold]

theorem elementMatches_obj {body : List (String × Json)} (h : Conditions body) (element : Json) :
    elementMatches element (.obj body) = Outcome.all (verdict [element]) body := by
  rw [elementMatches, if_pos h.isElementCondition, h.operatorsHold]

/-! ## One operator -/

theorem verdict_eq (values : List Json) (operand : Json) :
    verdict values ("$eq", operand) =
      equalsBy values operand fun value => itemMatches value operand := by
  have hk : StoreOperator.ofKey? "$eq" = some .eq := StoreOperator.ofKey?_key .eq
  simp only [verdict, operatorsHold, hk, Outcome.and_ok_true]

theorem verdict_in (values : List Json) (operand : Json) :
    verdict values ("$in", operand) = inList values "$in" operand := by
  have hk : StoreOperator.ofKey? "$in" = some .oneOf := StoreOperator.ofKey?_key .oneOf
  simp only [verdict, operatorsHold, hk, Outcome.and_ok_true]

theorem verdict_all (values : List Json) (operand : Json) :
    verdict values ("$all", operand) = containsAll values operand := by
  have hk : StoreOperator.ofKey? "$all" = some .all := StoreOperator.ofKey?_key .all
  simp only [verdict, operatorsHold, hk, Outcome.and_ok_true]

theorem verdict_nin (values : List Json) (operand : Json) :
    verdict values ("$nin", operand) = Outcome.not (inList values "$nin" operand) := by
  have hk : StoreOperator.ofKey? "$nin" = some .noneOf := StoreOperator.ofKey?_key .noneOf
  simp only [verdict, operatorsHold, hk, Outcome.and_ok_true]

theorem verdict_elemMatch (values : List Json) (operand : Json) :
    verdict values (elemMatchKey, operand) =
      Outcome.any (elementMatches · operand) (values.flatMap Json.elements) := by
  have hk : StoreOperator.ofKey? elemMatchKey = some .elemMatch :=
    StoreOperator.ofKey?_key .elemMatch
  simp only [verdict, operatorsHold, hk, Outcome.and_ok_true]

theorem containsEach_eq_all (elements list : List Json) :
    containsEach elements list =
      Outcome.all (fun expected => Outcome.any (itemMatches · expected) elements) list := by
  induction list with
  | nil => rfl
  | cons expected rest ih => rw [containsEach, ih, Outcome.all_cons]

theorem equalsSome_eq_any (values list : List Json) :
    equalsSome values list =
      Outcome.any (fun expected => equalsBy values expected (itemMatches · expected)) list := by
  induction list with
  | nil => rfl
  | cons expected rest ih => rw [equalsSome, ih, Outcome.any_cons]

theorem containsAll_of_ne_nil (values : List Json) {list : List Json} (h : list ≠ []) :
    containsAll values (.arr list) =
      Outcome.any (fun value => containsEach value.elementsOrSelf list) values := by
  cases list with
  | nil => exact absurd rfl h
  | cons first rest => rw [containsAll]

/-! ### From the longer operand to its parts -/

/-- Where all elements of a list are required with success, no shorter list is refuted. -/
theorem verdict_all_ne_false {values list part : List Json} (hp : part ≠ [])
    (hsub : ∀ expected ∈ part, expected ∈ list)
    (h : verdict values ("$all", .arr list) = .ok true) :
    verdict values ("$all", .arr part) ≠ .ok false := by
  have hl : list ≠ [] := by
    obtain ⟨expected, he⟩ := List.exists_mem_of_ne_nil _ hp
    exact List.ne_nil_of_mem (hsub expected he)
  rw [verdict_all, containsAll_of_ne_nil values hl] at h
  obtain ⟨value, hv, heach⟩ := Outcome.exists_of_any_eq_true h
  rw [containsEach_eq_all, Outcome.all_eq_true_iff] at heach
  rw [verdict_all, containsAll_of_ne_nil values hp]
  refine Outcome.any_ne_false hv ?_
  rw [containsEach_eq_all, Outcome.all_eq_true_iff]
  exact fun expected he => heach expected (hsub expected he)

/-- Where none of a list is found, none of a shorter list is. -/
theorem verdict_nin_of_subset {values list part : List Json}
    (hsub : ∀ expected ∈ part, expected ∈ list)
    (h : verdict values ("$nin", .arr list) = .ok true) :
    verdict values ("$nin", .arr part) = .ok true := by
  rw [verdict_nin, Outcome.not_eq_true_iff, inList, equalsSome_eq_any,
    Outcome.any_eq_false_iff] at h ⊢
  exact fun expected he => h expected (hsub expected he)

/-- Where an element satisfies a body, no body with fewer operators is refuted. -/
theorem verdict_elemMatch_ne_false {values : List Json} {body part : List (String × Json)}
    (hb : Conditions body) (hp : Conditions part) (hsub : ∀ entry ∈ part, entry ∈ body)
    (h : verdict values (elemMatchKey, .obj body) = .ok true) :
    verdict values (elemMatchKey, .obj part) ≠ .ok false := by
  rw [verdict_elemMatch] at h ⊢
  obtain ⟨element, he, hm⟩ := Outcome.exists_of_any_eq_true h
  rw [elementMatches_obj hb, Outcome.all_eq_true_iff] at hm
  refine Outcome.any_ne_false he ?_
  rw [elementMatches_obj hp, Outcome.all_eq_true_iff]
  exact fun entry hentry => hm entry (hsub entry hentry)

/-! ### From the parts to the longer operand -/

namespace Outcome

/-- With at most one value to look at, requiring two lists together is requiring one after the
other. -/
theorem Conjunctive.verdict_all_append {Q : Outcome → Prop} (hQ : Conjunctive Q)
    {values xs ys : List Json} (hv : values.length ≤ 1)
    (hx : Q (verdict values ("$all", .arr xs))) (hy : Q (verdict values ("$all", .arr ys))) :
    Q (verdict values ("$all", .arr (xs ++ ys))) := by
  by_cases hxs : xs = []
  · rw [hxs]
    exact hy
  by_cases hys : ys = []
  · rw [hys, List.append_nil]
    exact hx
  have hxy : xs ++ ys ≠ [] := fun h => hxs (List.append_eq_nil_iff.1 h).1
  rw [verdict_all, containsAll_of_ne_nil _ ‹_›] at hx hy ⊢
  match values, hv with
  | [], _ => exact hx
  | [value], _ =>
    simp only [any_singleton, containsEach_eq_all] at hx hy ⊢
    rw [all_append]
    exact hQ.and hx hy

theorem Conjunctive.verdict_nin_append {Q : Outcome → Prop} (hQ : Conjunctive Q)
    {values xs ys : List Json} (hx : Q (verdict values ("$nin", .arr xs)))
    (hy : Q (verdict values ("$nin", .arr ys))) :
    Q (verdict values ("$nin", .arr (xs ++ ys))) := by
  rw [verdict_nin, inList, equalsSome_eq_any] at hx hy ⊢
  rw [any_append, not_or]
  exact hQ.and hx hy

end Outcome

end SchemaQuery.Matching
