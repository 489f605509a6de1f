import SchemaQuery.Proofs.ElementQueries

/-!
# Queries that can always be evaluated

An operand that fits its operator and has no key of an operator in it is compared with any value
without an error (`comparable_of_isOperatorFree`), and so the store operator that it is put under
can be evaluated on any values (`evaluates_verdict_of_fits`). Merging constraints keeps this
(`mergeClosed_evaluable`), and the filter of a query all of whose operands fit can be evaluated on
every document (`holds_evaluates`).
-/

namespace SchemaQuery

namespace Json

/-! ## Operands without operators -/

mutual

/-- No key of an object in the value starts with a dollar sign. -/
def isOperatorFree : Json → Bool
  | .arr items => isOperatorFreeItems items
  | .obj entries => isOperatorFreeEntries entries
  | _ => true

/-- No item has such a key. -/
def isOperatorFreeItems : List Json → Bool
  | [] => true
  | item :: rest => isOperatorFree item && isOperatorFreeItems rest

/-- No entry has such a key, nor has its value. -/
def isOperatorFreeEntries : List (String × Json) → Bool
  | [] => true
  | (key, value) :: rest =>
    !isOperatorKey key && (isOperatorFree value && isOperatorFreeEntries rest)

end

theorem isOperatorFreeItems_iff {items : List Json} :
    isOperatorFreeItems items = true ↔ ∀ item ∈ items, item.isOperatorFree = true := by
  induction items with
  | nil => simp [isOperatorFreeItems]
  | cons item rest ih => rw [isOperatorFreeItems, Bool.and_eq_true, ih, List.forall_mem_cons]

theorem isOperatorFreeEntries_iff {entries : List (String × Json)} :
    isOperatorFreeEntries entries = true ↔
      ∀ entry ∈ entries, isOperatorKey entry.1 = false ∧ entry.2.isOperatorFree = true := by
  induction entries with
  | nil => simp [isOperatorFreeEntries]
  | cons entry rest ih =>
    obtain ⟨key, value⟩ := entry
    rw [isOperatorFreeEntries, Bool.and_eq_true, Bool.and_eq_true, ih, List.forall_mem_cons,
      Bool.not_eq_true', and_assoc]

end Json

/-! ## Rules for conditions that can be evaluated -/

namespace Matching

open Outcome (Evaluates evaluates_ok any_evaluates)

theorem Outcome.Evaluates.not {outcome : Outcome} (h : Evaluates outcome) :
    Evaluates (Outcome.not outcome) := by
  obtain ⟨holds, rfl⟩ := h
  exact evaluates_ok _

theorem evaluates_equalsBy {test : Json → Outcome} (h : ∀ value, Evaluates (test value))
    (values : List Json) (expected : Json) : Evaluates (equalsBy values expected test) := by
  unfold equalsBy
  split
  · exact evaluates_ok true
  · exact any_evaluates fun value _ => h value

/-! ### Comparing with an operand -/

/-- Every value can be compared with the operand. -/
def Comparable (expected : Json) : Prop := ∀ actual, Evaluates (itemMatches actual expected)

theorem evaluates_placesMatch {list : List Json} (h : ∀ expected ∈ list, Comparable expected)
    (items : List Json) : Evaluates (placesMatch items list) := by
  induction list generalizing items with
  | nil => exact evaluates_ok true
  | cons expected rest ih =>
    rw [List.forall_mem_cons] at h
    cases items with
    | nil => exact evaluates_ok false
    | cons item items => exact Outcome.conjunctive_evaluates.and (h.1 item) (ih h.2 items)

theorem itemMatches_arr (actual : Json) (list : List Json) :
    itemMatches actual (.arr list) =
      match actual with
      | .arr items => if items.length = list.length then placesMatch items list else .ok false
      | _ => .ok false := by
  cases actual <;> rfl

theorem comparable_arr {list : List Json} (h : ∀ expected ∈ list, Comparable expected) :
    Comparable (.arr list) := by
  intro actual
  rw [itemMatches_arr]
  split
  · split
    · exact evaluates_placesMatch h _
    · exact evaluates_ok false
  · exact evaluates_ok false

theorem comparable_obj {entries : List (String × Json)}
    (h : ∀ entry ∈ entries, isOperatorKey entry.1 = false) : Comparable (.obj entries) := by
  intro actual
  unfold itemMatches
  split
  · rename_i key condition heq
    cases heq
    have hkey : key ≠ elemMatchKey := by
      rintro rfl
      have hfalse : isOperatorKey elemMatchKey = false := h _ List.mem_cons_self
      exact absurd hfalse (by decide)
    rw [if_neg hkey]
    exact evaluates_ok _
  · rename_i heq
    cases heq
  · exact evaluates_ok _

mutual

/-- An operand without operators is data, with which every value can be compared. -/
theorem comparable_of_isOperatorFree :
    ∀ expected : Json, expected.isOperatorFree = true → Comparable expected
  | .arr items, h => comparable_arr (comparable_of_isOperatorFreeItems items h)
  | .obj _, h => comparable_obj fun entry he => (Json.isOperatorFreeEntries_iff.1 h entry he).1
  | .null, _ | .bool _, _ | .num _, _ | .str _, _ => fun _ => evaluates_ok _

theorem comparable_of_isOperatorFreeItems :
    ∀ items : List Json, Json.isOperatorFreeItems items = true → ∀ item ∈ items, Comparable item
  | [], _, _, hm => nomatch hm
  | first :: rest, h, item, hm => by
    rw [Json.isOperatorFreeItems, Bool.and_eq_true] at h
    rcases List.mem_cons.1 hm with hfirst | hm
    · rw [hfirst]
      exact comparable_of_isOperatorFree first h.1
    · exact comparable_of_isOperatorFreeItems rest h.2 item hm

end

/-! ### Envelopes around operands -/

theorem isOperatorObject_eq_false {entries : List (String × Json)}
    (h : ∀ entry ∈ entries, isOperatorKey entry.1 = false) : isOperatorObject entries = false := by
  cases entries with
  | nil => rfl
  | cons entry rest => simp [isOperatorObject, h entry List.mem_cons_self]

theorem evaluates_conditionHolds {condition : Json} (h : condition.isOperatorFree = true)
    (values : List Json) : Evaluates (conditionHolds values condition) := by
  cases condition with
  | obj entries =>
    have hkeys := fun entry he => (Json.isOperatorFreeEntries_iff.1 h entry he).1
    rw [conditionHolds, if_neg (by simp [isOperatorObject_eq_false hkeys])]
    exact evaluates_ok _
  | arr expected =>
    rw [conditionHolds]
    refine any_evaluates fun value _ => ?_
    have hvalue := comparable_of_isOperatorFree (.arr expected) h value
    rwa [itemMatches_arr] at hvalue
  | _ => exact evaluates_equalsBy (fun _ => evaluates_ok _) _ _

theorem evaluates_fieldsHold {entries : List (String × Json)}
    (h : Json.isOperatorFreeEntries entries = true) (document : Json) :
    Evaluates (fieldsHold document entries) := by
  induction entries with
  | nil => exact evaluates_ok true
  | cons entry rest ih =>
    obtain ⟨key, condition⟩ := entry
    rw [Json.isOperatorFreeEntries, Bool.and_eq_true, Bool.and_eq_true, Bool.not_eq_true'] at h
    obtain ⟨hkey, hcondition, hrest⟩ := h
    rw [fieldsHold, ofString_of_not_operatorKey hkey]
    exact Outcome.conjunctive_evaluates.and (evaluates_conditionHolds hcondition _) (ih hrest)

/-- An object without operators in an envelope asks for the fields of an element. -/
theorem elementMatches_of_isOperatorFree {fields : List (String × Json)}
    (h : (Json.obj fields).isOperatorFree = true) (element : Json) :
    elementMatches element (.obj fields) =
      if element.isObject then fieldsHold element fields else .ok false := by
  have hkeys := fun entry he => (Json.isOperatorFreeEntries_iff.1 h entry he).1
  have hcondition : isElementCondition fields = false := by
    rw [isElementCondition, isOperatorObject_eq_false hkeys, Bool.false_and]
  rw [elementMatches, if_neg (by simp [hcondition])]

theorem comparable_envelope {operand : Json} (hobj : operand.isObject = true)
    (h : operand.isOperatorFree = true) : Comparable (envelope operand) := by
  intro actual
  cases operand with
  | obj fields =>
    show Evaluates (elementMatches actual (.obj fields))
    rw [elementMatches_of_isOperatorFree h]
    split
    · exact evaluates_fieldsHold h actual
    · exact evaluates_ok false
  | _ => cases hobj

/-! ### Store operators -/

variable {list : List Json} {operand : Json}

theorem evaluates_eq (h : Comparable operand) (values : List Json) :
    Evaluates (verdict values (StoreOperator.eq.key, operand)) := by
  simp only [verdict, operatorsHold, StoreOperator.ofKey?_key, Outcome.and_ok_true]
  exact evaluates_equalsBy h values operand

theorem evaluates_ne (h : Comparable operand) (values : List Json) :
    Evaluates (verdict values (StoreOperator.ne.key, operand)) := by
  simp only [verdict, operatorsHold, StoreOperator.ofKey?_key, Outcome.and_ok_true]
  exact (evaluates_equalsBy h values operand).not

theorem evaluates_inList (h : ∀ expected ∈ list, Comparable expected) (values : List Json)
    (key : String) : Evaluates (inList values key (.arr list)) := by
  rw [inList, equalsSome_eq_any]
  exact any_evaluates fun expected he => evaluates_equalsBy (h expected he) values expected

theorem evaluates_oneOf (h : ∀ expected ∈ list, Comparable expected) (values : List Json) :
    Evaluates (verdict values (StoreOperator.oneOf.key, .arr list)) := by
  simp only [verdict, operatorsHold, StoreOperator.ofKey?_key, Outcome.and_ok_true]
  exact evaluates_inList h values _

theorem evaluates_noneOf (h : ∀ expected ∈ list, Comparable expected) (values : List Json) :
    Evaluates (verdict values (StoreOperator.noneOf.key, .arr list)) := by
  simp only [verdict, operatorsHold, StoreOperator.ofKey?_key, Outcome.and_ok_true]
  exact (evaluates_inList h values _).not

theorem evaluates_all (h : ∀ expected ∈ list, Comparable expected) (values : List Json) :
    Evaluates (verdict values (StoreOperator.all.key, .arr list)) := by
  show Evaluates (verdict values ("$all", .arr list))
  rw [verdict_all]
  by_cases hne : list = []
  · subst hne
    exact evaluates_ok false
  · rw [containsAll_of_ne_nil values hne]
    refine any_evaluates fun value _ => ?_
    rw [containsEach_eq_all]
    refine Outcome.conjunctive_evaluates.all fun expected he => ?_
    exact any_evaluates fun element _ => h expected he element

theorem evaluates_exists (values : List Json) (wanted : Bool) :
    Evaluates (verdict values (StoreOperator.exists.key, .bool wanted)) := by
  simp only [verdict, operatorsHold, StoreOperator.ofKey?_key, Outcome.and_ok_true]
  exact evaluates_ok _

theorem evaluates_size (values : List Json) (size : Nat) :
    Evaluates (verdict values (StoreOperator.size.key, .int size)) := by
  simp only [verdict, operatorsHold, StoreOperator.ofKey?_key, Outcome.and_ok_true]
  exact evaluates_ok _

theorem evaluates_regex {text : String} (h : (Pattern.compile? {} text).isSome = true)
    (values : List Json) : Evaluates (verdict values (StoreOperator.regex.key, .str text)) := by
  obtain ⟨pattern, hpattern⟩ := Option.isSome_iff_exists.1 h
  have hoptions : Entries.get? [(StoreOperator.regex.key, Json.str text)] "$options" = none := rfl
  simp only [verdict, operatorsHold, StoreOperator.ofKey?_key, Outcome.and_ok_true, hoptions,
    matchesPattern, flagsOfOptions?, bind, Except.bind, hpattern]
  exact evaluates_ok _

/-- An envelope can be evaluated if all operators in it can. -/
theorem evaluates_elemMatch {body : List (String × Json)} (hb : Conditions body)
    (h : ∀ entry ∈ body, ∀ values, Evaluates (verdict values entry)) (values : List Json) :
    Evaluates (verdict values (elemMatchKey, .obj body)) := by
  rw [verdict_elemMatch]
  refine any_evaluates fun element _ => ?_
  rw [elementMatches_obj hb]
  exact Outcome.conjunctive_evaluates.all fun entry he => h entry he [element]

/-! ### Merged operands -/

theorem evaluates_all_append {items others : List Json}
    (hitems : ∀ values, Evaluates (verdict values ("$all", .arr items)))
    (hothers : ∀ values, Evaluates (verdict values ("$all", .arr others))) (values : List Json) :
    Evaluates (verdict values ("$all", .arr (items ++ others))) := by
  by_cases hne : items ++ others = []
  · rw [hne]
    exact evaluates_ok false
  · rw [verdict_all, containsAll_of_ne_nil values hne]
    refine any_evaluates fun value _ => ?_
    -- A single value is all that the two lists have to be tried on together.
    have hvalue := Outcome.conjunctive_evaluates.verdict_all_append (by simp) (hitems [value])
      (hothers [value])
    rwa [verdict_all, containsAll_of_ne_nil _ hne, Outcome.any_singleton] at hvalue

theorem verdict_elemMatch_singleton (element operand : Json) :
    verdict [.arr [element]] (elemMatchKey, operand) = elementMatches element operand := by
  rw [verdict_elemMatch]
  exact Outcome.or_ok_false _

theorem evaluates_elemMatch_append {body other : List (String × Json)} (hb : Conditions body)
    (ho : Conditions other) (hbody : ∀ values, Evaluates (verdict values (elemMatchKey, .obj body)))
    (hother : ∀ values, Evaluates (verdict values (elemMatchKey, .obj other)))
    (values : List Json) : Evaluates (verdict values (elemMatchKey, .obj (body ++ other))) := by
  rw [verdict_elemMatch]
  refine any_evaluates fun element _ => ?_
  have hfirst := hbody [.arr [element]]
  have hsecond := hother [.arr [element]]
  rw [verdict_elemMatch_singleton, elementMatches_obj ‹_›] at hfirst hsecond
  rw [elementMatches_obj (hb.append ho), Outcome.all_append]
  exact Outcome.conjunctive_evaluates.and hfirst hsecond

end Matching

/-! ## Operands that fit -/

/-- The operand fits the list slot of the category: a list, and where each element is put into an
envelope, a list of objects or a single object. -/
def Category.FitsList (category : Category) (operand : Json) : Prop :=
  if category.listSlot = .objects then
    operand.isObject = true ∨ ∃ items, operand = .arr items ∧ ∀ item ∈ items, item.isObject = true
  else ∃ items, operand = .arr items

/-- The operand fits the slot of the operator on a field of the category. Where a single value is
only compared with, any value fits. -/
def Operator.Fits (category : Category) (operand : Json) : Operator → Prop
  | .exists => ∃ wanted, operand = .bool wanted
  | .size => ∃ size : Nat, operand = .int size
  | .regexp | .containsRegexp =>
    ∃ text, operand = .str text ∧ (Pattern.compile? {} text).isSome = true
  | .oneOf | .notOneOf | .containsAll | .identicalTo | .containsOneOf | .containsNoneOf =>
    category.FitsList operand
  | .contains => category = .objectArray → operand.isObject = true
  | _ => True

open Matching (Comparable comparable_of_isOperatorFree)
open Matching.Outcome (Evaluates)

theorem Template.fill_of_ne_objects {slot : Slot} (h : slot ≠ .objects) (operand : Json) :
    Template.fill slot operand = operand := by
  cases slot with
  | objects => exact absurd rfl h
  | _ => rfl

/-- A list slot is filled with operands that every value can be compared with. -/
theorem exists_fill_listSlot {category : Category} {operand : Json}
    (hf : category.FitsList operand) (h : operand.isOperatorFree = true) :
    ∃ list, Template.fill category.listSlot operand = .arr list ∧
      ∀ expected ∈ list, Comparable expected := by
  unfold Category.FitsList at hf
  split at hf
  · rename_i hslot
    rw [hslot]
    rcases hf with hobj | ⟨items, rfl, hitems⟩
    · refine ⟨[envelope operand], ?_, ?_⟩
      · cases operand with
        | obj => rfl
        | _ => cases hobj
      · rw [List.forall_mem_singleton]
        exact Matching.comparable_envelope hobj h
    · refine ⟨items.map envelope, rfl, ?_⟩
      rw [List.forall_mem_map]
      intro item hm
      exact Matching.comparable_envelope (hitems item hm) (Json.isOperatorFreeItems_iff.1 h item hm)
  · rename_i hslot
    obtain ⟨items, rfl⟩ := hf
    refine ⟨items, Template.fill_of_ne_objects hslot _, fun item hm => ?_⟩
    exact comparable_of_isOperatorFree item (Json.isOperatorFreeItems_iff.1 h item hm)

namespace Operator

variable {category : Category} {operator asked : Operator} {operand : Json}

/-- What fits an operator of a list fits the operator that it asks of a single element. -/
theorem Fits.onElement (hf : operator.Fits category operand)
    (h : operator.onElement? = some asked) : asked.Fits category operand := by
  cases operator <;> cases h <;> exact hf

theorem evaluates_verdict_of_onElement?_eq_none (hnone : operator.onElement? = none)
    (hf : operator.Fits category operand) (h : operand.isOperatorFree = true)
    (values : List Json) :
    Evaluates (Matching.verdict values
      (operator.store.key, operator.storeOperand category operand)) := by
  have hoperand := comparable_of_isOperatorFree operand h
  cases operator
  case equalTo => exact Matching.evaluates_eq hoperand values
  case notEqualTo => exact Matching.evaluates_ne hoperand values
  case greaterThan | greaterOrEqualTo | lessThan | lessOrEqualTo =>
    simp only [store, Matching.verdict, Matching.operatorsHold, StoreOperator.ofKey?_key,
      Matching.Outcome.and_ok_true]
    exact Matching.Outcome.evaluates_ok _
  case oneOf =>
    obtain ⟨list, hlist, hcomparable⟩ := exists_fill_listSlot hf h
    rw [storeOperand, hlist]
    exact Matching.evaluates_oneOf hcomparable values
  case notOneOf | containsNoneOf =>
    obtain ⟨list, hlist, hcomparable⟩ := exists_fill_listSlot hf h
    rw [storeOperand, hlist]
    exact Matching.evaluates_noneOf hcomparable values
  case «exists» =>
    obtain ⟨wanted, rfl⟩ := hf
    exact Matching.evaluates_exists values wanted
  case regexp =>
    obtain ⟨text, rfl, htext⟩ := hf
    exact Matching.evaluates_regex htext values
  case contains =>
    refine Matching.evaluates_all ?_ values
    rw [List.forall_mem_singleton]
    split
    · rename_i hc
      exact Matching.comparable_envelope (hf hc) h
    · exact hoperand
  case containsAll =>
    obtain ⟨list, hlist, hcomparable⟩ := exists_fill_listSlot hf h
    rw [storeOperand, hlist]
    exact Matching.evaluates_all hcomparable values
  case identicalTo =>
    obtain ⟨list, hlist, hcomparable⟩ := exists_fill_listSlot hf h
    rw [storeOperand, hlist]
    exact Matching.evaluates_eq (Matching.comparable_arr hcomparable) values
  case notContains =>
    refine Matching.evaluates_noneOf ?_ values
    rw [List.forall_mem_singleton]
    exact hoperand
  case size =>
    obtain ⟨size, rfl⟩ := hf
    exact Matching.evaluates_size values size
  all_goals cases hnone

/-- With an operand that fits, an operator can be evaluated on any values. -/
theorem evaluates_verdict_of_fits (hf : operator.Fits category operand)
    (h : operand.isOperatorFree = true) (values : List Json) :
    Evaluates (Matching.verdict values
      (operator.store.key, operator.storeOperand category operand)) := by
  cases hasked : operator.onElement? with
  | none => exact evaluates_verdict_of_onElement?_eq_none hasked hf h values
  | some asked =>
    have hnone : asked.onElement? = none := by
      cases operator <;> cases hasked <;> rfl
    rw [store_of_onElement? hasked, storeOperand_of_onElement? hasked]
    refine Matching.evaluates_elemMatch ⟨by simp, ?_⟩ ?_ values
    · rw [Entries.keys_cons, Entries.keys_nil, List.forall_mem_singleton]
      exact asked.isCondition_store
    · rw [List.forall_mem_singleton]
      exact evaluates_verdict_of_onElement?_eq_none hnone (hf.onElement hasked) h

end Operator

namespace Constraint

/-! ## Constraints that can be evaluated -/

/-- All operators of the constraint can be evaluated on any values. -/
structure Evaluable (constraint : Constraint) : Prop where
  emitted : Emitted constraint
  verdict : ∀ key value, Entries.get? constraint key = some value →
    ∀ values, Evaluates (Matching.verdict values (key, value))

theorem mergeClosed_evaluable : MergeClosed Evaluable := by
  intro target fragment merged ht hf h
  have hlist : ∀ key ∈ listKeys, ∀ items others,
      (∀ values, Evaluates (Matching.verdict values (key, .arr items))) →
      (∀ values, Evaluates (Matching.verdict values (key, .arr others))) →
      ∀ values, Evaluates (Matching.verdict values (key, .arr (items ++ others))) := by
    intro key hk items others hitems hothers values
    simp only [listKeys, List.mem_cons, List.not_mem_nil, or_false] at hk
    rcases hk with rfl | rfl
    · exact Matching.evaluates_all_append hitems hothers values
    · exact Matching.Outcome.conjunctive_evaluates.verdict_nin_append (hitems values)
        (hothers values)
  obtain ⟨hemitted, hverdict⟩ :=
    mergeClosed_emitted_and hlist (fun _ _ hb ho => Matching.evaluates_elemMatch_append hb ho)
      ⟨ht.emitted, ht.verdict⟩ ⟨hf.emitted, hf.verdict⟩ h
  exact ⟨hemitted, hverdict⟩

/-- The operand fits the operator with the name, and has no key of an operator in it. -/
def OperandFits (category : Category) (entry : String × Json) : Prop :=
  ∀ operator, Operator.ofName? entry.1 = some operator →
    operator.Fits category entry.2 ∧ entry.2.isOperatorFree = true

/-- The operand of an entry fits, or all operands of the element query that it is. -/
structure EntryFits (category : Category) (entry : String × Json) : Prop where
  operand : OperandFits category entry
  element : ∀ element inner, category.element? = some element →
    entry = (Operator.oneFulfills, .obj inner) → ∀ other ∈ inner, OperandFits element other

variable {path : String} {category : Category} {entry : String × Json}
  {fragments : List Constraint}

theorem entryFits_of_operator {operator : Operator} (ho : Operator.ofName? entry.1 = some operator)
    (hf : operator.Fits category entry.2) (h : entry.2.isOperatorFree = true) :
    EntryFits category entry where
  operand other hother := by
    obtain rfl : operator = other := Option.some.inj (ho.symm.trans hother)
    exact ⟨hf, h⟩
  element _ _ _ he := by
    rw [he] at ho
    cases ho

theorem evaluable_ofOperator (hf : OperandFits category entry)
    (h : ofOperator path category entry.1 entry.2 = .ok fragments) :
    ∀ fragment ∈ fragments, Evaluable fragment := by
  obtain ⟨operator, ho, -, rfl⟩ := ofOperator_eq_ok_iff.1 h
  obtain ⟨hfits, hfree⟩ := hf operator ho
  rw [List.forall_mem_singleton]
  refine ⟨emitted_singleton operator category entry.2, fun key value hv values => ?_⟩
  rw [List.mem_singleton.1 (Entries.mem_of_get?_eq_some hv)]
  exact Operator.evaluates_verdict_of_fits hfits hfree values

theorem evaluable_inEnvelope {body : Constraint} (h : Evaluable body) :
    Evaluable (inEnvelope body) := by
  refine ⟨emitted_inEnvelope h.emitted, fun key value hv values => ?_⟩
  rw [List.mem_singleton.1 (Entries.mem_of_get?_eq_some hv)]
  refine Matching.evaluates_elemMatch h.emitted.conditions (fun entry he => ?_) values
  exact h.verdict _ _ (Entries.get?_eq_some_of_mem h.emitted.nodup he)

/-- The fragments of an entry can be evaluated if its operand fits. -/
theorem evaluable_fragmentsOf (hf : EntryFits category entry)
    (h : fragmentsOf path category entry = .ok fragments) :
    ∀ fragment ∈ fragments, Evaluable fragment := by
  rw [fragmentsOf] at h
  split at h
  · rename_i element inner he hk hv
    obtain ⟨bodies, hb, rfl⟩ := compileElement_eq_ok_iff.1 h
    rw [List.forall_mem_map]
    have hinner := hf.element element inner he (Prod.ext (of_decide_eq_true hk) hv)
    refine fun body hbody => evaluable_inEnvelope (mergeClosed_evaluable.compile ?_ hb body hbody)
    intro other ho fragments hok
    rw [fragmentsOf_operator (.inl (Category.element?_of_element? he))] at hok
    exact evaluable_ofOperator (hinner other ho) hok
  · cases h
  · exact evaluable_ofOperator hf.operand h

end Constraint

/-! ## Queries -/

namespace Query

open Constraint (EntryFits Evaluable)
open Matching (Outcome)

variable {types : TypeMap} {query : Json} {filter : Filter}

/-- The operands of all entries of the query fit, in items and outside of combinators. -/
def OperandsFit (types : TypeMap) (query : Json) : Prop :=
  ∀ node ∈ terminalNodes types query,
    (∀ entry ∈ node.ownEntries, EntryFits node.category entry) ∧
    ∀ item ∈ node.items, ∀ entry ∈ item.2, EntryFits node.category entry

/-- No path that can be queried is read as an operator. -/
def FieldPaths (types : TypeMap) : Prop :=
  ∀ path ∈ Entries.keys types.paths, isOperatorKey path = false

theorem evaluable_clauses (hpaths : FieldPaths types) (h : compile types query = .ok filter)
    (hfits : OperandsFit types query) :
    (∀ clause ∈ filter.all, isOperatorKey clause.path = false ∧ Evaluable clause.constraint) ∧
      ∀ alternative ∈ filter.any, ∀ clause ∈ alternative,
        isOperatorKey clause.path = false ∧ Evaluable clause.constraint := by
  have hclosed : ∀ path : String, Constraint.MergeClosed fun constraint =>
      isOperatorKey path = false ∧ Evaluable constraint :=
    fun _ _ _ _ ht hf hm => ⟨ht.1, Constraint.mergeClosed_evaluable ht.2 hf.2 hm⟩
  refine forall_clauses h hclosed ?_
  rintro _ fragment ⟨node, hn, rfl, entry, he, fragments, hok, hf⟩
  obtain ⟨hbound, -⟩ := exists_compile_of_mem h hn
  have hentry : EntryFits node.category entry := by
    rcases he with he | ⟨item, hi, he⟩
    · exact (hfits node hn).1 entry he
    · exact (hfits node hn).2 item hi entry he
  refine ⟨hpaths _ (Entries.mem_keys_iff_get?.2 ⟨_, hbound.category⟩), ?_⟩
  exact Constraint.evaluable_fragmentsOf hentry hok fragment hf

theorem evaluates_clauseHolds {clause : Clause} (document : Json)
    (hpath : isOperatorKey clause.path = false) (h : Evaluable clause.constraint) :
    Evaluates (Matching.clauseHolds document clause) := by
  rw [Matching.holds_clause hpath h.emitted.conditions]
  refine Outcome.conjunctive_evaluates.all fun entry he => ?_
  exact h.verdict _ _ (Entries.get?_eq_some_of_mem h.emitted.nodup he) _

end Query

end SchemaQuery
