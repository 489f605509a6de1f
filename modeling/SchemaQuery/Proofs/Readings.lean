import SchemaQuery.Proofs.Evaluation
import SchemaQuery.Proofs.KeyOrder

/-!
# How the parts of a filter are read

What a part of a filter is read as depends on where it stands (`Reading`). Relations between
outcomes that hold of negations and of chains of conditions as soon as they hold of the members
(`Outcome.Congruence`) carry over from the parts of a filter to the whole: from the operand of an
operator (`related_operator`), the value of a key (`related_field`) and the items of a list
(`related_items`).
-/

namespace SchemaQuery.Matching

/-! ## Relations between outcomes -/

namespace Outcome

variable {α β : Type} {R : Outcome → Outcome → Prop} {first second : Outcome}

theorem not_eq_map (outcome : Outcome) : Outcome.not outcome = (!·) <$> outcome := by
  cases outcome <;> rfl

theorem or_eq_not_and (first next : Outcome) :
    (Outcome.or first fun _ => next) =
      Outcome.not (Outcome.and (Outcome.not first) fun _ => Outcome.not next) := by
  rcases first with _ | _ | _ <;> rcases next with _ | _ | _ <;> rfl

/-- A relation that negations and chains of conditions inherit from their members. -/
structure Congruence (R : Outcome → Outcome → Prop) : Prop where
  refl (outcome : Outcome) : R outcome outcome
  map {first second : Outcome} (f : Bool → Bool) (h : R first second) :
    R (f <$> first) (f <$> second)
  and {first second next other : Outcome} (h : R first second) (ho : R next other) :
    R (Outcome.and first fun _ => next) (Outcome.and second fun _ => other)

namespace Congruence

theorem of_eq (hR : Congruence R) (h : first = second) : R first second := h ▸ hR.refl first

theorem not (hR : Congruence R) (h : R first second) :
    R (Outcome.not first) (Outcome.not second) := by
  rw [not_eq_map, not_eq_map]
  exact hR.map _ h

theorem or (hR : Congruence R) {next other : Outcome} (h : R first second) (ho : R next other) :
    R (Outcome.or first fun _ => next) (Outcome.or second fun _ => other) := by
  rw [or_eq_not_and, or_eq_not_and]
  exact hR.not (hR.and (hR.not h) (hR.not ho))

variable {test : α → Outcome} {check : β → Outcome} {xs : List α} {ys : List β}

theorem all (hR : Congruence R) (h : List.Forall₂ (fun x y => R (test x) (check y)) xs ys) :
    R (Outcome.all test xs) (Outcome.all check ys) := by
  induction h with
  | nil => exact hR.refl _
  | cons hxy _ ih => exact hR.and hxy ih

theorem any (hR : Congruence R) (h : List.Forall₂ (fun x y => R (test x) (check y)) xs ys) :
    R (Outcome.any test xs) (Outcome.any check ys) := by
  induction h with
  | nil => exact hR.refl _
  | cons hxy _ ih => exact hR.or hxy ih

theorem any_of_forall (hR : Congruence R) {check : α → Outcome} (h : ∀ x, R (test x) (check x)) :
    R (Outcome.any test xs) (Outcome.any check xs) :=
  hR.any (List.forall₂_same.2 fun x _ => h x)

end Congruence

end Outcome

open Outcome (Congruence)

/-! ## Readings -/

/-- What a part of a filter is read as. -/
inductive Reading where
  /-- A filter of documents. -/
  | filter
  /-- The clauses of a logical operator. -/
  | clauses
  /-- The condition on the values of a path. -/
  | condition
  /-- A list of operands. -/
  | operands
  /-- An operand to which values are compared. -/
  | operand
  /-- The body of an envelope. -/
  | body
  | data
  deriving DecidableEq

namespace Reading

/-- How the operand of an operator on values is read. -/
def ofOperator (key : String) : Reading :=
  match StoreOperator.ofKey? key with
  | some .eq | some .ne => .operand
  | some .oneOf | some .noneOf | some .all => .operands
  | some .elemMatch => .body
  | some .not => .condition
  | _ => .data

/-- How the value of a key of a filter is read. -/
def ofFilterKey (key : String) : Reading :=
  match FilterKey.ofString key with
  | .logical _ => .clauses
  | .path => .condition
  | .unknown => .data

/-- How the value of a key is read in an object with these entries. -/
def ofKey (reading : Reading) (entries : List (String × Json)) (key : String) : Reading :=
  match reading with
  | .filter => ofFilterKey key
  | .condition => if isOperatorObject entries then ofOperator key else .data
  | .operand => if Entries.keys entries = [elemMatchKey] then .body else .data
  | .body => if isElementCondition entries then ofOperator key else ofFilterKey key
  | .clauses | .operands | .data => .data

/-- How the items of a list are read. -/
def ofItem : Reading → Reading
  | .clauses => .filter
  | .condition | .operands | .operand => .operand
  | .filter | .body | .data => .data

end Reading

/-! ## Related parts -/

variable {R : Outcome → Outcome → Prop}

/-- Under a reading, two parts have related outcomes. -/
def Reading.Related (R : Outcome → Outcome → Prop) : Reading → Json → Json → Prop
  | .filter, f, g => ∀ document, R (filterHolds document f) (filterHolds document g)
  | .clauses, f, g => ∀ document key operator,
      R (clausesHold document key operator f) (clausesHold document key operator g)
  | .condition, f, g => f.isObject = g.isObject ∧
      ∀ values, R (conditionHolds values f) (conditionHolds values g)
  | .operands, f, g => (∀ values key, R (inList values key f) (inList values key g)) ∧
      ∀ values, R (containsAll values f) (containsAll values g)
  | .operand, f, g => f.isNull = g.isNull ∧ ∀ value, R (itemMatches value f) (itemMatches value g)
  | .body, f, g => ∀ element, R (elementMatches element f) (elementMatches element g)
  | .data, f, g => Json.Same Eq f g

theorem related_refl (hR : Congruence R) (reading : Reading) (value : Json) :
    reading.Related R value value := by
  cases reading with
  | filter => exact fun document => hR.refl _
  | clauses => exact fun document key operator => hR.refl _
  | condition => exact ⟨rfl, fun values => hR.refl _⟩
  | operands => exact ⟨fun values key => hR.refl _, fun values => hR.refl _⟩
  | operand => exact ⟨rfl, fun value => hR.refl _⟩
  | body => exact fun element => hR.refl _
  | data => exact .refl (fun _ => rfl) value

/-! ### Lists -/

theorem someClause_eq_any (document : Json) (wanted : Bool) (clauses : List Json) :
    someClause document wanted clauses =
      Outcome.any (fun clause => (filterHolds document clause).map (· == wanted)) clauses := by
  induction clauses with
  | nil => rfl
  | cons clause rest ih => rw [someClause, ih, Outcome.any_cons]

section Lists

variable {xs ys : List Json}

theorem related_equalsBy (hR : Congruence R) {expected other : Json}
    (h : Reading.operand.Related R expected other) (values : List Json) :
    R (equalsBy values expected fun value => itemMatches value expected)
      (equalsBy values other fun value => itemMatches value other) := by
  rw [equalsBy, equalsBy, h.1]
  split
  · exact hR.refl _
  · exact hR.any_of_forall h.2

theorem related_placesMatch (hR : Congruence R)
    (h : List.Forall₂ (Reading.operand.Related R) xs ys) (items : List Json) :
    R (placesMatch items xs) (placesMatch items ys) := by
  induction h generalizing items with
  | nil => exact hR.refl _
  | cons hxy _ ih =>
    cases items with
    | nil => exact hR.refl _
    | cons item items =>
      rw [placesMatch, placesMatch]
      exact hR.and (hxy.2 item) (ih items)

theorem related_itemMatches_arr (hR : Congruence R)
    (h : List.Forall₂ (Reading.operand.Related R) xs ys) (value : Json) :
    R (itemMatches value (.arr xs)) (itemMatches value (.arr ys)) := by
  cases value with
  | arr items =>
    rw [itemMatches, itemMatches, h.length_eq]
    split
    · exact related_placesMatch hR h items
    · exact hR.refl _
  | _ => exact hR.refl _

theorem related_inList (hR : Congruence R) (h : List.Forall₂ (Reading.operand.Related R) xs ys)
    (values : List Json) (key : String) :
    R (inList values key (.arr xs)) (inList values key (.arr ys)) := by
  rw [inList, inList, equalsSome_eq_any, equalsSome_eq_any]
  exact hR.any (h.imp fun _ _ hxy => related_equalsBy hR hxy values)

theorem related_containsEach (hR : Congruence R)
    (h : List.Forall₂ (Reading.operand.Related R) xs ys) (elements : List Json) :
    R (containsEach elements xs) (containsEach elements ys) := by
  rw [containsEach_eq_all, containsEach_eq_all]
  exact hR.all (h.imp fun _ _ hxy => hR.any_of_forall hxy.2)

theorem related_containsAll (hR : Congruence R)
    (h : List.Forall₂ (Reading.operand.Related R) xs ys) (values : List Json) :
    R (containsAll values (.arr xs)) (containsAll values (.arr ys)) := by
  cases h with
  | nil => exact hR.refl _
  | cons hxy h =>
    rw [containsAll, containsAll]
    exact hR.any_of_forall fun value => related_containsEach hR (.cons hxy h) _

theorem related_clausesHold (hR : Congruence R)
    (h : List.Forall₂ (Reading.filter.Related R) xs ys) (document : Json) (key : String)
    (operator : LogicalOperator) :
    R (clausesHold document key operator (.arr xs))
      (clausesHold document key operator (.arr ys)) := by
  cases h with
  | nil => exact hR.refl _
  | cons hxy h =>
    rw [clausesHold, clausesHold, someClause_eq_any, someClause_eq_any]
    exact hR.map _ (hR.any ((List.Forall₂.cons hxy h).imp fun _ _ hr => hR.map _ (hr document)))

theorem related_items (hR : Congruence R) {reading : Reading} (hl : xs.length = ys.length)
    (h : ∀ x y, (x, y) ∈ xs.zip ys → reading.ofItem.Related R x y) :
    reading.Related R (.arr xs) (.arr ys) := by
  have hrel : List.Forall₂ (reading.ofItem.Related R) xs ys :=
    List.forall₂_iff_zip.2 ⟨hl, fun hm => h _ _ hm⟩
  cases reading with
  | filter => exact fun document => hR.refl _
  | clauses => exact related_clausesHold hR hrel
  | condition =>
    refine ⟨rfl, fun values => ?_⟩
    rw [conditionHolds_arr, conditionHolds_arr]
    exact hR.any_of_forall (related_itemMatches_arr hR hrel)
  | operands => exact ⟨related_inList hR hrel, related_containsAll hR hrel⟩
  | operand => exact ⟨rfl, related_itemMatches_arr hR hrel⟩
  | body => exact fun element => hR.refl _
  | data => exact .arr hl h

end Lists

/-! ### Operands that are data -/

theorem ordered_of_same {x y : Json} (h : Json.Same Eq x y) (values : List Json)
    (wanted : Ordering → Bool) : ordered values x wanted = ordered values y wanted := by
  have horder (value : Json) : value.order? x = value.order? y := by
    cases h with
    | num h => rw [h]
    | _ => cases value <;> rfl
  rw [ordered, ordered]
  simp only [horder]

theorem existsAs_of_same {x y : Json} (h : Json.Same Eq x y) (values : List Json) :
    existsAs values x = existsAs values y := by
  cases h <;> rfl

theorem hasSize_of_same {x y : Json} (h : Json.Same Eq x y) (values : List Json) :
    hasSize values x = hasSize values y := by
  cases h with
  | num h => rw [h]
  | _ => rfl

theorem flagsOfOptions?_of_same {x y : Json} (h : Json.Same Eq x y) (text : String) :
    flagsOfOptions? text (some x) = flagsOfOptions? text (some y) := by
  cases h <;> rfl

theorem matchesPattern_of_same {x y : Json} (h : Json.Same Eq x y) (values : List Json)
    {options others : Option Json}
    (hflags : ∀ text, flagsOfOptions? text options = flagsOfOptions? text others) :
    matchesPattern values x options = matchesPattern values y others := by
  cases h with
  | str text => rw [matchesPattern, matchesPattern, hflags]
  | _ => rfl

/-! ### Objects -/

theorem fieldsHold_eq_all (document : Json) (entries : List (String × Json)) :
    fieldsHold document entries =
      Outcome.all (fun entry => fieldsHold document [entry]) entries := by
  induction entries with
  | nil => rfl
  | cons entry rest ih =>
    rw [Outcome.all_cons, ← ih, ← fieldsHold_append, List.singleton_append]

/-- All operators of an object see the same siblings. -/
theorem operatorsHold_eq_all_singleton (values : List Json) (siblings : List (String × Json))
    (entries : List (String × Json)) :
    operatorsHold values siblings entries =
      Outcome.all (fun entry => operatorsHold values siblings [entry]) entries := by
  induction entries with
  | nil => rfl
  | cons entry rest ih =>
    obtain ⟨key, operand⟩ := entry
    rw [Outcome.all_cons, ← ih, operatorsHold, operatorsHold, operatorsHold, Outcome.and_assoc]
    rfl

theorem related_field (hR : Congruence R) {key : String} {x y : Json}
    (h : (Reading.ofFilterKey key).Related R x y) (document : Json) :
    R (fieldsHold document [(key, x)]) (fieldsHold document [(key, y)]) := by
  simp only [fieldsHold, Outcome.and_ok_true]
  rw [Reading.ofFilterKey] at h
  cases hk : FilterKey.ofString key with
  | logical operator =>
    rw [hk] at h
    exact h document key operator
  | unknown => exact hR.refl _
  | path =>
    rw [hk] at h
    exact h.2 _

section Objects

variable {es gs : List (String × Json)}

theorem related_operator (hR : Congruence R) {key : String} {x y : Json}
    (h : (Reading.ofOperator key).Related R x y)
    (hflags : ∀ text, flagsOfOptions? text (Entries.get? es "$options") =
      flagsOfOptions? text (Entries.get? gs "$options"))
    (hregex : Entries.contains es "$regex" = Entries.contains gs "$regex") (values : List Json) :
    R (operatorsHold values es [(key, x)]) (operatorsHold values gs [(key, y)]) := by
  simp only [operatorsHold, Outcome.and_ok_true]
  rw [Reading.ofOperator] at h
  cases hk : StoreOperator.ofKey? key with
  | none => exact hR.refl _
  | some operator =>
    rw [hk] at h
    cases operator with
    | eq => exact related_equalsBy hR h values
    | ne => exact hR.not (related_equalsBy hR h values)
    | gt | gte | lt | lte => exact hR.of_eq (congrArg Except.ok (ordered_of_same h values _))
    | oneOf => exact h.1 values key
    | noneOf => exact hR.not (h.1 values key)
    | «exists» => exact hR.of_eq (existsAs_of_same h values)
    | regex => exact hR.of_eq (matchesPattern_of_same h values hflags)
    | options =>
      rw [hregex]
      exact hR.refl _
    | all => exact h.2 values
    | elemMatch => exact hR.any_of_forall h
    | size => exact hR.of_eq (hasSize_of_same h values)
    | not =>
      change R (if x.isObject then Outcome.not (conditionHolds values x) else _)
        (if y.isObject then Outcome.not (conditionHolds values y) else _)
      rw [h.1]
      split
      · exact hR.not (h.2 values)
      · exact hR.refl _

/-! ### Whether keys are operators -/

theorem isOperatorObject_iff :
    isOperatorObject es = true ↔
      Entries.keys es ≠ [] ∧ ∀ key ∈ Entries.keys es, isOperatorKey key = true := by
  cases es <;> simp [isOperatorObject, Entries.keys]

theorem isElementCondition_iff :
    isElementCondition es = true ↔ isOperatorObject es = true ∧
      ∀ key ∈ Entries.keys es, LogicalOperator.ofKey? key = none := by
  rw [isElementCondition, Bool.and_eq_true, Bool.not_eq_true', List.any_eq_false]
  simp [Entries.keys]

end Objects

end SchemaQuery.Matching
