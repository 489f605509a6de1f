import SchemaQuery.Proofs.Evaluability
import SchemaQuery.Proofs.Soundness

/-!
# Operators that ask what a list contains

Compiled together, operators ask for no less than each of them alone
(`alone_ne_false_of_holds`). This is why a list under `contains_all` is still asked for when the
operand of `contains` has been appended to it (`contains_keeps_containsAll`); only the empty list
gets lost (`contains_replaces_empty`). On a list of scalars, the operators are searches for scalars
in the list (`alone_contains_iff` and those after it), and so they are the quantifiers of each other
(`scalarLists_algebra`).
-/

namespace SchemaQuery

/-- The operators that ask which values a list contains. -/
def Operator.onContents : List Operator :=
  [.contains, .containsAll, .containsOneOf, .containsNoneOf, .notContains]

/-- What lists of objects allow, every list allows. -/
theorem legal_of_objectArray {category : Category} (ha : category.isArray = true)
    {operator : Operator} (h : (OperatorTable.lookup .objectArray operator).isSome = true) :
    Constraint.Legal category operator.name := by
  have hall : ∀ category ∈ Category.all, category.isArray = true → ∀ operator ∈ Operator.all,
      (OperatorTable.lookup .objectArray operator).isSome = true →
        (OperatorTable.lookup category operator).isSome = true := by decide
  rw [Constraint.Legal, OperatorTable.find?, Operator.ofName?_name, Option.bind_some]
  exact hall category (Category.mem_all category) ha operator operator.mem_all h

theorem legal_of_mem_onContents {category : Category} (ha : category.isArray = true)
    {operator : Operator} (ho : operator ∈ Operator.onContents) :
    Constraint.Legal category operator.name := by
  have hall : ∀ operator ∈ Operator.onContents,
      (OperatorTable.lookup .objectArray operator).isSome = true := by decide
  exact legal_of_objectArray ha (hall operator ho)

namespace Query

open Matching (Outcome verdict)

variable {format : Format} {path : String} {category : Category} {document : Json}

/-! ## Operators together -/

/-- Where the filter of several operators holds, none of them is refuted alone. The list that has
all of no elements is left out, as no list has. -/
theorem alone_ne_false_of_holds (hp : (TypeMap.ofFormat format).get? path = some category)
    {entries : List (String × Json)}
    (hl : ∀ key ∈ Entries.keys entries, Constraint.Legal category key)
    (hne : containsAllOfNothing ∉ entries) {filter : Filter}
    (h : compileFor format (.entry path (.obj entries)) = .ok filter)
    (hholds : Matching.holds document filter.toDocument = .ok true) :
    ∀ entry ∈ entries, Alone (· ≠ .ok false) format document path entry := by
  rw [compileFor_legal hp hl] at h
  cases h
  have hcompile := Constraint.compile_legal path hl
  rw [Matching.holds_required, Outcome.all_map, Outcome.all_eq_true_iff] at hholds
  refine alone_ne_false_of_clauses hp hcompile (fun constraint hc => ?_) hne
  exact ⟨constraint, .refl constraint, Constraint.emitted_of_compile hcompile constraint hc,
    hholds constraint hc⟩

/-- A list under `contains_all` and a value under `contains`, in either order. -/
inductive BothContained (list : List Json) (value : Json) : List (String × Json) → Prop
  | allFirst : BothContained list value
      [(Operator.containsAll.name, .arr list), (Operator.contains.name, value)]
  | oneFirst : BothContained list value
      [(Operator.contains.name, value), (Operator.containsAll.name, .arr list)]

variable {list : List Json} {value : Json} {entries : List (String × Json)}

theorem BothContained.mem_iff (h : BothContained list value entries) {entry : String × Json} :
    entry ∈ entries ↔ entry = (Operator.containsAll.name, .arr list) ∨
      entry = (Operator.contains.name, value) := by
  cases h with
  | allFirst => simp
  | oneFirst => simp [or_comm]

theorem BothContained.legal (ha : category.isArray = true) (h : BothContained list value entries) :
    ∀ key ∈ Entries.keys entries, Constraint.Legal category key := by
  intro key hk
  obtain ⟨operand, hget⟩ := Entries.mem_keys_iff_get?.1 hk
  rcases h.mem_iff.1 (Entries.mem_of_get?_eq_some hget) with he | he
  · rw [(Prod.mk.inj he).1]
    exact legal_of_mem_onContents ha (by decide)
  · rw [(Prod.mk.inj he).1]
    exact legal_of_mem_onContents ha (by decide)

/-- What is asked of a list with `contains_all` is still asked when a further value is asked for
with `contains`, as long as it is anything. -/
theorem contains_keeps_containsAll (hp : (TypeMap.ofFormat format).get? path = some category)
    (ha : category.isArray = true) (hne : list ≠ []) (h : BothContained list value entries) :
    ∃ both alone, compileFor format (.entry path (.obj entries)) = .ok both ∧
      compileFor format
        (.entry path (.entry Operator.containsAll.name (.arr list))) = .ok alone ∧
      ∀ document, Matching.holds document both.toDocument = .ok true →
        Outcome.Evaluates (Matching.holds document alone.toDocument) →
        Matching.holds document alone.toDocument = .ok true := by
  have hlegal := h.legal ha
  have hboth := compileFor_legal hp hlegal
  have halone := compileAlone_eq_ok hp (Constraint.fragmentsOf_legal path
    (hlegal _ (Entries.mem_keys_of_mem (h.mem_iff.2 (.inl rfl)))))
  have hnothing : containsAllOfNothing ∉ entries := by
    rw [h.mem_iff, containsAllOfNothing]
    rintro (he | he)
    · cases (Prod.mk.inj he).2
      exact hne rfl
    · exact absurd (Prod.mk.inj he).1 (by decide)
  refine ⟨_, _, hboth, halone, fun document hholds hevaluates => hevaluates.eq_true ?_⟩
  obtain ⟨filter, hfilter, hfalse⟩ :=
    alone_ne_false_of_holds hp hlegal hnothing hboth hholds _ (h.mem_iff.2 (.inl rfl))
  rw [halone] at hfilter
  cases hfilter
  exact hfalse

/-- An empty list under `contains_all` is lost beside `contains`: appending to it a value gives a
list that asks for that value only. -/
theorem contains_replaces_empty (hp : (TypeMap.ofFormat format).get? path = some category)
    (ha : category.isArray = true) (h : BothContained [] value entries) :
    compileFor format (.entry path (.obj entries)) =
      compileAlone format path (Operator.contains.name, value) := by
  have hlegal : Constraint.Legal category Operator.contains.name :=
    legal_of_mem_onContents ha (by decide)
  have hcontains : Constraint.fragmentsOf path category (Operator.contains.name, value) = .ok _ :=
    Constraint.fragmentsOf_legal path hlegal
  have hempty : Operator.containsAll.storeOperand category (.arr []) = .arr [] := by
    cases category <;> rfl
  rw [compileFor_legal hp (h.legal ha), compileAlone_eq_ok hp hcontains]
  simp only [Constraint.fragments]
  cases h with
  | allFirst =>
    simp only [List.map_cons, List.map_nil, Constraint.ofEntry_name, hempty]
    rfl
  | oneFirst =>
    simp only [List.map_cons, List.map_nil, Constraint.ofEntry_name, hempty]
    rfl

theorem get?_tagFormat : (TypeMap.ofFormat tagFormat).get? "tags" = some .stringArray := by cbv

/-- Asks for certain tags all together. -/
def allTagsFilter (tags : List Json) : Filter := ⟨[⟨"tags", [("$all", .arr tags)]⟩], []⟩

theorem tags_keep_containsAll :
    compileFor tagFormat (.entry "tags" (.obj
      [("contains", .str "y"), ("contains_all", .arr [.str "x"])])) =
        .ok (allTagsFilter [.str "y", .str "x"]) ∧
    compileFor tagFormat (.entry "tags" (.entry "contains_all" (.arr [.str "x"]))) =
      .ok (allTagsFilter [.str "x"]) ∧
    Matching.holds tagDocument (allTagsFilter [.str "y", .str "x"]).toDocument = .ok true ∧
    Matching.holds tagDocument (allTagsFilter [.str "x"]).toDocument = .ok true := by
  have hne : [Json.str "x"] ≠ [] := by simp
  have hboth : compileFor tagFormat (.entry "tags" (.obj
      [("contains", .str "y"), ("contains_all", .arr [.str "x"])])) =
        .ok (allTagsFilter [.str "y", .str "x"]) := by cbv
  have halone : compileFor tagFormat (.entry "tags" (.entry "contains_all" (.arr [.str "x"]))) =
      .ok (allTagsFilter [.str "x"]) := by cbv
  have hholds :
      Matching.holds tagDocument (allTagsFilter [.str "y", .str "x"]).toDocument = .ok true := by
    cbv
  have hevaluates :
      Outcome.Evaluates (Matching.holds tagDocument (allTagsFilter [.str "x"]).toDocument) :=
    ⟨true, by cbv⟩
  obtain ⟨both, alone, hb, ha, hkeeps⟩ :=
    contains_keeps_containsAll get?_tagFormat rfl hne (.oneFirst : BothContained _ (.str "y") _)
  cases hboth.symm.trans hb
  cases halone.symm.trans ha
  exact ⟨hboth, halone, hholds, hkeeps tagDocument hholds hevaluates⟩

/-- No list has all of no elements, but beside `contains` nothing is left of this requirement. -/
theorem contains_weakens_containsAll :
    compileFor tagFormat (.entry "tags" (.obj
      [("contains_all", .arr []), ("contains", .str "x")])) =
        .ok (allTagsFilter [.str "x"]) ∧
    compileFor tagFormat (.entry "tags" (.entry "contains_all" (.arr []))) =
      .ok (allTagsFilter []) ∧
    Matching.holds tagDocument (allTagsFilter [.str "x"]).toDocument = .ok true ∧
    Matching.holds tagDocument (allTagsFilter []).toDocument = .ok false :=
  ⟨by cbv, by cbv, by cbv, by cbv⟩

end Query

namespace Json

/-- Neither a list nor an object. -/
def isScalar : Json → Bool
  | .arr _ | .obj _ => false
  | _ => true

variable {expected : Json}

theorem matchesLeaf_arr (items : List Json) (h : expected.isScalar = true) :
    (Json.arr items).matchesLeaf expected = false := by
  cases expected with
  | arr | obj => cases h
  | _ => rfl

/-- Some item of a list equals the value. -/
def found (items : List Json) (expected : Json) : Bool := items.any (·.matchesLeaf expected)

end Json

namespace Matching

open Json (found)

variable {items list : List Json} {expected : Json}

/-! ## A path that reaches one list -/

/-- Equality with a list that a path reaches is tried on the list itself and on its elements. -/
theorem equalsBy_list (items : List Json) (expected : Json) (test : Json → Outcome) :
    equalsBy [.arr items] expected test =
      Outcome.or (test (.arr items)) fun _ => Outcome.any test items := by
  have hcandidates : Json.candidates [.arr items] = .arr items :: items := by
    rw [Json.candidates, List.flatMap_singleton, Json.elements]
  rw [equalsBy, if_neg (by simp), hcandidates, Outcome.any_cons]

theorem inList_singleton (values : List Json) (key : String) (expected : Json) :
    inList values key (.arr [expected]) = equalsBy values expected (itemMatches · expected) := by
  rw [inList, equalsSome_eq_any, Outcome.any_singleton]

theorem containsAll_list (hne : list ≠ []) (items : List Json) :
    containsAll [.arr items] (.arr list) =
      Outcome.all (fun expected => Outcome.any (itemMatches · expected) items) list := by
  rw [containsAll_of_ne_nil _ hne, Outcome.any_singleton, containsEach_eq_all, Json.elementsOrSelf]

/-! ### Searches for scalars -/

theorem itemMatches_scalar (h : expected.isScalar = true) (value : Json) :
    itemMatches value expected = .ok (value.matchesLeaf expected) := by
  cases expected with
  | arr | obj => cases h
  | _ => rfl

theorem any_itemMatches_scalar (h : expected.isScalar = true) (items : List Json) :
    Outcome.any (itemMatches · expected) items = .ok (found items expected) := by
  simp only [itemMatches_scalar h, Outcome.any_ok]
  rfl

/-- A list as a whole never equals a scalar, so equality with a scalar is a search in it. -/
theorem equalsBy_scalar (h : expected.isScalar = true) (items : List Json) :
    equalsBy [.arr items] expected (itemMatches · expected) = .ok (found items expected) := by
  rw [equalsBy_list, itemMatches_scalar h, Json.matchesLeaf_arr items h, Outcome.or_false,
    any_itemMatches_scalar h]

theorem inList_scalars (h : ∀ expected ∈ list, expected.isScalar = true) (items : List Json)
    (key : String) : inList [.arr items] key (.arr list) = .ok (list.any (found items)) := by
  rw [inList, equalsSome_eq_any, ← Outcome.any_ok]
  exact Outcome.any_congr fun expected he => equalsBy_scalar (h expected he) items

theorem containsAll_scalars (hne : list ≠ []) (h : ∀ expected ∈ list, expected.isScalar = true)
    (items : List Json) :
    containsAll [.arr items] (.arr list) = .ok (list.all (found items)) := by
  rw [containsAll_list hne, ← Outcome.all_ok]
  exact Outcome.all_congr fun expected he => any_itemMatches_scalar (h expected he) items

/-- A single value that is no list is equal to one of the scalars, or not. -/
theorem inList_of_not_isArray (h : ∀ expected ∈ list, expected.isScalar = true) {value : Json}
    (hv : value.isArray = false) (key : String) :
    inList [value] key (.arr list) = .ok (list.any value.matchesLeaf) := by
  have hcandidates : Json.candidates [value] = [value] := by
    cases value with
    | arr => cases hv
    | _ => rfl
  rw [inList, equalsSome_eq_any, ← Outcome.any_ok]
  refine Outcome.any_congr fun expected he => ?_
  rw [equalsBy, if_neg (by simp), hcandidates, Outcome.any_singleton,
    itemMatches_scalar (h expected he)]

/-- Looking for an element among scalars is looking for one of the scalars among the elements. -/
theorem verdict_elemMatch_in_scalars (h : ∀ expected ∈ list, expected.isScalar = true)
    (hflat : ∀ item ∈ items, item.isArray = false) :
    verdict [.arr items] (elemMatchKey, .entry "$in" (.arr list)) =
      .ok (list.any (found items)) := by
  have hin : IsCondition "$in" := Operator.isCondition_store .oneOf
  have hbody : Conditions [("$in", .arr list)] := ⟨by simp, by simpa using hin⟩
  have helement : ∀ item ∈ items, elementMatches item (.entry "$in" (.arr list)) =
      .ok (list.any item.matchesLeaf) := by
    intro item hm
    rw [Json.entry, elementMatches_obj hbody, Outcome.all_singleton, verdict_in,
      inList_of_not_isArray h (hflat item hm)]
  have hswap : (items.any fun item => list.any item.matchesLeaf) = list.any (found items) := by
    rw [Bool.eq_iff_iff]
    simp only [found, List.any_eq_true]
    constructor
    · rintro ⟨item, hi, expected, he, heq⟩
      exact ⟨expected, he, item, hi, heq⟩
    · rintro ⟨expected, he, item, hi, heq⟩
      exact ⟨item, hi, expected, he, heq⟩
  rw [verdict_elemMatch, List.flatMap_singleton, Json.elements, Outcome.any_congr helement,
    Outcome.any_ok, hswap]

end Matching

namespace Query

open Json (found)
open Matching (Outcome verdict)
open Matching.Outcome (Evaluates)

/-! ## Operators on lists of scalars -/

/-- Compiled alone at its path, the operator with the operand selects the document. -/
def Selects (format : Format) (document : Json) (path : String) (operator : Operator)
    (operand : Json) : Prop :=
  Alone (· = .ok true) format document path (operator.name, operand)

/-- On a path that could be a field, an operator alone is decided by its store operator. -/
theorem alone_operator_iff {Q : Outcome → Prop} {format : Format} {document : Json} {path : String}
    {category : Category} (hp : (TypeMap.ofFormat format).get? path = some category)
    (hpath : isOperatorKey path = false) {operator : Operator}
    (hl : Constraint.Legal category operator.name) (operand : Json) :
    Alone Q format document path (operator.name, operand) ↔
      Q (verdict (Path.resolve document path)
        (operator.store.key, operator.storeOperand category operand)) := by
  have hconditions := (Constraint.emitted_singleton operator category operand).conditions
  rw [alone_iff hp (Constraint.fragmentsOf_legal path hl), Constraint.ofEntry_name,
    List.map_singleton, Outcome.all_singleton, Matching.holds_clause hpath hconditions,
    Outcome.all_singleton]

/-- The path is that of a list of scalars, and the document has there exactly one list, in which
there is no further one. -/
structure ScalarList (format : Format) (document : Json) (path : String) (items : List Json) :
    Prop where
  category : ∃ category, (TypeMap.ofFormat format).get? path = some category ∧
    category.isArray = true ∧ category ≠ .objectArray
  field : isOperatorKey path = false
  reached : Path.resolve document path = [.arr items]
  flat : ∀ item ∈ items, item.isArray = false

section ScalarLists

variable {format : Format} {document : Json} {path : String} {items list : List Json} {value : Json}
  {Q : Outcome → Prop}

theorem ScalarList.alone_iff (h : ScalarList format document path items) {operator : Operator}
    (ho : operator ∈ Operator.onContents) {operand asked : Json} {answer : Bool}
    (hasked : ∀ category : Category, category.isArray = true → category ≠ .objectArray →
      operator.storeOperand category operand = asked)
    (hverdict : verdict [.arr items] (operator.store.key, asked) = .ok answer) :
    Alone Q format document path (operator.name, operand) ↔ Q (.ok answer) := by
  obtain ⟨category, hp, ha, hc⟩ := h.category
  rw [alone_operator_iff hp h.field (legal_of_mem_onContents ha ho), h.reached,
    hasked category ha hc, hverdict]

theorem ScalarList.alone_contains_iff (h : ScalarList format document path items)
    (hv : value.isScalar = true) :
    Alone Q format document path (Operator.contains.name, value) ↔ Q (.ok (found items value)) := by
  have hverdict : verdict [.arr items] ("$all", .arr [value]) = .ok (found items value) := by
    rw [Matching.verdict_all, Matching.containsAll_list (by simp), Outcome.all_singleton,
      Matching.any_itemMatches_scalar hv]
  exact h.alone_iff (by decide) (fun _ _ hc => by rw [Operator.storeOperand, if_neg hc]) hverdict

theorem ScalarList.alone_notContains_iff (h : ScalarList format document path items)
    (hv : value.isScalar = true) :
    Alone Q format document path (Operator.notContains.name, value) ↔
      Q (.ok (!found items value)) := by
  have hverdict : verdict [.arr items] ("$nin", .arr [value]) = .ok (!found items value) := by
    rw [Matching.verdict_nin, Matching.inList_singleton, Matching.equalsBy_scalar hv]
    rfl
  exact h.alone_iff (by decide) (fun _ _ _ => rfl) hverdict

/-- Only on lists of objects are the elements of an operand wrapped. -/
theorem fill_listSlot_of_ne_objectArray {category : Category} (ha : category.isArray = true)
    (hc : category ≠ .objectArray) (operand : Json) :
    Template.fill category.listSlot operand = operand := by
  refine Template.fill_of_ne_objects ?_ operand
  cases category <;> first | exact absurd rfl hc | exact absurd ha (by decide) | decide

theorem ScalarList.alone_containsAll_iff (h : ScalarList format document path items)
    (hne : list ≠ []) (hl : ∀ value ∈ list, value.isScalar = true) :
    Alone Q format document path (Operator.containsAll.name, .arr list) ↔
      Q (.ok (list.all (found items))) :=
  h.alone_iff (by decide) (fun _ ha hc => fill_listSlot_of_ne_objectArray ha hc _)
    ((Matching.verdict_all _ _).trans (Matching.containsAll_scalars hne hl items))

theorem ScalarList.alone_containsOneOf_iff (h : ScalarList format document path items)
    (hl : ∀ value ∈ list, value.isScalar = true) :
    Alone Q format document path (Operator.containsOneOf.name, .arr list) ↔
      Q (.ok (list.any (found items))) :=
  h.alone_iff (by decide)
    (fun _ ha hc => by rw [Operator.storeOperand, fill_listSlot_of_ne_objectArray ha hc])
    (Matching.verdict_elemMatch_in_scalars hl h.flat)

theorem ScalarList.alone_containsNoneOf_iff (h : ScalarList format document path items)
    (hl : ∀ value ∈ list, value.isScalar = true) :
    Alone Q format document path (Operator.containsNoneOf.name, .arr list) ↔
      Q (.ok (!list.any (found items))) := by
  have hverdict : verdict [.arr items] ("$nin", .arr list) = .ok (!list.any (found items)) := by
    rw [Matching.verdict_nin, Matching.inList_scalars hl]
    rfl
  exact h.alone_iff (by decide) (fun _ ha hc => fill_listSlot_of_ne_objectArray ha hc _) hverdict

/-- On a list of scalars, the operators can always be evaluated. Containing all or some of several
scalars is containing each or one of them, containing none is not containing each of them, and not
to contain a scalar is the opposite of containing it. -/
theorem scalarLists_algebra (h : ScalarList format document path items) :
    (∀ value : Json, value.isScalar = true →
      Alone Evaluates format document path (Operator.contains.name, value) ∧
      Alone Evaluates format document path (Operator.notContains.name, value) ∧
      (Selects format document path .notContains value ↔
        ¬Selects format document path .contains value)) ∧
    ∀ list : List Json, list ≠ [] → (∀ value ∈ list, value.isScalar = true) →
      (∀ operator ∈ [Operator.containsAll, .containsOneOf, .containsNoneOf],
        Alone Evaluates format document path (operator.name, .arr list)) ∧
      (Selects format document path .containsAll (.arr list) ↔
        ∀ value ∈ list, Selects format document path .contains value) ∧
      (Selects format document path .containsOneOf (.arr list) ↔
        ∃ value ∈ list, Selects format document path .contains value) ∧
      (Selects format document path .containsNoneOf (.arr list) ↔
        ∀ value ∈ list, Selects format document path .notContains value) := by
  have hcontains : ∀ value : Json, value.isScalar = true →
      (Selects format document path .contains value ↔ found items value = true) := by
    intro value hv
    rw [Selects, h.alone_contains_iff hv, Except.ok.injEq]
  have hnot : ∀ value : Json, value.isScalar = true →
      (Selects format document path .notContains value ↔ found items value = false) := by
    intro value hv
    rw [Selects, h.alone_notContains_iff hv, Except.ok.injEq, Bool.not_eq_true']
  refine ⟨fun value hv => ⟨?_, ?_, ?_⟩, fun list hne hl => ⟨?_, ?_, ?_, ?_⟩⟩
  · exact (h.alone_contains_iff hv).2 ⟨_, rfl⟩
  · exact (h.alone_notContains_iff hv).2 ⟨_, rfl⟩
  · rw [hcontains value hv, hnot value hv, Bool.not_eq_true]
  · simp only [List.forall_mem_cons, List.not_mem_nil, false_implies, implies_true, and_true]
    exact ⟨(h.alone_containsAll_iff hne hl).2 ⟨_, rfl⟩, (h.alone_containsOneOf_iff hl).2 ⟨_, rfl⟩,
      (h.alone_containsNoneOf_iff hl).2 ⟨_, rfl⟩⟩
  · rw [Selects, h.alone_containsAll_iff hne hl, Except.ok.injEq, List.all_eq_true]
    exact forall₂_congr fun value hv => (hcontains value (hl value hv)).symm
  · rw [Selects, h.alone_containsOneOf_iff hl, Except.ok.injEq, List.any_eq_true]
    exact exists_congr fun value => and_congr_right fun hv => (hcontains value (hl value hv)).symm
  · rw [Selects, h.alone_containsNoneOf_iff hl, Except.ok.injEq, Bool.not_eq_true',
      List.any_eq_false]
    refine forall₂_congr fun value hv => ?_
    rw [hnot value (hl value hv), Bool.not_eq_true]

theorem tags_algebra :
    ScalarList tagFormat tagDocument "tags" [.str "x", .str "y"] ∧
    (Selects tagFormat tagDocument "tags" .notContains (.str "z") ↔
      ¬Selects tagFormat tagDocument "tags" .contains (.str "z")) ∧
    (Selects tagFormat tagDocument "tags" .containsOneOf (.arr [.str "x", .str "z"]) ↔
      ∃ value ∈ [Json.str "x", .str "z"],
        Selects tagFormat tagDocument "tags" .contains value) := by
  have hlist : ScalarList tagFormat tagDocument "tags" [.str "x", .str "y"] :=
    ⟨⟨.stringArray, get?_tagFormat, rfl, by decide⟩, rfl, by cbv, by simp [Json.isArray]⟩
  have halgebra := scalarLists_algebra hlist
  have htags := halgebra.2 [.str "x", .str "z"] (by simp) (by simp [Json.isScalar])
  exact ⟨hlist, (halgebra.1 (.str "z") rfl).2.2, htags.2.2.1⟩

end ScalarLists

end Query

end SchemaQuery
