import SchemaQuery.Proofs.SubDocuments

/-!
# Documents that retrieve themselves

A document whose keys all name fields satisfies itself as a filter (`Matching.fieldsHold_self`):
each key reaches its own value, and equality finds a value equal to itself
(`Matching.itemMatches_self`). The same is true of the parts of such a document
(`Path.forall_mem_descend`), so the operators of a list that is found in it select the document when
their operands are taken from that list (`Query.documents_retrieve_themselves`).
-/

namespace SchemaQuery

/-! ## Keys that name fields -/

/-- The key names a field in filters: it is no operator, and it is a path of one segment. -/
def isFieldName (key : String) : Bool := !isOperatorKey key && !key.toList.contains '.'

theorem isFieldName_iff {key : String} :
    isFieldName key = true ↔ isOperatorKey key = false ∧ '.' ∉ key.toList := by
  simp [isFieldName]

namespace Json

mutual

/-- All keys of objects in the value name fields. -/
def isPlain : Json → Bool
  | .arr items => isPlainItems items
  | .obj entries => isPlainEntries entries
  | _ => true

/-- All keys in the items name fields. -/
def isPlainItems : List Json → Bool
  | [] => true
  | item :: rest => isPlain item && isPlainItems rest

/-- All keys of the entries and in their values name fields. -/
def isPlainEntries : List (String × Json) → Bool
  | [] => true
  | (key, value) :: rest => isFieldName key && (isPlain value && isPlainEntries rest)

end

theorem isPlain_arr_iff {items : List Json} :
    (Json.arr items).isPlain = true ↔ ∀ item ∈ items, item.isPlain = true := by
  rw [isPlain]
  induction items with
  | nil => simp [isPlainItems]
  | cons item rest ih => rw [isPlainItems, Bool.and_eq_true, ih, List.forall_mem_cons]

theorem isPlain_obj_iff {entries : List (String × Json)} :
    (Json.obj entries).isPlain = true ↔
      ∀ entry ∈ entries, isFieldName entry.1 = true ∧ entry.2.isPlain = true := by
  rw [isPlain]
  induction entries with
  | nil => simp [isPlainEntries]
  | cons entry rest ih =>
    obtain ⟨key, value⟩ := entry
    rw [isPlainEntries, Bool.and_eq_true, Bool.and_eq_true, ih, List.forall_mem_cons, and_assoc]

/-- In a value whose keys name fields there are no operators. -/
theorem isOperatorFree_of_isPlain {value : Json} (h : value.isPlain = true) :
    value.isOperatorFree = true := by
  induction value using Json.induction with
  | arr items ih =>
    rw [isPlain_arr_iff] at h
    exact isOperatorFreeItems_iff.2 fun item hm => ih item hm (h item hm)
  | obj entries ih =>
    rw [isPlain_obj_iff] at h
    refine isOperatorFreeEntries_iff.2 fun entry he => ?_
    exact ⟨(isFieldName_iff.1 (h entry he).1).1, ih entry he (h entry he).2⟩
  | _ => rfl

/-! ## Equality with oneself -/

/-- A value is equal to itself as data, as long as no object in it repeats a key. -/
theorem equal_refl {value : Json} (hd : value.Distinct) : value.equal value = true := by
  induction value using Json.induction with
  | null => rfl
  | bool | str => exact beq_self_eq_true _
  | num n => cases n <;> exact beq_self_eq_true _
  | arr items ih =>
    rw [distinct_arr_iff] at hd
    exact equalItems_iff.2 (List.forall₂_same.2 fun item hm => ih item hm (hd item hm))
  | obj entries ih =>
    rw [distinct_obj_iff] at hd
    refine equal_obj_iff.2 ⟨rfl, fun entry he => ⟨entry.2, ?_, ih entry he (hd.2 entry he)⟩⟩
    exact Entries.get?_eq_some_of_mem hd.1 he

theorem matchesLeaf_refl {value : Json} (hd : value.Distinct) :
    value.matchesLeaf value = true := by
  cases value with
  | num n => exact beq_self_eq_true _
  | _ => exact equal_refl hd

end Json

/-! ## Parts of a document -/

namespace Path

/-- What a value has in common with all its parts, the values that a path reaches have as well. -/
theorem forall_mem_descend {P : Json → Prop}
    (harr : ∀ items, P (.arr items) → ∀ item ∈ items, P item)
    (hobj : ∀ entries, P (.obj entries) → ∀ entry ∈ entries, P entry.2) {value : Json}
    (h : P value) (names : List String) : ∀ reached ∈ descend value names, P reached := by
  induction value using Json.induction generalizing names with
  | arr items ih =>
    cases names with
    | nil => exact List.forall_mem_singleton.2 h
    | cons name rest =>
      simp only [descend]
      cases Text.word? name with
      | some index =>
        simp only [descendItem_eq]
        cases hget : items[index]? with
        | none => exact List.forall_mem_nil _
        | some item =>
          have hitem := List.mem_of_getElem? hget
          exact ih item hitem (harr items h item hitem) rest
      | none =>
        simp only [descendObjects_eq, List.mem_flatMap]
        rintro reached ⟨item, hitem, hreached⟩
        split at hreached
        · exact ih item hitem (harr items h item hitem) (name :: rest) reached hreached
        · cases hreached
  | obj entries ih =>
    cases names with
    | nil => exact List.forall_mem_singleton.2 h
    | cons name rest =>
      simp only [descend, descendField_eq]
      cases hget : Entries.get? entries name with
      | none => exact List.forall_mem_nil _
      | some value =>
        have hentry := Entries.mem_of_get?_eq_some hget
        exact ih _ hentry (hobj entries h _ hentry) rest
  | _ =>
    cases names with
    | nil => exact List.forall_mem_singleton.2 h
    | cons name rest => exact List.forall_mem_nil _

/-- Of an object, the name of a field reaches the value of the field. -/
theorem resolve_obj (entries : List (String × Json)) {field : String} (h : '.' ∉ field.toList) :
    resolve (.obj entries) field = (Entries.get? entries field).toList := by
  have hsegments : segments field = [field] := by
    rw [segments, splitDots_eq_singleton h, List.map_singleton, String.ofList_toList]
  rw [resolve, hsegments, descend, descendField_eq]
  cases Entries.get? entries field with
  | none => rfl
  | some value => cases value <;> rfl

end Path

/-- A document, or a part of one: no object in it repeats a key, and all keys name fields. -/
structure Json.IsPart (value : Json) : Prop where
  distinct : value.Distinct
  plain : value.isPlain = true

theorem Json.IsPart.item {items : List Json} (h : (Json.arr items).IsPart) :
    ∀ item ∈ items, item.IsPart := fun item hm =>
  ⟨distinct_arr_iff.1 h.distinct item hm, isPlain_arr_iff.1 h.plain item hm⟩

theorem Json.IsPart.field {entries : List (String × Json)} (h : (Json.obj entries).IsPart) :
    ∀ entry ∈ entries, entry.2.IsPart := fun entry he =>
  ⟨(distinct_obj_iff.1 h.distinct).2 entry he, (isPlain_obj_iff.1 h.plain entry he).2⟩

theorem Json.IsPart.of_mem_resolve {document value : Json} (h : document.IsPart) {path : String}
    (hv : value ∈ Path.resolve document path) : value.IsPart :=
  Path.forall_mem_descend (fun _ h => h.item) (fun _ h => h.field) h _ value hv

namespace Matching

/-! ## A document as its own filter -/

/-- An operand that every value can be compared with, and that some value is found equal to. -/
structure Finds (operand value : Json) : Prop where
  comparable : Comparable operand
  found : itemMatches value operand = .ok true

variable {values items : List Json} {ask : Json → Json}

theorem placesMatch_map (h : ∀ item ∈ items, Finds (ask item) item) :
    placesMatch items (items.map ask) = .ok true := by
  induction items with
  | nil => rfl
  | cons item rest ih =>
    rw [List.forall_mem_cons] at h
    rw [List.map_cons, placesMatch, h.1.found, ih h.2]
    rfl

theorem Finds.list (h : ∀ item ∈ items, Finds (ask item) item) :
    Finds (.arr (items.map ask)) (.arr items) where
  comparable := comparable_arr (List.forall_mem_map.2 fun item hm => (h item hm).comparable)
  found := by rw [itemMatches, if_pos (by rw [List.length_map]), placesMatch_map h]

theorem Finds.equalsBy {operand value : Json} (h : Finds operand value)
    (hv : value ∈ Json.candidates values) :
    Matching.equalsBy values operand (itemMatches · operand) = .ok true := by
  rw [Matching.equalsBy]
  split
  · rfl
  · exact (Outcome.any_eq_true_iff fun other _ => h.comparable other).2 ⟨value, hv, h.found⟩

theorem itemMatches_self {value : Json} (h : value.IsPart) :
    itemMatches value value = .ok true := by
  induction value using Json.induction with
  | null | bool | num | str => exact congrArg Except.ok (Json.matchesLeaf_refl h.distinct)
  | arr items ih =>
    have hitems : ∀ item ∈ items, Finds (id item) item := fun item hm =>
      ⟨comparable_of_isOperatorFree item (Json.isOperatorFree_of_isPlain (h.item item hm).plain),
        ih item hm (h.item item hm)⟩
    have hlist := (Finds.list hitems).found
    rwa [List.map_id] at hlist
  | obj entries =>
    rw [itemMatches_of_isOperatorFree (Json.isOperatorFree_of_isPlain h.plain),
      Json.equal_refl h.distinct]

theorem finds_self {value : Json} (h : value.IsPart) : Finds value value :=
  ⟨comparable_of_isOperatorFree value (Json.isOperatorFree_of_isPlain h.plain), itemMatches_self h⟩

/-- A condition without operators asks for a value that equals it. -/
theorem conditionHolds_of_isOperatorFree {condition : Json} (h : condition.isOperatorFree = true)
    (values : List Json) :
    conditionHolds values condition = equalsBy values condition (itemMatches · condition) := by
  cases condition with
  | obj entries =>
    have hkeys := fun entry he => (Json.isOperatorFreeEntries_iff.1 h entry he).1
    have htest : (itemMatches · (.obj entries)) = fun value : Json =>
        .ok (value.equal (.obj entries)) := funext (itemMatches_of_isOperatorFree h)
    rw [conditionHolds, if_neg (by simp [isOperatorObject_eq_false hkeys]), htest, equalsBy,
      Outcome.any_ok]
    rfl
  | arr expected =>
    rw [conditionHolds_arr]
    rfl
  | _ => rfl

theorem fieldsHold_self {entries : List (String × Json)} (h : (Json.obj entries).IsPart) :
    fieldsHold (.obj entries) entries = .ok true := by
  rw [fieldsHold_eq_all, Outcome.all_eq_true_iff]
  rintro ⟨key, value⟩ he
  have hname := isFieldName_iff.1 (Json.isPlain_obj_iff.1 h.plain _ he).1
  have hvalue := h.field _ he
  have hreached : Path.resolve (.obj entries) key = [value] := by
    rw [Path.resolve_obj entries hname.2,
      Entries.get?_eq_some_of_mem (Json.distinct_obj_iff.1 h.distinct).1 he]
    rfl
  show filterHolds (.obj entries) (.entry key value) = .ok true
  rw [filterHolds_entry _ hname.1, hreached,
    conditionHolds_of_isOperatorFree (Json.isOperatorFree_of_isPlain hvalue.plain)]
  exact (finds_self hvalue).equalsBy List.mem_cons_self

/-- In an envelope, an object is a query that it satisfies itself. -/
theorem finds_envelope {value : Json} (h : value.IsPart) (hobj : value.isObject = true) :
    Finds (envelope value) value := by
  have hfree := Json.isOperatorFree_of_isPlain h.plain
  refine ⟨comparable_envelope hobj hfree, ?_⟩
  cases value with
  | obj fields =>
    show elementMatches (.obj fields) (.obj fields) = .ok true
    rw [elementMatches_of_isOperatorFree hfree, if_pos hobj, fieldsHold_self h]
  | _ => cases hobj

/-! ## Operators whose operands come from a list -/

theorem verdict_all_of_finds {list : List Json} (hv : .arr items ∈ values) (hne : list ≠ [])
    (h : ∀ operand ∈ list, ∃ item ∈ items, Finds operand item) :
    verdict values ("$all", .arr list) = .ok true := by
  have hsome (elements : List Json) : ∀ operand ∈ list,
      Outcome.Evaluates (Outcome.any (itemMatches · operand) elements) := fun operand ho =>
    have ⟨_, _, hfinds⟩ := h operand ho
    Outcome.any_evaluates fun element _ => hfinds.comparable element
  have heach : ∀ value ∈ values, Outcome.Evaluates (containsEach value.elementsOrSelf list) := by
    intro value _
    rw [containsEach_eq_all]
    exact Outcome.conjunctive_evaluates.all (hsome _)
  rw [verdict_all, containsAll_of_ne_nil _ hne, Outcome.any_eq_true_iff heach]
  refine ⟨_, hv, ?_⟩
  rw [containsEach_eq_all, Outcome.all_eq_true_iff]
  intro operand ho
  obtain ⟨item, hitem, hfinds⟩ := h operand ho
  exact (Outcome.any_eq_true_iff fun element _ => hfinds.comparable element).2
    ⟨item, hitem, hfinds.found⟩

theorem elementMatches_in (element : Json) (list : List Json) :
    elementMatches element (.entry "$in" (.arr list)) = inList [element] "$in" (.arr list) := by
  have hin : IsCondition "$in" := Operator.isCondition_store .oneOf
  have hbody : Conditions [("$in", .arr list)] := ⟨by simp, by simpa using hin⟩
  rw [Json.entry, elementMatches_obj hbody, Outcome.all_singleton, verdict_in]

theorem verdict_elemMatch_of_finds (hv : .arr items ∈ values) (hne : items ≠ [])
    (h : ∀ item ∈ items, Finds (ask item) item) :
    verdict values (elemMatchKey, .entry "$in" (.arr (items.map ask))) = .ok true := by
  have hcomparable : ∀ operand ∈ items.map ask, Comparable operand :=
    List.forall_mem_map.2 fun item hm => (h item hm).comparable
  obtain ⟨item, hitem⟩ := List.exists_mem_of_ne_nil _ hne
  rw [verdict_elemMatch, Query.any_elements_eq_true_iff fun _ _ element _ => by
    rw [elementMatches_in]
    exact evaluates_inList hcomparable _ _]
  refine ⟨items, hv, item, hitem, ?_⟩
  rw [elementMatches_in, inList, equalsSome_eq_any, Outcome.any_eq_true_iff fun operand ho =>
    evaluates_equalsBy (hcomparable operand ho) _ _]
  exact ⟨ask item, List.mem_map_of_mem hitem, (h item hitem).equalsBy List.mem_cons_self⟩

theorem mem_candidates {value : Json} (h : value ∈ values) : value ∈ Json.candidates values :=
  List.mem_flatMap.2 ⟨value, h, List.mem_cons_self⟩

theorem verdict_size_of_mem (hv : .arr items ∈ values) :
    verdict values ("$size", .int items.length) = .ok true := by
  have hk : StoreOperator.ofKey? "$size" = some .size := StoreOperator.ofKey?_key .size
  have hany : (values.any fun value => value.items?.map List.length == some items.length) = true :=
    List.any_eq_true.2 ⟨_, hv, beq_self_eq_true _⟩
  simp only [verdict, operatorsHold, hk, Outcome.and_ok_true]
  exact congrArg Except.ok hany

end Matching

/-! ## Queries made from a document -/

/-- How an operator of a list asks for a single element. -/
def Category.asked (category : Category) (value : Json) : Json :=
  if category = .objectArray then envelope value else value

theorem Category.fill_listSlot_arr {category : Category} (ha : category.isArray = true)
    (items : List Json) :
    Template.fill category.listSlot (.arr items) = .arr (items.map category.asked) := by
  have hcases : category = .objectArray ∨ category.asked = id ∧ category.listSlot ≠ .objects := by
    cases category with
    | objectArray => exact .inl rfl
    | stringArray | numberArray | booleanArray | dateArray => exact .inr ⟨rfl, by decide⟩
    | _ => cases ha
  rcases hcases with rfl | ⟨hid, hslot⟩
  · rfl
  · rw [hid, List.map_id, Template.fill_of_ne_objects hslot]

theorem Category.finds_asked {category : Category} {value : Json} (h : value.IsPart)
    (hobj : category = .objectArray → value.isObject = true) :
    Matching.Finds (category.asked value) value := by
  rw [asked]
  split
  · rename_i hc
    exact Matching.finds_envelope h (hobj hc)
  · exact Matching.finds_self h

namespace Query

/-- A document without repeated keys, all of whose keys name fields, satisfies itself as a filter.
Every list that a path reaches in it is found by the operators that ask for its elements, for all or
one of them, for the list as a whole and for its length; on lists of objects, the elements have to
be objects. -/
theorem documents_retrieve_themselves {entries : List (String × Json)}
    (hd : (Json.obj entries).Distinct) (hplain : (Json.obj entries).isPlain = true) :
    Matching.holds (.obj entries) (.obj entries) = .ok true ∧
    ∀ (format : Format) (path : String) (category : Category) (items : List Json),
      (TypeMap.ofFormat format).get? path = some category → category.isArray = true →
      isOperatorKey path = false → .arr items ∈ Path.resolve (.obj entries) path →
      (category = .objectArray → ∀ item ∈ items, item.isObject = true) →
      (∀ item ∈ items, Selects format (.obj entries) path .contains item) ∧
      (items ≠ [] → Selects format (.obj entries) path .containsAll (.arr items) ∧
        Selects format (.obj entries) path .containsOneOf (.arr items)) ∧
      Selects format (.obj entries) path .identicalTo (.arr items) ∧
      Selects format (.obj entries) path .size (.int items.length) := by
  have hpart : (Json.obj entries).IsPart := ⟨hd, hplain⟩
  refine ⟨Matching.fieldsHold_self hpart, fun format path category items hp ha hpath hv hobj => ?_⟩
  have hitems : ∀ item ∈ items, Matching.Finds (category.asked item) item := fun item hm =>
    category.finds_asked ((hpart.of_mem_resolve hv).item item hm) fun hc => hobj hc item hm
  have hmapped : ∀ operand ∈ items.map category.asked, ∃ item ∈ items,
      Matching.Finds operand item :=
    List.forall_mem_map.2 fun item hm => ⟨item, hm, hitems item hm⟩
  have hfill := category.fill_listSlot_arr ha items
  refine ⟨fun item hm => ?_, fun hne => ⟨?_, ?_⟩, ?_, ?_⟩
  · rw [Selects, alone_operator_iff hp hpath (legal_of_objectArray ha rfl)]
    refine Matching.verdict_all_of_finds hv (by simp) (List.forall_mem_singleton.2 ?_)
    exact ⟨item, hm, hitems item hm⟩
  · rw [Selects, alone_operator_iff hp hpath (legal_of_objectArray ha rfl),
      Operator.storeOperand, hfill]
    exact Matching.verdict_all_of_finds hv (by simpa using hne) hmapped
  · rw [Selects, alone_operator_iff hp hpath (legal_of_objectArray ha rfl),
      Operator.storeOperand, hfill]
    exact Matching.verdict_elemMatch_of_finds hv hne hitems
  · rw [Selects, alone_operator_iff hp hpath (legal_of_objectArray ha rfl),
      Operator.storeOperand, hfill]
    exact (Matching.verdict_eq _ _).trans
      ((Matching.Finds.list hitems).equalsBy (Matching.mem_candidates hv))
  · rw [Selects, alone_operator_iff hp hpath (legal_of_objectArray ha rfl)]
    exact Matching.verdict_size_of_mem hv

theorem pets_retrieve_themselves :
    Matching.pets.Distinct ∧ Matching.pets.isPlain = true ∧
    .arr [Matching.rex] ∈ Path.resolve Matching.pets "pets" ∧
    Matching.holds Matching.pets Matching.pets = .ok true ∧
    Selects petsFormat Matching.pets "pets" .contains Matching.rex ∧
    Selects petsFormat Matching.pets "pets" .containsOneOf (.arr [Matching.rex]) ∧
    Selects petsFormat Matching.pets "pets" .identicalTo (.arr [Matching.rex]) := by
  have hd : Matching.pets.Distinct := by
    simp [Matching.pets, Matching.rex, Json.int, Json.Distinct, Json.DistinctEntries,
      Json.DistinctItems]
  have hplain : Matching.pets.isPlain = true := by decide
  have hlist := objectList_pets
  have hv : .arr [Matching.rex] ∈ Path.resolve Matching.pets "pets" := by
    rw [hlist.reached]
    exact List.mem_singleton_self _
  have h := documents_retrieve_themselves hd hplain
  obtain ⟨hcontains, hsome, hidentical, -⟩ :=
    h.2 petsFormat "pets" .objectArray [Matching.rex] hlist.category rfl hlist.field hv
      fun _ => hlist.objects
  exact ⟨hd, hplain, hv, h.1, hcontains _ (List.mem_singleton_self _), (hsome (by simp)).2,
    hidentical⟩

end Query

end SchemaQuery
