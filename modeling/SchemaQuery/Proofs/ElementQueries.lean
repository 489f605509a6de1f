import SchemaQuery.Proofs.Parts

/-!
# Queries on one element

On a scalar category, operators with different names stand for different store operators, so an
operator object is a single constraint, whatever the path (`compile_scalar`). Under `one_fulfills`
this constraint is the body of one envelope; the filter therefore asks of a single element what a
query on a scalar field asks of its value (`oneFulfills_holds_iff`).
-/

namespace SchemaQuery

/-! ## Operators on scalars -/

/-- The operator on scalars that stands for a store operator. -/
def StoreOperator.onScalar? : StoreOperator → Option Operator
  | .eq => some .equalTo
  | .ne => some .notEqualTo
  | .gt => some .greaterThan
  | .gte => some .greaterOrEqualTo
  | .lt => some .lessThan
  | .lte => some .lessOrEqualTo
  | .oneOf => some .oneOf
  | .noneOf => some .notOneOf
  | .exists => some .exists
  | .regex => some .regexp
  | _ => none

/-- On a scalar category, the operator can be told from its store operator. -/
theorem onScalar?_store {category : Category} (hc : category.element? = none) {operator : Operator}
    (h : (OperatorTable.lookup category operator).isSome = true) :
    operator.store.onScalar? = some operator := by
  cases category <;> cases hc <;> cases operator <;> first | rfl | cases h

theorem StoreOperator.key_injective {first second : StoreOperator} (h : first.key = second.key) :
    first = second := by
  have hk := congrArg StoreOperator.ofKey? h
  rw [ofKey?_key, ofKey?_key] at hk
  exact Option.some.inj hk

/-! ## Operators that ask for a single element -/

namespace Operator

/-- The operator that an operator of a list asks of a single element. -/
def onElement? : Operator → Option Operator
  | .containsOneOf => some .oneOf
  | .containsGreaterThan => some .greaterThan
  | .containsGreaterOrEqualTo => some .greaterOrEqualTo
  | .containsLessThan => some .lessThan
  | .containsLessOrEqualTo => some .lessOrEqualTo
  | .containsRegexp => some .regexp
  | _ => none

/-- The name of the operator that the operator with a name asks of a single element. -/
def onElementName? (name : String) : Option String :=
  (ofName? name).bind fun operator => operator.onElement?.map Operator.name

theorem store_eq_elemMatch_iff {operator : Operator} :
    operator.store = .elemMatch ↔ ∃ asked, operator.onElement? = some asked := by
  cases operator <;> simp [store, onElement?]

variable {operator other asked : Operator}

theorem store_of_onElement? (h : operator.onElement? = some asked) :
    operator.store.key = elemMatchKey := by
  rw [store_eq_elemMatch_iff.2 ⟨asked, h⟩]
  rfl

theorem storeOperand_of_onElement? (h : operator.onElement? = some asked) (category : Category)
    (operand : Json) :
    operator.storeOperand category operand =
      .entry asked.store.key (asked.storeOperand category operand) := by
  cases operator <;> cases h <;> rfl

theorem onScalar?_store_of_onElement? (h : operator.onElement? = some asked) :
    asked.store.onScalar? = some asked := by
  cases operator <;> cases h <;> rfl

theorem onElement?_injective (h : operator.onElement? = some asked)
    (ho : other.onElement? = some asked) : operator = other := by
  cases operator <;> cases h <;> cases other <;> first | rfl | cases ho

theorem eq_of_storeKey_eq (h : operator.store.onScalar? = some operator)
    (ho : other.store.onScalar? = some other) (hk : operator.store.key = other.store.key) :
    operator = other := by
  have hstore := congrArg StoreOperator.onScalar? (StoreOperator.key_injective hk)
  rw [h, ho] at hstore
  exact Option.some.inj hstore

end Operator

namespace Constraint

/-- What an entry of an operator object stands for in a constraint. -/
def ofEntry (category : Category) (entry : String × Json) : String × Json :=
  match Operator.ofName? entry.1 with
  | some operator => (operator.store.key, operator.storeOperand category entry.2)
  | none => entry

/-- The category allows the operator with this name. -/
def Legal (category : Category) (name : String) : Prop :=
  (OperatorTable.find? category name).isSome = true

variable {category : Category}

theorem Legal.exists_operator {name : String} (h : Legal category name) :
    ∃ operator : Operator, operator.name = name ∧ Operator.ofName? name = some operator ∧
      (OperatorTable.lookup category operator).isSome = true := by
  rw [Legal, OperatorTable.find?, Option.isSome_iff_exists] at h
  obtain ⟨template, h⟩ := h
  obtain ⟨operator, ho, hl⟩ := Option.bind_eq_some_iff.1 h
  exact ⟨operator, Operator.ofName?_eq_some_iff.1 ho, ho, by rw [hl]; rfl⟩

theorem Legal.ne_oneFulfills {name : String} (h : Legal category name) :
    name ≠ Operator.oneFulfills := by
  rintro rfl
  obtain ⟨operator, -, ho, -⟩ := h.exists_operator
  cases ho

theorem ofEntry_of_name {operator : Operator} {entry : String × Json}
    (h : Operator.ofName? entry.1 = some operator) :
    ofEntry category entry = (operator.store.key, operator.storeOperand category entry.2) := by
  rw [ofEntry, h]

theorem ofEntry_name (category : Category) (operator : Operator) (operand : Json) :
    ofEntry category (operator.name, operand) =
      (operator.store.key, operator.storeOperand category operand) :=
  ofEntry_of_name (Operator.ofName?_name operator)

/-- An entry with an operator that the category allows is one fragment, whatever the path. -/
theorem fragmentsOf_legal (path : String) {entry : String × Json} (h : Legal category entry.1) :
    fragmentsOf path category entry = .ok [[ofEntry category entry]] := by
  obtain ⟨operator, -, ho, hl⟩ := h.exists_operator
  rw [fragmentsOf_operator (.inr h.ne_oneFulfills), ofOperator_eq_ok_iff, ofEntry, ho]
  exact ⟨operator, rfl, hl, rfl⟩

/-- The fragments of entries, one for each. -/
def fragments (category : Category) (entries : List (String × Json)) : List Constraint :=
  entries.map fun entry => [ofEntry category entry]

theorem flatten_fragments (entries : List (String × Json)) :
    (entries.map fun entry => [[ofEntry category entry]]).flatten = fragments category entries :=
  List.map_eq_flatMap.symm

theorem mapM_fragmentsOf_legal (path : String) {entries : List (String × Json)}
    (hl : ∀ key ∈ Entries.keys entries, Legal category key) :
    entries.mapM (fragmentsOf path category) =
      .ok (entries.map fun entry => [[ofEntry category entry]]) :=
  Results.mapM_eq_ok_map fun _ he => fragmentsOf_legal path (hl _ (Entries.mem_keys_of_mem he))

/-- Entries with operators that the category allows compile to the fold of their fragments. -/
theorem compile_legal (path : String) {entries : List (String × Json)}
    (hl : ∀ key ∈ Entries.keys entries, Legal category key) :
    compile path category entries = .ok (foldAll [] (fragments category entries)) :=
  compile_eq_ok_iff.2 ⟨_, mapM_fragmentsOf_legal path hl, by rw [flatten_fragments]⟩

theorem ofEntry_fst_ne (hc : category.element? = none) {first second : String × Json}
    (h₁ : Legal category first.1) (h₂ : Legal category second.1) (hne : first.1 ≠ second.1) :
    (ofEntry category first).1 ≠ (ofEntry category second).1 := by
  obtain ⟨operator, hname, ho, hl⟩ := h₁.exists_operator
  obtain ⟨other, hname', ho', hl'⟩ := h₂.exists_operator
  rw [ofEntry, ho, ofEntry, ho']
  intro hkey
  have hstore := congrArg StoreOperator.onScalar? (StoreOperator.key_injective hkey)
  rw [onScalar?_store hc hl, onScalar?_store hc hl'] at hstore
  exact hne (hname.symm.trans ((congrArg Operator.name (Option.some.inj hstore)).trans hname'))

theorem merge?_singleton {target : Constraint} {key : String} (value : Json)
    (h : key ∉ Entries.keys target) :
    target.merge? [(key, value)] = some (target ++ [(key, value)]) := by
  have hnone := Entries.get?_eq_none_iff.2 h
  simp [merge?, add, hnone, not_collides_none]

/-- Fragments with different keys come together in one object. -/
theorem foldAll_singletons {target entries : Constraint}
    (h : (Entries.keys (target ++ entries)).Nodup) :
    foldAll [target] (entries.map fun entry => [entry]) = [target ++ entries] := by
  induction entries generalizing target with
  | nil => rw [List.append_nil]; rfl
  | cons entry rest ih =>
    have happend : target ++ entry :: rest = target ++ [entry] ++ rest := by
      rw [List.append_assoc, List.singleton_append]
    have hkey : entry.1 ∉ Entries.keys target := by
      rw [Entries.keys, List.map_append, List.nodup_append] at h
      exact fun hm => h.2.2 entry.1 hm entry.1 List.mem_cons_self rfl
    rw [List.map_cons, foldAll_cons, fold_cons_of_merge? _ (merge?_singleton entry.2 hkey)]
    rw [happend] at h ⊢
    exact ih h

theorem nodup_keys_map_ofEntry (hc : category.element? = none) {entries : List (String × Json)}
    (hn : (Entries.keys entries).Nodup) (hl : ∀ key ∈ Entries.keys entries, Legal category key) :
    (Entries.keys (entries.map (ofEntry category))).Nodup := by
  have hlegal : ∀ entry ∈ entries, Legal category entry.1 :=
    fun entry he => hl _ (Entries.mem_keys_of_mem he)
  rw [Entries.keys, List.map_map]
  refine List.pairwise_map.2 ((List.pairwise_map.1 hn).imp_of_mem ?_)
  exact fun ha hb hab => ofEntry_fst_ne hc (hlegal _ ha) (hlegal _ hb) hab

/-- An operator object for a scalar category is one constraint, whatever the path. -/
theorem compile_scalar (hc : category.element? = none) (path : String)
    {entries : List (String × Json)} (hne : entries ≠ [])
    (hn : (Entries.keys entries).Nodup) (hl : ∀ key ∈ Entries.keys entries, Legal category key) :
    compile path category entries = .ok [entries.map (ofEntry category)] := by
  have hkeys := nodup_keys_map_ofEntry hc hn hl
  have hfragments : fragments category entries =
      (entries.map (ofEntry category)).map fun entry => [entry] := by
    rw [fragments, List.map_map]
    rfl
  rw [compile_legal path hl, hfragments]
  cases entries with
  | nil => exact absurd rfl hne
  | cons first rest =>
    have htarget : (Entries.keys ([ofEntry category first] ++ rest.map (ofEntry category))).Nodup :=
      hkeys
    exact congrArg Except.ok (foldAll_singletons htarget)

end Constraint

/-! ## A document with one field -/

namespace Path

theorem splitDots_eq_singleton {cs : List Char} (h : '.' ∉ cs) : splitDots cs = [cs] := by
  induction cs with
  | nil => rfl
  | cons c cs ih =>
    rw [List.mem_cons, not_or] at h
    rw [splitDots, if_neg (Ne.symm h.1), ih h.2]

/-- The name of the only field reaches its value. -/
theorem resolve_entry {field : String} (h : '.' ∉ field.toList) (value : Json) :
    resolve (.entry field value) field = [value] := by
  have hsegments : segments field = [field] := by
    rw [segments, splitDots_eq_singleton h, List.map_singleton, String.ofList_toList]
  rw [resolve, hsegments, Json.entry, descend, descendField, if_pos rfl]
  cases value <;> rfl

end Path

/-- The only field of a format is mapped to its category. -/
theorem get?_ofFormat_singleton {field : String} {definition : FieldDef} {category : Category}
    (h : Category.ofField? definition = some category) :
    (TypeMap.ofFormat [(field, definition)]).get? field = some category := by
  obtain ⟨type, makeup, required⟩ := definition
  have hleaves : TypeMap.leaves none [(field, .mk type makeup required)] = [(field, category)] := by
    rw [TypeMap.leaves, TypeMap.leaves, TypeMap.leavesOfField, h]
    rfl
  rw [TypeMap.ofFormat, hleaves]
  exact if_pos rfl

/-! ## The two spellings -/

theorem listPath?_elementPath (path : String) : listPath? (elementPath path) = some path := by
  have htoList : (elementPath path).toList =
      path.toList ++ '.' :: Operator.oneFulfills.toList := by
    simp [elementPath]
  rw [listPath?, htoList]
  simp

namespace Query

open Matching (Outcome)

variable {types : TypeMap} {path : String} {category : Category}

theorem nodes_elementPath (hp : types.get? path = some category) (ha : category.isArray = true)
    (hnone : types.get? (elementPath path) = none) (inner : List (String × Json)) :
    nodes types (.entry (elementPath path) (.obj inner)) =
      .ok [⟨path, category, inner, true⟩] := by
  have helement : types.elementTarget? (elementPath path) = some (path, category) := by
    rw [TypeMap.elementTarget?, listPath?_elementPath]
    simp [hp, ha]
  have ht : target types (elementPath path) = .element path category := by
    rw [target, hnone, helement]
  change nodesOfEntries types none [(elementPath path, .obj inner)] = _
  rw [nodesOfEntries_cons, nodesOfEntries]
  simp only [nodesOfEntry, joinPath, ht]
  rfl

/-- The query on an element may be bound to a path of its own. -/
theorem compile_elementPath (hp : types.get? path = some category) (ha : category.isArray = true)
    (hnone : types.get? (elementPath path) = none) (inner : List (String × Json)) :
    compile types (.entry (elementPath path) (.obj inner)) =
      compile types (.entry path (.entry Operator.oneFulfills (.obj inner))) := by
  rw [compile_of_nodes_eq_singleton (nodes_elementPath hp ha hnone inner)]
  exact (compile_of_nodes_eq_singleton (nodes_entry hp [(Operator.oneFulfills, .obj inner)])).symm

/-! ## Objects of operators -/

theorem ofKey?_eq_none_of_legal {entries : List (String × Json)}
    (hl : ∀ key ∈ Entries.keys entries, Constraint.Legal category key) :
    ∀ entry ∈ entries, Combinator.ofKey? entry.1 = none :=
  fun _ he => ofKey?_eq_none_of_fragmentsOf
    (Constraint.fragmentsOf_legal "" (hl _ (Entries.mem_keys_of_mem he)))

/-- An object of operators that the category allows compiles to the fold of their fragments. -/
theorem compileFor_legal {format : Format}
    (hp : (TypeMap.ofFormat format).get? path = some category) {entries : List (String × Json)}
    (hl : ∀ key ∈ Entries.keys entries, Constraint.Legal category key) :
    compileFor format (.entry path (.obj entries)) =
      .ok ⟨(Constraint.foldAll [] (Constraint.fragments category entries)).map (Clause.mk path),
        []⟩ := by
  rw [compileFor, compile_entry hp (ofKey?_eq_none_of_legal hl), Constraint.compile_legal path hl]
  rfl

/-! ## One element -/

theorem mem_flatMap_elements {values : List Json} {value : Json} :
    value ∈ values.flatMap Json.elements ↔ ∃ items, .arr items ∈ values ∧ value ∈ items := by
  rw [List.mem_flatMap]
  constructor
  · rintro ⟨list, hl, hv⟩
    cases list with
    | arr items => exact ⟨items, hl, hv⟩
    | _ => cases hv
  · rintro ⟨items, hl, hv⟩
    exact ⟨_, hl, hv⟩

theorem compileAlone_oneFulfills {format : Format} {element : Category}
    (hp : (TypeMap.ofFormat format).get? path = some category)
    (he : category.element? = some element) {inner : List (String × Json)} {body : Constraint}
    (hbody : Constraint.compile (elementPath path) element inner = .ok [body]) :
    compileAlone format path (Operator.oneFulfills, .obj inner) =
      .ok ⟨[⟨path, Constraint.inEnvelope body⟩], []⟩ := by
  have hok : Constraint.fragmentsOf path category (Operator.oneFulfills, .obj inner) =
      .ok [Constraint.inEnvelope body] := by
    rw [Constraint.fragmentsOf_oneFulfills he]
    exact Constraint.compileElement_eq_ok_iff.2 ⟨[body], hbody, rfl⟩
  exact compileAlone_eq_ok hp hok

/-- The filter of an envelope tries the elements of all arrays at the path. -/
theorem holds_inEnvelope (document : Json) (hpath : isOperatorKey path = false)
    {body : Constraint} (h : Constraint.Emitted body) :
    Matching.holds document (Filter.toDocument ⟨[⟨path, Constraint.inEnvelope body⟩], []⟩) =
      Outcome.any (Matching.elementMatches · (.obj body))
        ((Path.resolve document path).flatMap Json.elements) := by
  have henvelope := (Constraint.emitted_inEnvelope h).conditions
  rw [Matching.holds_required, Outcome.all_singleton, Matching.holds_clause hpath henvelope,
    Constraint.inEnvelope, Outcome.all_singleton, Matching.verdict_elemMatch]

/-- A value as the only field satisfies a constraint as an element would. -/
theorem holds_field {field : String} (hdot : '.' ∉ field.toList)
    (hfield : isOperatorKey field = false) {body : Constraint} (h : Constraint.Emitted body)
    (value : Json) :
    Matching.holds (.entry field value) (Filter.toDocument ⟨[⟨field, body⟩], []⟩) =
      Matching.elementMatches value (.obj body) := by
  rw [Matching.holds_required, Outcome.all_singleton, Matching.holds_clause hfield h.conditions,
    Path.resolve_entry hdot, Matching.elementMatches_obj h.conditions]

/-- A test that can be evaluated on all elements holds of some value of the arrays among the values
when it holds of some element of an array. -/
theorem any_elements_eq_true_iff {test : Json → Outcome} {values : List Json}
    (h : ∀ items, .arr items ∈ values → ∀ value ∈ items, Outcome.Evaluates (test value)) :
    Outcome.any test (values.flatMap Json.elements) = .ok true ↔
      ∃ items, .arr items ∈ values ∧ ∃ value ∈ items, test value = .ok true := by
  have hall : ∀ value ∈ values.flatMap Json.elements, Outcome.Evaluates (test value) := by
    intro value hm
    obtain ⟨items, hitems, hv⟩ := mem_flatMap_elements.1 hm
    exact h items hitems value hv
  rw [Outcome.any_eq_true_iff hall]
  constructor
  · rintro ⟨value, hm, htrue⟩
    obtain ⟨items, hitems, hv⟩ := mem_flatMap_elements.1 hm
    exact ⟨items, hitems, value, hv, htrue⟩
  · rintro ⟨items, hitems, value, hv, htrue⟩
    exact ⟨value, mem_flatMap_elements.2 ⟨items, hitems, hv⟩, htrue⟩

/-- A query on one element holds when some element of an array at the path is a value for which the
same query on a scalar field holds, and it may be bound to a path of its own. The keys of the query
are distinct, as those of every object that is read. -/
theorem oneFulfills_holds_iff {format : Format} {element : Category}
    (hp : (TypeMap.ofFormat format).get? path = some category)
    (he : category.element? = some element) (hpath : isOperatorKey path = false)
    {inner : List (String × Json)} (hne : inner ≠ []) (hn : (Entries.keys inner).Nodup)
    (hl : ∀ key ∈ Entries.keys inner, (OperatorTable.find? element key).isSome = true)
    {field : String} (hdot : '.' ∉ field.toList) (hfield : isOperatorKey field = false)
    {definition : FieldDef} (hdef : Category.ofField? definition = some element) :
    ∃ filter single,
      compileFor format (.entry path (.entry Operator.oneFulfills (.obj inner))) = .ok filter ∧
      compileFor [(field, definition)] (.entry field (.obj inner)) = .ok single ∧
      (∀ document,
        (∀ items, .arr items ∈ Path.resolve document path → ∀ value ∈ items,
          Outcome.Evaluates (Matching.holds (.entry field value) single.toDocument)) →
        (Matching.holds document filter.toDocument = .ok true ↔
          ∃ items, .arr items ∈ Path.resolve document path ∧ ∃ value ∈ items,
            Matching.holds (.entry field value) single.toDocument = .ok true)) ∧
      ((TypeMap.ofFormat format).get? (elementPath path) = none →
        compileFor format (.entry (elementPath path) (.obj inner)) = .ok filter) := by
  have hscalar := Category.element?_of_element? he
  let body : Constraint := inner.map (Constraint.ofEntry element)
  have hbody (path : String) : Constraint.compile path element inner = .ok [body] :=
    Constraint.compile_scalar hscalar path hne hn hl
  have hemitted : Constraint.Emitted body :=
    Constraint.emitted_of_compile (hbody path) body (List.mem_singleton_self _)
  have hfilter := compileAlone_oneFulfills hp he (hbody (elementPath path))
  have hsingle : compileFor [(field, definition)] (.entry field (.obj inner)) =
      .ok ⟨[⟨field, body⟩], []⟩ := by
    rw [compileFor, compile_entry (get?_ofFormat_singleton hdef) fun entry hm =>
      ofKey?_eq_none_of_fragmentsOf (Constraint.fragmentsOf_legal field
        (hl _ (Entries.mem_keys_of_mem hm))), hbody]
    rfl
  refine ⟨_, _, hfilter, hsingle, fun document hevaluates => ?_, fun hnone => ?_⟩
  · simp only [holds_field hdot hfield hemitted] at hevaluates ⊢
    rw [holds_inEnvelope document hpath hemitted]
    exact any_elements_eq_true_iff hevaluates
  · have harray : category.isArray = true := by rw [Category.isArray, he]; rfl
    rw [compileFor, compile_elementPath hp harray hnone]
    exact hfilter

theorem tag_oneFulfills_holds_iff :
    ∃ filter single,
      compileFor tagFormat (.entry "tags" (.entry Operator.oneFulfills
        (.obj [("not_equal_to", .str "x"), ("one_of", .arr [.str "y"])]))) = .ok filter ∧
      compileFor [("tag", .plain .string false)] (.entry "tag"
        (.obj [("not_equal_to", .str "x"), ("one_of", .arr [.str "y"])])) = .ok single ∧
      (Matching.holds tagDocument filter.toDocument = .ok true ↔
        ∃ items, .arr items ∈ Path.resolve tagDocument "tags" ∧ ∃ value ∈ items,
          Matching.holds (.entry "tag" value) single.toDocument = .ok true) := by
  have hp : (TypeMap.ofFormat tagFormat).get? "tags" = some .stringArray := by cbv
  have hn : (Entries.keys [("not_equal_to", Json.str "x"), ("one_of", .arr [.str "y"])]).Nodup := by
    decide
  have hl : ∀ key ∈ Entries.keys [("not_equal_to", Json.str "x"), ("one_of", .arr [.str "y"])],
      (OperatorTable.find? .string key).isSome = true := by decide
  have hdot : '.' ∉ "tag".toList := by decide
  have hdef : Category.ofField? (.plain .string false) = some .string := rfl
  obtain ⟨filter, single, hfilter, hsingle, hiff, -⟩ :=
    oneFulfills_holds_iff hp rfl rfl (by simp) hn hl hdot rfl hdef
  refine ⟨filter, single, hfilter, hsingle, hiff tagDocument fun items hi value hv => ?_⟩
  have hreached : Path.resolve tagDocument "tags" = [.arr [.str "x", .str "y"]] := by cbv
  have hcompiled : compileFor [("tag", .plain .string false)] (.entry "tag"
      (.obj [("not_equal_to", .str "x"), ("one_of", .arr [.str "y"])])) =
        .ok ⟨[⟨"tag", [("$ne", .str "x"), ("$in", .arr [.str "y"])]⟩], []⟩ := by cbv
  rw [hcompiled] at hsingle
  cases hsingle
  rw [hreached, List.mem_singleton] at hi
  cases hi
  rcases List.mem_cons.1 hv with rfl | hv
  · exact ⟨_, by cbv⟩
  · rw [List.mem_singleton] at hv
    subst hv
    exact ⟨_, by cbv⟩

end Query

end SchemaQuery
