import SchemaQuery.Proofs.Merging
import SchemaQuery.Proofs.Results
import SchemaQuery.Proofs.Verdicts

/-!
# The fragments of an operator object

An operator with its operand stands for one store operator with an operand of its own
(`substitute_of_lookup`), and an element query for envelopes. Compiling entries is folding the
fragments that they stand for one by one (`compileFrom_eq_mapM`); every object that comes out is
well formed (`emitted_of_compile`), and the fragments of one entry reject each other
(`clashing_fragmentsOf`).
-/

namespace SchemaQuery

/-! ## Store operators of operators -/

/-- The store operator that an operator stands for. -/
def Operator.store : Operator → StoreOperator
  | .equalTo | .identicalTo => .eq
  | .notEqualTo => .ne
  | .greaterThan => .gt
  | .greaterOrEqualTo => .gte
  | .lessThan => .lt
  | .lessOrEqualTo => .lte
  | .oneOf => .oneOf
  | .notOneOf | .containsNoneOf | .notContains => .noneOf
  | .exists => .exists
  | .regexp => .regex
  | .contains | .containsAll => .all
  | .size => .size
  | .containsOneOf | .containsGreaterThan | .containsGreaterOrEqualTo | .containsLessThan
  | .containsLessOrEqualTo | .containsRegexp => .elemMatch

/-- The operand of the store operator on a field of a category. -/
def Operator.storeOperand (category : Category) (operand : Json) : Operator → Json
  | .oneOf | .notOneOf | .containsAll | .identicalTo | .containsNoneOf =>
    Template.fill category.listSlot operand
  | .contains => .arr [if category = .objectArray then envelope operand else operand]
  | .notContains => .arr [operand]
  | .containsOneOf => .entry "$in" (Template.fill category.listSlot operand)
  | .containsGreaterThan => .entry "$gt" operand
  | .containsGreaterOrEqualTo => .entry "$gte" operand
  | .containsLessThan => .entry "$lt" operand
  | .containsLessOrEqualTo => .entry "$lte" operand
  | .containsRegexp => .entry "$regex" operand
  | _ => operand

theorem Operator.isCondition_store (operator : Operator) :
    Matching.IsCondition operator.store.key := by
  cases operator <;> exact ⟨by decide, by decide, by decide⟩

theorem Category.fill_valueSlot (category : Category) (operand : Json) :
    Template.fill category.valueSlot operand = operand := by
  cases category <;> cases operand <;> rfl

/-- A list slot is filled with the empty list only by the empty list. -/
theorem Category.fill_listSlot_eq_nil {category : Category} {operand : Json}
    (h : Template.fill category.listSlot operand = .arr []) : operand = .arr [] := by
  cases category <;> cases operand <;> first | exact h | cases h | skip
  all_goals
    rename_i items
    cases items with
    | nil => rfl
    | cons => cases h

theorem Template.substitute_entry (operand : Json) (key : String) (inner : Template) :
    (Template.entry key inner).substitute operand = .entry key (inner.substitute operand) := rfl

theorem Template.substitute_array_singleton (operand : Json) (item : Template) :
    (Template.array [item]).substitute operand = .arr [item.substitute operand] := rfl

/-- The template of an operator puts the operand under its store operator. -/
theorem substitute_of_lookup {category : Category} {operator : Operator} {template : Template}
    (h : OperatorTable.lookup category operator = some template) (operand : Json) :
    template.substitute operand =
      .obj [(operator.store.key, operator.storeOperand category operand)] := by
  cases operator <;> simp only [OperatorTable.lookup, Option.ite_none_right_eq_some,
    Option.some.injEq] at h <;> obtain ⟨-, rfl⟩ := h
  case notContains =>
    rw [Template.substitute_entry, Template.substitute_array_singleton, Template.substitute,
      Category.fill_valueSlot]
    rfl
  case contains =>
    rw [Template.substitute_entry, Template.substitute_array_singleton]
    by_cases hc : category = .objectArray
    · subst hc
      rfl
    · rw [if_neg (by simpa using hc), Operator.storeOperand, if_neg hc, Template.substitute,
        Category.fill_valueSlot]
      rfl
  all_goals
    simp only [Template.substitute_entry, Template.substitute, Category.fill_valueSlot]
    rfl

namespace Constraint

/-! ## Entries one by one -/

/-- The fragments that an entry of an operator object stands for. -/
def fragmentsOf (path : String) (category : Category) (entry : String × Json) :
    Except QueryError (List Constraint) :=
  match category.element?, decide (entry.1 = Operator.oneFulfills), entry.2 with
  | some element, true, .obj inner => compileElement path element inner
  | some _, true, _ => .error (.malformed (elementPath path) .element)
  | _, _, operand => ofOperator path category entry.1 operand

variable {path : String} {category : Category}

theorem fragmentsOf_oneFulfills {element : Category} (h : category.element? = some element)
    (inner : List (String × Json)) :
    fragmentsOf path category (Operator.oneFulfills, .obj inner) =
      compileElement path element inner := by
  simp only [fragmentsOf, h, decide_true]

theorem fragmentsOf_operator {entry : String × Json}
    (h : category.element? = none ∨ entry.1 ≠ Operator.oneFulfills) :
    fragmentsOf path category entry = ofOperator path category entry.1 entry.2 := by
  rw [fragmentsOf]
  split
  · simp_all
  · simp_all
  · rfl

theorem compileFrom_cons (found : List Constraint) (entry : String × Json)
    (rest : List (String × Json)) :
    compileFrom path category found (entry :: rest) =
      fragmentsOf path category entry >>= fun fragments =>
        compileFrom path category (foldAll found fragments) rest := by
  obtain ⟨key, operand⟩ := entry
  rw [fragmentsOf]
  split
  · rename_i element inner he hk heq
    simp only at hk heq
    subst heq
    rw [compileFrom.eq_2 _ _ _ _ _ _ _ he hk, compileElement, compile]
    cases compileFrom (elementPath path) element [] inner <;> rfl
  · rename_i he hk hno
    rw [compileFrom.eq_3 _ _ _ _ _ _ _ he hk hno]
  · rename_i h₁ h₂
    rw [compileFrom.eq_4 _ _ _ _ _ _ h₁ h₂]

/-- Compiling entries is folding the fragments of all of them. -/
theorem compileFrom_eq_mapM (found : List Constraint) (entries : List (String × Json)) :
    compileFrom path category found entries =
      (entries.mapM (fragmentsOf path category)).map fun fragments =>
        foldAll found fragments.flatten := by
  induction entries generalizing found with
  | nil => rw [compileFrom]; rfl
  | cons entry rest ih =>
    rw [compileFrom_cons, Results.mapM_cons, Results.map_bind]
    refine congrArg (fragmentsOf path category entry >>= ·) (funext fun fragments => ?_)
    rw [ih, Results.map_map]
    simp only [List.flatten_cons, foldAll_append]

theorem compile_eq_mapM (entries : List (String × Json)) :
    compile path category entries =
      (entries.mapM (fragmentsOf path category)).map fun fragments =>
        foldAll [] fragments.flatten :=
  compileFrom_eq_mapM [] entries

theorem compile_eq_ok_iff {entries : List (String × Json)} {conjuncts : List Constraint} :
    compile path category entries = .ok conjuncts ↔
      ∃ fragments, entries.mapM (fragmentsOf path category) = .ok fragments ∧
        foldAll [] fragments.flatten = conjuncts := by
  rw [compile_eq_mapM, Results.map_eq_ok_iff]

theorem exists_entry_of_mem_flatten {entries : List (String × Json)}
    {lists : List (List Constraint)} (h : entries.mapM (fragmentsOf path category) = .ok lists)
    {fragment : Constraint} (hf : fragment ∈ lists.flatten) :
    ∃ entry ∈ entries, ∃ fragments, fragmentsOf path category entry = .ok fragments ∧
      fragment ∈ fragments := by
  obtain ⟨fragments, hl, hf⟩ := List.mem_flatten.1 hf
  obtain ⟨entry, he, hok⟩ := Results.exists_mem_of_mem_mapM h hl
  exact ⟨entry, he, fragments, hok, hf⟩

theorem compileElement_eq_ok_iff {element : Category} {inner : List (String × Json)}
    {envelopes : List Constraint} :
    compileElement path element inner = .ok envelopes ↔
      ∃ bodies, compile (elementPath path) element inner = .ok bodies ∧
        bodies.map inEnvelope = envelopes := by
  rw [compileElement, Results.bind_pure_eq_map, Results.map_eq_ok_iff]

/-- An operator that the category allows stands for one store operator. -/
theorem ofOperator_eq_ok_iff {key : String} {operand : Json} {fragments : List Constraint} :
    ofOperator path category key operand = .ok fragments ↔
      ∃ operator, Operator.ofName? key = some operator ∧
        (OperatorTable.lookup category operator).isSome ∧
        fragments = [[(operator.store.key, operator.storeOperand category operand)]] := by
  rw [ofOperator, OperatorTable.find?]
  cases ho : Operator.ofName? key with
  | none => simp
  | some operator =>
    cases hl : OperatorTable.lookup category operator with
    | none => simp [hl]
    | some template =>
      rw [Option.bind_some, hl]
      simp only [substitute_of_lookup hl, Except.ok.injEq]
      constructor
      · rintro rfl
        exact ⟨operator, rfl, by rw [hl]; rfl, rfl⟩
      · rintro ⟨_, h, -, rfl⟩
        cases h
        rfl

/-! ## The shape of fragments -/

/-- A constraint as compilation makes it: store operators without repetition, and under an
envelope a body of the same kind. -/
structure Emitted (constraint : Constraint) : Prop where
  ne_nil : constraint ≠ []
  nodup : (Entries.keys constraint).Nodup
  keys : ∀ key ∈ Entries.keys constraint, ∃ operator : Operator, key = operator.store.key
  body : ∀ value, Entries.get? constraint elemMatchKey = some value →
    ∃ body, value = .obj body ∧ Matching.Conditions body ∧ (Entries.keys body).Nodup

theorem Emitted.conditions {constraint : Constraint} (h : Emitted constraint) :
    Matching.Conditions constraint where
  ne_nil := h.ne_nil
  keys key hk := by
    obtain ⟨operator, rfl⟩ := h.keys key hk
    exact operator.isCondition_store

theorem Emitted.regular {constraint : Constraint} (h : Emitted constraint) :
    constraint.Regular where
  nodup := h.nodup
  body key value hv hk body hb := by
    subst hk
    obtain ⟨other, ho, -, hn⟩ := h.body value hv
    rw [hb] at ho
    cases ho
    exact hn

theorem mergeClosed_emitted : MergeClosed Emitted := by
  intro target fragment merged ht hf h
  have hr := ht.regular.merge? hf.regular h
  refine ⟨?_, hr.nodup, fun key hk => ?_, fun value hv => ?_⟩
  · intro hnil
    obtain ⟨entry, he⟩ := List.exists_mem_of_ne_nil _ ht.ne_nil
    obtain ⟨other, ho, -⟩ :=
      within_merge?_left hf.regular h _ _ (Entries.get?_eq_some_of_mem ht.nodup he)
    rw [hnil] at ho
    cases ho
  · obtain ⟨value, hv⟩ := Entries.mem_keys_iff_get?.1 hk
    rcases get?_merge?_cases hf.regular h hv with hv | hv | ⟨existing, -, hv, -⟩
    · exact ht.keys key (Entries.mem_keys_iff_get?.2 ⟨_, hv⟩)
    · exact hf.keys key (Entries.mem_keys_iff_get?.2 ⟨_, hv⟩)
    · exact ht.keys key (Entries.mem_keys_iff_get?.2 ⟨_, hv⟩)
  · rcases get?_merge?_cases hf.regular h hv with hv | hv | ⟨existing, incoming, he, hi, hc, rfl⟩
    · exact ht.body value hv
    · exact hf.body value hv
    · obtain ⟨body, rfl, hb, hbn⟩ := ht.body existing he
      obtain ⟨other, rfl, ho, hon⟩ := hf.body incoming hi
      have hd : ∀ inner ∈ Entries.keys other, inner ∉ Entries.keys body := by
        rcases collides_some_eq_false_iff.1 hc with ⟨-, _, _, h₁, h₂, hd⟩ | ⟨-, _, _, h₁, -⟩
        · cases h₁
          cases h₂
          exact hd
        · cases h₁
      refine ⟨body ++ other, ?_, hb.append ho, ?_⟩
      · rw [combine, Entries.insertAll_eq_append hon hd]
      · rw [← Entries.insertAll_eq_append hon hd]
        exact Entries.nodup_keys_insertAll other hbn

/-- A property of values that lists keep when they are concatenated and bodies when they are joined
is kept by merging the constraints that hold the values. -/
theorem mergeClosed_emitted_and {P : String → Json → Prop}
    (hlist : ∀ key ∈ listKeys, ∀ items others, P key (.arr items) → P key (.arr others) →
      P key (.arr (items ++ others)))
    (hbody : ∀ body other, Matching.Conditions body → Matching.Conditions other →
      P elemMatchKey (.obj body) → P elemMatchKey (.obj other) →
      P elemMatchKey (.obj (body ++ other))) :
    MergeClosed fun constraint => Emitted constraint ∧
      ∀ key value, Entries.get? constraint key = some value → P key value := by
  intro target fragment merged ⟨ht, htarget⟩ ⟨hf, hfragment⟩ h
  refine ⟨mergeClosed_emitted ht hf h, fun key value hv => ?_⟩
  rcases get?_merge?_cases hf.regular h hv with hv | hv | ⟨existing, incoming, he, hi, hc, rfl⟩
  · exact htarget key value hv
  · exact hfragment key value hv
  · have hexisting := htarget key existing he
    have hincoming := hfragment key incoming hi
    rcases collides_some_eq_false_iff.1 hc with
      ⟨rfl, body, other, rfl, rfl, hd⟩ | ⟨hk, items, others, rfl, rfl⟩
    · obtain ⟨_, hb, hconditions, -⟩ := ht.body _ he
      obtain ⟨_, ho, hothers, hn⟩ := hf.body _ hi
      cases hb
      cases ho
      rw [combine, Entries.insertAll_eq_append hn hd]
      exact hbody body other hconditions hothers hexisting hincoming
    · exact hlist key hk items others hexisting hincoming

theorem emitted_singleton (operator : Operator) (category : Category) (operand : Json) :
    Emitted [(operator.store.key, operator.storeOperand category operand)] where
  ne_nil := by simp
  nodup := by simp
  keys key hk := ⟨operator, by simpa using hk⟩
  body value hv := by
    have body (key : String) (value : Json) (h : Matching.IsCondition key) :
        ∃ body, Json.entry key value = .obj body ∧ Matching.Conditions body ∧
          (Entries.keys body).Nodup :=
      ⟨[(key, value)], rfl, ⟨by simp, by simpa using h⟩, by simp⟩
    cases operator
    case containsOneOf =>
      cases hv
      exact body _ _ (Operator.isCondition_store .oneOf)
    case containsGreaterThan =>
      cases hv
      exact body _ _ (Operator.isCondition_store .greaterThan)
    case containsGreaterOrEqualTo =>
      cases hv
      exact body _ _ (Operator.isCondition_store .greaterOrEqualTo)
    case containsLessThan =>
      cases hv
      exact body _ _ (Operator.isCondition_store .lessThan)
    case containsLessOrEqualTo =>
      cases hv
      exact body _ _ (Operator.isCondition_store .lessOrEqualTo)
    case containsRegexp =>
      cases hv
      exact body _ _ (Operator.isCondition_store .regexp)
    all_goals cases hv

theorem emitted_inEnvelope {body : Constraint} (h : Emitted body) : Emitted (inEnvelope body) where
  ne_nil := by simp [inEnvelope]
  nodup := by simp [inEnvelope]
  keys _ hk := ⟨.containsOneOf, List.mem_singleton.1 hk⟩
  body value hv := by
    rw [inEnvelope, Entries.get?, if_pos rfl] at hv
    cases hv
    exact ⟨body, rfl, h.conditions, h.nodup⟩

theorem emitted_ofOperator {key : String} {operand : Json} {fragments : List Constraint}
    (h : ofOperator path category key operand = .ok fragments) :
    ∀ fragment ∈ fragments, Emitted fragment := by
  obtain ⟨operator, -, -, rfl⟩ := ofOperator_eq_ok_iff.1 h
  simpa using emitted_singleton operator category operand

/-- What merges keep of the fragments of entries, compilation keeps. -/
theorem MergeClosed.compile {P : Constraint → Prop} (hP : MergeClosed P)
    {entries : List (String × Json)}
    (hf : ∀ entry ∈ entries, ∀ fragments, fragmentsOf path category entry = .ok fragments →
      ∀ fragment ∈ fragments, P fragment)
    {conjuncts : List Constraint} (h : Constraint.compile path category entries = .ok conjuncts) :
    ∀ constraint ∈ conjuncts, P constraint := by
  obtain ⟨fragments, hm, rfl⟩ := compile_eq_ok_iff.1 h
  refine hP.foldAll_nil fun fragment hmem => ?_
  obtain ⟨entry, he, list, hok, hfl⟩ := exists_entry_of_mem_flatten hm hmem
  exact hf entry he list hok fragment hfl

theorem emitted_of_compileElement {element : Category} (he : element.element? = none)
    {inner : List (String × Json)} {envelopes : List Constraint}
    (h : compileElement path element inner = .ok envelopes) :
    ∀ envelope ∈ envelopes, Emitted envelope := by
  obtain ⟨bodies, hb, rfl⟩ := compileElement_eq_ok_iff.1 h
  rw [List.forall_mem_map]
  refine fun body hbody => emitted_inEnvelope (mergeClosed_emitted.compile ?_ hb body hbody)
  intro entry _ fragments hok
  rw [fragmentsOf_operator (.inl he)] at hok
  exact emitted_ofOperator hok

theorem emitted_fragmentsOf {entry : String × Json} {fragments : List Constraint}
    (h : fragmentsOf path category entry = .ok fragments) :
    ∀ fragment ∈ fragments, Emitted fragment := by
  rw [fragmentsOf] at h
  split at h
  · rename_i he _ _
    exact emitted_of_compileElement (Category.element?_of_element? he) h
  · cases h
  · exact emitted_ofOperator h

theorem emitted_of_mapM {entries : List (String × Json)} {lists : List (List Constraint)}
    (h : entries.mapM (fragmentsOf path category) = .ok lists) :
    ∀ fragment ∈ lists.flatten, Emitted fragment := by
  intro fragment hmem
  obtain ⟨entry, -, fragments, hok, hf⟩ := exists_entry_of_mem_flatten h hmem
  exact emitted_fragmentsOf hok fragment hf

/-- Every object that compilation gives is well formed. -/
theorem emitted_of_compile {entries : List (String × Json)} {conjuncts : List Constraint}
    (h : compile path category entries = .ok conjuncts) :
    ∀ constraint ∈ conjuncts, Emitted constraint :=
  mergeClosed_emitted.compile (fun _ _ _ hok => emitted_fragmentsOf hok) h

/-! ## Fragments of one entry reject each other -/

theorem collides_body_iff {body other : Constraint} :
    collides elemMatchKey (some (.obj body)) (.obj other) = true ↔
      ∃ key ∈ Entries.keys other, key ∈ Entries.keys body := by
  rw [← Bool.not_eq_false, collides_some_eq_false_iff]
  constructor
  · intro h
    refine Classical.byContradiction fun hno => h (.inl ⟨rfl, body, other, rfl, rfl, ?_⟩)
    exact fun key hk hb => hno ⟨key, hk, hb⟩
  · rintro ⟨key, hk, hb⟩ (⟨-, _, _, h₁, h₂, hd⟩ | ⟨hl, -⟩)
    · cases h₁
      cases h₂
      exact hd key hk hb
    · exact elemMatchKey_notMem_listKeys hl

theorem exists_shared_key {target fragment : Constraint} (h : target.merge? fragment = none) :
    ∃ key ∈ Entries.keys fragment, key ∈ Entries.keys target := by
  obtain ⟨entry, he, hc⟩ := merge?_eq_none_iff.1 h
  refine ⟨entry.1, Entries.mem_keys_of_mem he, Decidable.byContradiction fun hk => ?_⟩
  rw [Entries.get?_eq_none_iff.2 hk] at hc
  cases hc

theorem merge?_inEnvelope {body other : Constraint}
    (h : ∃ key ∈ Entries.keys other, key ∈ Entries.keys body) :
    (inEnvelope body).merge? (inEnvelope other) = none :=
  merge?_eq_none_iff.2 ⟨_, List.mem_singleton_self _, collides_body_iff.2 h⟩

theorem clashing_compile {entries : List (String × Json)} {conjuncts : List Constraint}
    (h : compile path category entries = .ok conjuncts) : Clashing conjuncts := by
  obtain ⟨fragments, hm, rfl⟩ := compile_eq_ok_iff.1 h
  exact clashing_foldAll List.Pairwise.nil (by simp)
    fun fragment hmem => (emitted_of_mapM hm fragment hmem).regular

theorem clashing_compileElement {element : Category} {inner : List (String × Json)}
    {envelopes : List Constraint} (h : compileElement path element inner = .ok envelopes) :
    Clashing envelopes := by
  obtain ⟨bodies, hb, rfl⟩ := compileElement_eq_ok_iff.1 h
  refine List.pairwise_map.2 ((clashing_compile hb).imp fun hr => ?_)
  exact merge?_inEnvelope (exists_shared_key hr)

theorem clashing_fragmentsOf {entry : String × Json} {fragments : List Constraint}
    (h : fragmentsOf path category entry = .ok fragments) : Clashing fragments := by
  rw [fragmentsOf] at h
  split at h
  · exact clashing_compileElement h
  · cases h
  · obtain ⟨operator, -, -, rfl⟩ := ofOperator_eq_ok_iff.1 h
    exact List.pairwise_singleton _ _

/-- An entry by itself is compiled to its fragments as they are. -/
theorem compile_singleton (entry : String × Json) :
    compile path category [entry] = fragmentsOf path category entry := by
  rw [compile_eq_mapM, Results.mapM_cons]
  cases h : fragmentsOf path category entry with
  | error error => rfl
  | ok fragments =>
    have hf : foldAll [] [fragments].flatten = fragments := by
      rw [List.flatten_singleton, foldAll_eq_self (clashing_fragmentsOf h)]
    exact congrArg Except.ok hf

/-- No two envelopes of one entry can be merged, not even an envelope with itself. -/
theorem envelopes_collide {entry : String × Json} {fragments : List Constraint}
    (h : fragmentsOf path category entry = .ok fragments) {first second : Constraint}
    (h₁ : first ∈ fragments) (h₂ : second ∈ fragments) {value other : Json}
    (hv : Entries.get? first elemMatchKey = some value)
    (ho : Entries.get? second elemMatchKey = some other) :
    collides elemMatchKey (some value) other = true := by
  have hself : ∀ {body : Constraint}, body ≠ [] →
      ∃ key ∈ Entries.keys body, key ∈ Entries.keys body := by
    intro body hne
    obtain ⟨entry, he⟩ := List.exists_mem_of_ne_nil _ hne
    exact ⟨entry.1, Entries.mem_keys_of_mem he, Entries.mem_keys_of_mem he⟩
  have hemitted := emitted_fragmentsOf h
  rw [fragmentsOf] at h
  split at h
  · rename_i element inner he _ _
    obtain ⟨bodies, hb, rfl⟩ := compileElement_eq_ok_iff.1 h
    obtain ⟨body, hm₁, rfl⟩ := List.mem_map.1 h₁
    obtain ⟨body', hm₂, rfl⟩ := List.mem_map.1 h₂
    cases hv
    cases ho
    have hshare := (clashing_compile hb).imp exists_shared_key
    have hflip : bodies.Pairwise fun a b => ∃ key ∈ Entries.keys a, key ∈ Entries.keys b :=
      hshare.imp (Exists.imp fun _ => And.symm)
    refine collides_body_iff.2 (List.Pairwise.forall_of_forall_of_flip ?_ hshare hflip hm₁ hm₂)
    exact fun body hm => hself (emitted_of_compile hb body hm).ne_nil
  · cases h
  · obtain ⟨operator, -, -, rfl⟩ := ofOperator_eq_ok_iff.1 h
    rw [List.mem_singleton] at h₁ h₂
    subst h₁ h₂
    rw [hv] at ho
    cases ho
    obtain ⟨body, rfl, hb, -⟩ := (hemitted _ (List.mem_singleton_self _)).body value hv
    exact collides_body_iff.2 (hself hb.ne_nil)

/-- Only `contains_all` with the empty list asks for all of nothing. -/
theorem eq_containsAll_of_get?_all {entry : String × Json} {fragments : List Constraint}
    (h : fragmentsOf path category entry = .ok fragments) {fragment : Constraint}
    (hf : fragment ∈ fragments) (hv : Entries.get? fragment "$all" = some (.arr [])) :
    entry = (Operator.containsAll.name, .arr []) := by
  rw [fragmentsOf] at h
  split at h
  · obtain ⟨bodies, -, rfl⟩ := compileElement_eq_ok_iff.1 h
    obtain ⟨body, -, rfl⟩ := List.mem_map.1 hf
    cases hv
  · cases h
  · obtain ⟨operator, ho, -, rfl⟩ := ofOperator_eq_ok_iff.1 h
    rw [List.mem_singleton] at hf
    subst hf
    have hname : operator.name = entry.1 := Operator.ofName?_eq_some_iff.1 ho
    cases operator
    case containsAll =>
      have hoperand := Category.fill_listSlot_eq_nil (Option.some.inj hv)
      exact Prod.ext hname.symm hoperand
    case contains => exact absurd (Option.some.inj hv) (by simp [Operator.storeOperand])
    all_goals cases hv

end Constraint

end SchemaQuery
