import SchemaQuery.Proofs.ElementQueries

/-!
# Well-formed filters

The clauses of a compiled filter are on paths of the type map, and their constraints hold store
operators that operators of the category stand for (`mergeClosed_wellFormed`,
`wellFormed_fragmentsOf`). The rendered filter therefore has no empty list of clauses, and no
constraint in it is read as a value to compare with (`compileFor_wellFormed`). The envelopes that
templates put around operands hold these operands, whatever they are (`envelope_holds_operand`).
-/

namespace SchemaQuery

/-! ## Store operators of a category -/

/-- The keys of the fragments that a template gives. -/
def Template.keys : Template → List String
  | .object entries => Entries.keys entries
  | _ => []

/-- Some operator of the category gives fragments with the store operator. -/
def Category.Emits (category : Category) (store : StoreOperator) : Prop :=
  ∃ operator template, OperatorTable.lookup category operator = some template ∧
    store.key ∈ template.keys

theorem keys_of_lookup {category : Category} {operator : Operator} {template : Template}
    (h : OperatorTable.lookup category operator = some template) :
    template.keys = [operator.store.key] := by
  cases operator <;> simp only [OperatorTable.lookup, Option.ite_none_right_eq_some,
    Option.some.injEq] at h <;> obtain ⟨-, rfl⟩ := h <;> rfl

theorem emits_store {category : Category} {operator : Operator}
    (h : (OperatorTable.lookup category operator).isSome = true) :
    category.Emits operator.store := by
  obtain ⟨template, ht⟩ := Option.isSome_iff_exists.1 h
  refine ⟨operator, template, ht, ?_⟩
  rw [keys_of_lookup ht]
  exact List.mem_singleton_self _

/-- On every list, some operators ask for a single element. -/
theorem emits_elemMatch {category element : Category} (h : category.element? = some element) :
    category.Emits .elemMatch := by
  have hlookup : (OperatorTable.lookup category .containsOneOf).isSome = true := by
    cases category <;> cases h <;> rfl
  exact emits_store hlookup

/-! ## Constraints -/

namespace Constraint

open Matching (Conditions)

/-- A constraint on a field of the category: store operators of the category, and under an envelope
store operators as well, none of them logical. -/
structure WellFormed (category : Category) (constraint : Constraint) : Prop where
  ne_nil : constraint ≠ []
  keys : ∀ key ∈ Entries.keys constraint, ∃ store : StoreOperator,
    store.key = key ∧ category.Emits store
  body : ∀ value, (elemMatchKey, value) ∈ constraint → ∃ body, value = .obj body ∧ body ≠ [] ∧
    ∀ key ∈ Entries.keys body, (∃ store : StoreOperator, store.key = key) ∧
      LogicalOperator.ofKey? key = none

/-- The key is a store operator of the category, and if it opens an envelope, all keys of the body
are store operators. -/
structure ValueWellFormed (category : Category) (key : String) (value : Json) : Prop where
  emits : ∃ store : StoreOperator, store.key = key ∧ category.Emits store
  body : key = elemMatchKey → ∀ body, value = .obj body → ∀ inner ∈ Entries.keys body,
    ∃ store : StoreOperator, store.key = inner

/-- All values of a constraint that comes from a query are well formed. -/
structure ValuesWellFormed (category : Category) (constraint : Constraint) : Prop where
  emitted : Emitted constraint
  values : ∀ key value, Entries.get? constraint key = some value →
    ValueWellFormed category key value

variable {path : String} {category : Category} {constraint : Constraint}

theorem ValuesWellFormed.wellFormed (h : ValuesWellFormed category constraint) :
    WellFormed category constraint where
  ne_nil := h.emitted.ne_nil
  keys key hk := by
    obtain ⟨value, hv⟩ := Entries.mem_keys_iff_get?.1 hk
    exact (h.values key value hv).emits
  body value hm := by
    have hv := Entries.get?_eq_some_of_mem h.emitted.nodup hm
    obtain ⟨body, rfl, hconditions, -⟩ := h.emitted.body value hv
    refine ⟨body, rfl, hconditions.ne_nil, fun key hk => ⟨?_, (hconditions.keys key hk).notLogical⟩⟩
    exact (h.values _ _ hv).body rfl body rfl key hk

theorem mergeClosed_valuesWellFormed (category : Category) :
    MergeClosed (ValuesWellFormed category) := by
  intro target fragment merged ht hf h
  have hlist : ∀ key ∈ listKeys, ∀ items others,
      ValueWellFormed category key (.arr items) → ValueWellFormed category key (.arr others) →
      ValueWellFormed category key (.arr (items ++ others)) := by
    intro key hk items others hitems _
    exact ⟨hitems.emits, fun he => absurd (he ▸ hk) elemMatchKey_notMem_listKeys⟩
  have hbody : ∀ body other, Conditions body → Conditions other →
      ValueWellFormed category elemMatchKey (.obj body) →
      ValueWellFormed category elemMatchKey (.obj other) →
      ValueWellFormed category elemMatchKey (.obj (body ++ other)) := by
    intro body other _ _ hfirst hsecond
    refine ⟨hfirst.emits, fun _ joined hjoined inner hi => ?_⟩
    cases hjoined
    rw [Entries.keys, List.map_append, List.mem_append] at hi
    rcases hi with hi | hi
    · exact hfirst.body rfl body rfl inner hi
    · exact hsecond.body rfl other rfl inner hi
  obtain ⟨hemitted, hvalues⟩ :=
    mergeClosed_emitted_and hlist hbody ⟨ht.emitted, ht.values⟩ ⟨hf.emitted, hf.values⟩ h
  exact ⟨hemitted, hvalues⟩

theorem valuesWellFormed_ofOperator {key : String} {operand : Json} {fragments : List Constraint}
    (h : ofOperator path category key operand = .ok fragments) :
    ∀ fragment ∈ fragments, ValuesWellFormed category fragment := by
  obtain ⟨operator, -, hl, rfl⟩ := ofOperator_eq_ok_iff.1 h
  rw [List.forall_mem_singleton]
  refine ⟨emitted_singleton operator category operand, fun key value hv => ?_⟩
  cases List.mem_singleton.1 (Entries.mem_of_get?_eq_some hv)
  refine ⟨⟨operator.store, rfl, emits_store hl⟩, fun hkey body hbody inner hi => ?_⟩
  have hstore : operator.store = .elemMatch := StoreOperator.key_injective hkey
  obtain ⟨asked, hasked⟩ := Operator.store_eq_elemMatch_iff.1 hstore
  rw [Operator.storeOperand_of_onElement? hasked] at hbody
  cases hbody
  exact ⟨asked.store, (List.mem_singleton.1 hi).symm⟩

theorem valuesWellFormed_inEnvelope {element : Category} (he : category.element? = some element)
    {body : Constraint} (h : Emitted body) : ValuesWellFormed category (inEnvelope body) := by
  refine ⟨emitted_inEnvelope h, fun key value hv => ?_⟩
  cases List.mem_singleton.1 (Entries.mem_of_get?_eq_some hv)
  refine ⟨⟨.elemMatch, rfl, emits_elemMatch he⟩, fun _ other hother inner hi => ?_⟩
  cases hother
  obtain ⟨operator, rfl⟩ := h.keys inner hi
  exact ⟨operator.store, rfl⟩

theorem valuesWellFormed_fragmentsOf {entry : String × Json} {fragments : List Constraint}
    (h : fragmentsOf path category entry = .ok fragments) :
    ∀ fragment ∈ fragments, ValuesWellFormed category fragment := by
  rw [fragmentsOf] at h
  split at h
  · rename_i element inner he _ _
    obtain ⟨bodies, hb, rfl⟩ := compileElement_eq_ok_iff.1 h
    rw [List.forall_mem_map]
    exact fun body hm => valuesWellFormed_inEnvelope he (emitted_of_compile hb body hm)
  · cases h
  · exact valuesWellFormed_ofOperator h

end Constraint

/-! ## Filters -/

/-- A clause on a path of the type map, with a constraint for its category. -/
def Clause.WellFormed (types : TypeMap) (clause : Clause) : Prop :=
  ∃ category, types.get? clause.path = some category ∧ clause.constraint.WellFormed category

/-- All clauses of the filter are well formed, and no alternative is empty or has clauses on
different paths. -/
structure Filter.WellFormed (types : TypeMap) (filter : Filter) : Prop where
  all : ∀ clause ∈ filter.all, clause.WellFormed types
  any : ∀ alternative ∈ filter.any, alternative ≠ [] ∧
    (∀ clause ∈ alternative, clause.WellFormed types) ∧
    ∃ path, ∀ clause ∈ alternative, clause.path = path

/-! ## Rendered filters -/

namespace Matching

/-- A list that has items, all of them with the property. -/
def IsGroup (P : Json → Prop) (value : Json) : Prop :=
  ∃ items, value = .arr items ∧ items ≠ [] ∧ ∀ item ∈ items, P item

/-- A path with an object that is read as operators, rather than compared with. -/
def IsClause (value : Json) : Prop :=
  ∃ path constraint, value = .entry path (.obj constraint) ∧ isOperatorObject constraint = true

/-- A clause, or several under `$and`. -/
def IsAlternative (value : Json) : Prop :=
  IsClause value ∨ ∃ clauses, value = .entry "$and" clauses ∧ IsGroup IsClause clauses

/-- Groups of clauses under `$and` and of alternatives under `$or`. -/
def IsRendered (document : Json) : Prop :=
  ∃ entries, document = .obj entries ∧ ∀ entry ∈ entries,
    entry.1 = "$and" ∧ IsGroup IsClause entry.2 ∨ entry.1 = "$or" ∧ IsGroup IsAlternative entry.2

theorem isGroup_map {α : Type} {P : Json → Prop} {f : α → Json} {xs : List α} (hne : xs ≠ [])
    (h : ∀ x ∈ xs, P (f x)) : IsGroup P (.arr (xs.map f)) :=
  ⟨_, rfl, by simpa using hne, List.forall_mem_map.2 h⟩

end Matching

namespace Constraint

theorem WellFormed.isOperatorObject {category : Category} {constraint : Constraint}
    (h : WellFormed category constraint) : Matching.isOperatorObject constraint = true := by
  have hall : constraint.all (fun entry => isOperatorKey entry.1) = true := by
    rw [List.all_eq_true]
    intro entry he
    obtain ⟨store, hstore, -⟩ := h.keys _ (Entries.mem_keys_of_mem he)
    rw [← hstore]
    cases store <;> rfl
  have hne : constraint.isEmpty = false := by simpa using h.ne_nil
  rw [Matching.isOperatorObject, hne]
  exact hall

end Constraint

namespace Filter

open Matching (IsClause IsAlternative IsRendered isGroup_map)

variable {types : TypeMap} {filter : Filter}

theorem isClause_toDocument {clause : Clause} (h : clause.WellFormed types) :
    IsClause clause.toDocument := by
  obtain ⟨category, -, hc⟩ := h
  exact ⟨clause.path, clause.constraint, rfl, hc.isOperatorObject⟩

theorem isAlternative_alternative {clauses : List Clause} (hne : clauses ≠ [])
    (h : ∀ clause ∈ clauses, clause.WellFormed types) : IsAlternative (alternative clauses) := by
  rw [alternative.eq_def]
  split
  · exact .inl (isClause_toDocument (h _ (List.mem_singleton_self _)))
  · exact .inr ⟨_, rfl, isGroup_map hne fun clause hm => isClause_toDocument (h clause hm)⟩

theorem WellFormed.isRendered (h : filter.WellFormed types) : IsRendered filter.toDocument := by
  refine ⟨_, rfl, List.forall_mem_append.2 ⟨?_, ?_⟩⟩
  · split
    · simp
    · rename_i hne
      rw [List.forall_mem_singleton]
      refine .inl ⟨rfl, isGroup_map (by simpa using hne) fun clause hm => ?_⟩
      exact isClause_toDocument (h.all clause hm)
  · split
    · simp
    · rename_i hne
      rw [List.forall_mem_singleton]
      refine .inr ⟨rfl, isGroup_map (by simpa using hne) fun alternative hm => ?_⟩
      obtain ⟨hclauses, hwellFormed, -⟩ := h.any alternative hm
      exact isAlternative_alternative hclauses hwellFormed

/-- A filter is empty when it is rendered as the empty object. -/
theorem isEmpty_iff_toDocument (filter : Filter) :
    filter.isEmpty = true ↔ filter.toDocument = .obj [] := by
  obtain ⟨all, any⟩ := filter
  cases all <;> cases any <;> simp [isEmpty, toDocument]

end Filter

namespace Query

variable {types : TypeMap} {query : Json} {filter : Filter}

theorem wellFormed_clauses (h : compile types query = .ok filter) :
    (∀ clause ∈ filter.all, clause.WellFormed types) ∧
      ∀ alternative ∈ filter.any, ∀ clause ∈ alternative, clause.WellFormed types := by
  let P (path : String) (constraint : Constraint) : Prop :=
    ∃ category, types.get? path = some category ∧ constraint.ValuesWellFormed category
  have hclosed : ∀ path, Constraint.MergeClosed (P path) := by
    rintro path target fragment merged ⟨category, hc, ht⟩ ⟨other, ho, hf⟩ hm
    obtain rfl : category = other := Option.some.inj (hc.symm.trans ho)
    exact ⟨category, hc, Constraint.mergeClosed_valuesWellFormed category ht hf hm⟩
  have hfragments : ∀ path fragment, Asks types query path fragment → P path fragment := by
    rintro _ fragment ⟨node, hn, rfl, entry, -, fragments, hok, hf⟩
    obtain ⟨hbound, -⟩ := exists_compile_of_mem h hn
    exact ⟨_, hbound.category, Constraint.valuesWellFormed_fragmentsOf hok fragment hf⟩
  have hwellFormed : ∀ {clause : Clause}, P clause.path clause.constraint →
      clause.WellFormed types := fun ⟨category, hc, hv⟩ => ⟨category, hc, hv.wellFormed⟩
  obtain ⟨hall, hany⟩ := forall_clauses h hclosed hfragments
  exact ⟨fun clause hm => hwellFormed (hall clause hm),
    fun alternative ha clause hm => hwellFormed (hany alternative ha clause hm)⟩

theorem wellFormed_of_compile (h : compile types query = .ok filter) : filter.WellFormed types := by
  obtain ⟨hall, hany⟩ := wellFormed_clauses h
  refine ⟨hall, fun alternative hm => ⟨ne_nil_of_mem_any h _ hm, hany alternative hm, ?_⟩⟩
  obtain ⟨_, path, conjuncts, -, -, -, rfl⟩ := (mem_any_iff h).1 hm
  exact ⟨path, List.forall_mem_map.2 fun _ _ => rfl⟩

/-- Every compiled filter is well formed, and so is the document that it is rendered as. -/
theorem compileFor_wellFormed {format : Format} (h : compileFor format query = .ok filter) :
    filter.WellFormed (.ofFormat format) ∧ Matching.IsRendered filter.toDocument ∧
      (filter.isEmpty = true ↔ filter.toDocument = .obj []) :=
  have hwellFormed := wellFormed_of_compile h
  ⟨hwellFormed, hwellFormed.isRendered, filter.isEmpty_iff_toDocument⟩

theorem tagFilter_wellFormed :
    tagFilter.WellFormed (.ofFormat tagFormat) ∧ Matching.IsRendered tagFilter.toDocument ∧
      (tagFilter.isEmpty = true ↔ tagFilter.toDocument = .obj []) :=
  compileFor_wellFormed compileFor_tagQuery

/-- The envelope that a template puts around an operand has the keys of the operand. -/
theorem envelope_holds_operand :
    ∃ filter, compileFor [("wallet", .arrayOf .object)] (.entry "wallet"
        (.entry "identical_to" (.arr [.entry "a" (.int 1), .entry "b" (.int 2)]))) = .ok filter ∧
      ∃ clause ∈ filter.all, ∃ items, ("$eq", .arr items) ∈ clause.constraint ∧
        ∃ body, .entry elemMatchKey (.obj body) ∈ items ∧
          ∃ key ∈ Entries.keys body, isOperatorKey key = false := by
  refine ⟨⟨[⟨"wallet", [("$eq", .arr [envelope (.entry "a" (.int 1)),
    envelope (.entry "b" (.int 2))])]⟩], []⟩, by cbv, _, List.mem_singleton_self _, _,
    List.mem_singleton_self _, [("a", .int 1)], List.mem_cons_self, "a", List.mem_cons_self, ?_⟩
  decide

end Query

end SchemaQuery
