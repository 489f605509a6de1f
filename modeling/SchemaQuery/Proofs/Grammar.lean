import SchemaQuery.Proofs.ElementQueries

/-!
# The grammar of queries

A query compiles exactly when every operator object that a walk through it meets follows the grammar
(`exists_compile_iff`): its keys are operators that the category allows, element queries of lists,
or combinators with such objects as items. What the grammar does not look at, compilation does not
depend on: queries that differ in operands, in the order of keys, or under keys that mean nothing,
compile together or not at all (`Alike.accepts_iff`). Both are stated for formats in
`compileFor_ok_iff`.
-/

namespace SchemaQuery

namespace Constraint

/-! ## Operator objects -/

variable {path : String} {category element : Category}

/-- The entry has an operator that the category allows, or on a list, it is a query on one element
with operators that the category of an element allows. -/
def AcceptsEntry (category : Category) (entry : String × Json) : Prop :=
  Legal category entry.1 ∨ entry.1 = Operator.oneFulfills ∧ ∃ element inner,
    category.element? = some element ∧ entry.2 = .obj inner ∧
    ∀ key ∈ Entries.keys inner, Legal element key

theorem exists_ofOperator_iff {key : String} {operand : Json} :
    (∃ fragments, ofOperator path category key operand = .ok fragments) ↔ Legal category key := by
  constructor
  · rintro ⟨fragments, h⟩
    obtain ⟨operator, ho, hl, -⟩ := ofOperator_eq_ok_iff.1 h
    rw [Legal, OperatorTable.find?, ho]
    exact hl
  · intro h
    obtain ⟨operator, -, ho, hl⟩ := h.exists_operator
    exact ⟨_, ofOperator_eq_ok_iff.2 ⟨operator, ho, hl, rfl⟩⟩

theorem exists_compile_iff_fragmentsOf {entries : List (String × Json)} :
    (∃ conjuncts, compile path category entries = .ok conjuncts) ↔
      ∀ entry ∈ entries, ∃ fragments, fragmentsOf path category entry = .ok fragments := by
  rw [← Results.exists_mapM_eq_ok_iff]
  constructor
  · rintro ⟨conjuncts, h⟩
    obtain ⟨fragments, hm, -⟩ := compile_eq_ok_iff.1 h
    exact ⟨fragments, hm⟩
  · rintro ⟨fragments, hm⟩
    exact ⟨_, compile_eq_ok_iff.2 ⟨fragments, hm, rfl⟩⟩

/-- A query on one element compiles when the category of the element allows all its keys. -/
theorem exists_compileElement_iff (he : element.element? = none) {inner : List (String × Json)} :
    (∃ envelopes, compileElement path element inner = .ok envelopes) ↔
      ∀ key ∈ Entries.keys inner, Legal element key := by
  have hbodies : (∃ envelopes, compileElement path element inner = .ok envelopes) ↔
      ∃ bodies, compile (elementPath path) element inner = .ok bodies := by
    constructor
    · rintro ⟨envelopes, h⟩
      obtain ⟨bodies, hb, -⟩ := compileElement_eq_ok_iff.1 h
      exact ⟨bodies, hb⟩
    · rintro ⟨bodies, hb⟩
      exact ⟨_, compileElement_eq_ok_iff.2 ⟨bodies, hb, rfl⟩⟩
  rw [hbodies, exists_compile_iff_fragmentsOf, Entries.keys, List.forall_mem_map]
  refine forall_congr' fun entry => imp_congr_right fun _ => ?_
  rw [fragmentsOf_operator (.inl he)]
  exact exists_ofOperator_iff

theorem exists_fragmentsOf_iff {entry : String × Json} :
    (∃ fragments, fragmentsOf path category entry = .ok fragments) ↔
      AcceptsEntry category entry := by
  obtain ⟨key, operand⟩ := entry
  by_cases hk : key = Operator.oneFulfills ∧ category.element?.isSome = true
  · obtain ⟨rfl, hsome⟩ := hk
    obtain ⟨element, he⟩ := Option.isSome_iff_exists.1 hsome
    have hlegal : ¬ Legal category Operator.oneFulfills := fun h => h.ne_oneFulfills rfl
    cases operand with
    | obj inner =>
      rw [fragmentsOf_oneFulfills he,
        exists_compileElement_iff (Category.element?_of_element? he)]
      constructor
      · exact fun h => .inr ⟨rfl, element, inner, he, rfl, h⟩
      · rintro (h | ⟨-, other, _, ho, hobj, h⟩)
        · exact absurd h hlegal
        · obtain rfl : element = other := Option.some.inj (he.symm.trans ho)
          cases hobj
          exact h
    | _ =>
      refine iff_of_false ?_ ?_
      · rintro ⟨fragments, h⟩
        simp only [fragmentsOf, he, decide_true, reduceCtorEq] at h
      · rintro (h | ⟨-, _, _, -, hobj, -⟩)
        · exact absurd h hlegal
        · cases hobj
  · have hoperator : category.element? = none ∨ key ≠ Operator.oneFulfills := by
      cases he : category.element? with
      | none => exact .inl rfl
      | some element => exact .inr fun h => hk ⟨h, by rw [he]; rfl⟩
    rw [fragmentsOf_operator hoperator, exists_ofOperator_iff]
    constructor
    · exact .inl
    · rintro (h | ⟨rfl, element, _, he, -⟩)
      · exact h
      · exact absurd ⟨rfl, by rw [he]; rfl⟩ hk

/-- Entries compile when each of them follows the grammar. -/
theorem exists_compile_iff {entries : List (String × Json)} :
    (∃ conjuncts, compile path category entries = .ok conjuncts) ↔
      ∀ entry ∈ entries, AcceptsEntry category entry := by
  rw [exists_compile_iff_fragmentsOf]
  exact forall_congr' fun entry => imp_congr_right fun _ => exists_fragmentsOf_iff

end Constraint

namespace Query

open Assembly (Step)
open Constraint (AcceptsEntry Legal)

variable {types : TypeMap} {path : String} {category : Category}

/-! ## Nodes -/

/-- The item of a combinator is an object whose entries follow the grammar. -/
def AcceptsItem (category : Category) (item : Json) : Prop :=
  ∃ entries, item = .obj entries ∧ ∀ entry ∈ entries, AcceptsEntry category entry

/-- A combinator is bound to a list of items, and any other entry follows the grammar. -/
def AcceptsNodeEntry (category : Category) (entry : String × Json) : Prop :=
  match Combinator.ofKey? entry.1 with
  | some _ => ∃ items, entry.2 = .arr items ∧ ∀ item ∈ items, AcceptsItem category item
  | none => AcceptsEntry category entry

theorem exists_itemStep_iff {combinator : Combinator} {item : Json} :
    (∃ step, itemStep path category combinator item = .ok step) ↔ AcceptsItem category item := by
  constructor
  · rintro ⟨step, h⟩
    obtain ⟨entries, conjuncts, rfl, hc, -⟩ := itemStep_eq_ok_iff.1 h
    exact ⟨entries, rfl, Constraint.exists_compile_iff.1 ⟨conjuncts, hc⟩⟩
  · rintro ⟨entries, rfl, h⟩
    obtain ⟨conjuncts, hc⟩ := Constraint.exists_compile_iff.2 h
    exact ⟨_, itemStep_eq_ok_iff.2 ⟨entries, conjuncts, rfl, hc, rfl⟩⟩

theorem exists_combinatorSteps_iff {combinator : Combinator} {value : Json} :
    (∃ steps, combinatorSteps path category (combinator, value) = .ok steps) ↔
      ∃ items, value = .arr items ∧ ∀ item ∈ items, AcceptsItem category item := by
  cases value with
  | arr items =>
    rw [combinatorSteps, Results.exists_mapM_eq_ok_iff]
    simp only [exists_itemStep_iff, Json.arr.injEq, exists_eq_left']
  | _ =>
    refine iff_of_false ?_ ?_
    · rintro ⟨_, h⟩
      cases h
    · rintro ⟨_, h, _⟩
      cases h

/-- The operator object that is bound to a field compiles when its entries follow the grammar. -/
theorem exists_nodeSteps_field_iff {body : List (String × Json)} :
    (∃ steps, nodeSteps ⟨path, category, body, false⟩ = .ok steps) ↔
      ∀ entry ∈ body, AcceptsNodeEntry category entry := by
  let node : QueryNode := ⟨path, category, body, false⟩
  have hsteps : (∃ steps, nodeSteps node = .ok steps) ↔
      (∃ hoists, node.combinators.mapM (combinatorSteps path category) = .ok hoists) ∧
        ∃ constraints, Constraint.compile path category node.plainEntries = .ok constraints := by
    constructor
    · rintro ⟨steps, h⟩
      obtain ⟨hoists, constraints, hh, hc, -⟩ := nodeSteps_eq_ok_iff.1 h
      exact ⟨⟨hoists, hh⟩, constraints, hc⟩
    · rintro ⟨⟨hoists, hh⟩, constraints, hc⟩
      exact ⟨_, nodeSteps_eq_ok_iff.2 ⟨hoists, constraints, hh, hc, rfl⟩⟩
  rw [hsteps, Results.exists_mapM_eq_ok_iff, Constraint.exists_compile_iff]
  constructor
  · rintro ⟨hcombinators, hplain⟩ ⟨key, value⟩ he
    unfold AcceptsNodeEntry
    cases hk : Combinator.ofKey? key with
    | some combinator =>
      have hm : (combinator, value) ∈ node.combinators :=
        List.mem_filterMap.2 ⟨_, he, by simp [hk]⟩
      exact exists_combinatorSteps_iff.1 (hcombinators _ hm)
    | none => exact hplain _ (List.mem_filter.2 ⟨he, by simp [hk]⟩)
  · intro h
    constructor
    · rintro ⟨combinator, value⟩ hm
      obtain ⟨⟨key, other⟩, he, heq⟩ := List.mem_filterMap.1 hm
      obtain ⟨found, hk, hfound⟩ := Option.map_eq_some_iff.1 heq
      cases hfound
      have hentry := h _ he
      rw [AcceptsNodeEntry, hk] at hentry
      exact exists_combinatorSteps_iff.2 hentry
    · intro entry hm
      obtain ⟨he, hk⟩ := List.mem_filter.1 hm
      have hentry := h _ he
      rwa [AcceptsNodeEntry, Option.isNone_iff_eq_none.1 hk] at hentry

/-- The element query of a list compiles when the category of an element allows all its keys. -/
theorem exists_nodeSteps_element_iff {element : Category} (he : category.element? = some element)
    {body : List (String × Json)} :
    (∃ steps, nodeSteps ⟨path, category, body, true⟩ = .ok steps) ↔
      ∀ key ∈ Entries.keys body, Legal element key := by
  rw [nodeSteps_of_onElement path he,
    ← Constraint.exists_compileElement_iff (Category.element?_of_element? he)]
  constructor
  · rintro ⟨steps, h⟩
    obtain ⟨envelopes, hc, -⟩ := Results.map_eq_ok_iff.1 h
    exact ⟨envelopes, hc⟩
  · rintro ⟨envelopes, hc⟩
    exact ⟨_, Results.map_eq_ok_iff.2 ⟨envelopes, hc, rfl⟩⟩

/-! ## The walk -/

/-- Walking through the entries at a path meets a value that is bound to a field or to the element
queries of a list. -/
inductive Meets (types : TypeMap) : Option String → List (String × Json) → Target → Json → Prop
  | field {parent : Option String} {entries : List (String × Json)} {key : String} {value : Json}
      {category : Category} (hm : (key, value) ∈ entries)
      (ht : target types (joinPath parent key) = .field category) :
      Meets types parent entries (.field category) value
  | element {parent : Option String} {entries : List (String × Json)} {key list : String}
      {value : Json} {category : Category} (hm : (key, value) ∈ entries)
      (ht : target types (joinPath parent key) = .element list category) :
      Meets types parent entries (.element list category) value
  | inside {parent : Option String} {entries inner : List (String × Json)} {key : String}
      {found : Target} {value : Json} (hm : (key, .obj inner) ∈ entries)
      (ht : target types (joinPath parent key) = .above)
      (h : Meets types (some (joinPath parent key)) inner found value) :
      Meets types parent entries found value

/-- What the walk meets is an object that follows the grammar of its target. -/
def AcceptsTerminal : Target → Json → Prop
  | .field category, .obj body => ∀ entry ∈ body, AcceptsNodeEntry category entry
  | .element _ category, .obj body => ∃ element, category.element? = some element ∧
      ∀ key ∈ Entries.keys body, Legal element key
  | _, _ => False

/-- Everything that the walk meets among the entries follows the grammar. -/
def AcceptsEntries (types : TypeMap) (parent : Option String) (entries : List (String × Json)) :
    Prop :=
  ∀ found value, Meets types parent entries found value → AcceptsTerminal found value

/-- A query follows the grammar: it is `null`, or an object in which everything that the walk meets
does. -/
def Accepts (types : TypeMap) : Json → Prop
  | .null => True
  | .obj entries => AcceptsEntries types none entries
  | _ => False

variable {parent : Option String} {entries others : List (String × Json)}

theorem Meets.mono {found : Target} {value : Json} (h : Meets types parent entries found value)
    (hsub : ∀ entry ∈ entries, entry ∈ others) : Meets types parent others found value := by
  cases h with
  | field hm ht => exact .field (hsub _ hm) ht
  | element hm ht => exact .element (hsub _ hm) ht
  | inside hm ht h => exact .inside (hsub _ hm) ht h

/-- The value that is bound to a path follows the grammar. -/
def AcceptsValue (types : TypeMap) (path : String) (value : Json) : Prop :=
  match target types path with
  | .above => ∀ inner, value = .obj inner → AcceptsEntries types (some path) inner
  | .unknown => True
  | found => AcceptsTerminal found value

theorem acceptsEntries_nil : AcceptsEntries types parent [] := by
  intro found value h
  cases h with
  | field hm => cases hm
  | element hm => cases hm
  | inside hm => cases hm

theorem acceptsEntries_cons_iff {key : String} {value : Json} :
    AcceptsEntries types parent ((key, value) :: entries) ↔
      AcceptsValue types (joinPath parent key) value ∧ AcceptsEntries types parent entries := by
  unfold AcceptsValue
  constructor
  · intro h
    refine ⟨?_, fun found other hm => h found other (hm.mono fun _ => List.mem_cons_of_mem _)⟩
    cases ht : target types (joinPath parent key) with
    | field category => exact h _ _ (.field List.mem_cons_self ht)
    | element list category => exact h _ _ (.element List.mem_cons_self ht)
    | above =>
      rintro inner rfl found other hm
      exact h _ _ (.inside List.mem_cons_self ht hm)
    | unknown => trivial
  · rintro ⟨hvalue, hrest⟩ found other hm
    cases hm with
    | field hm ht =>
      rcases List.mem_cons.1 hm with heq | hm
      · cases heq
        rwa [ht] at hvalue
      · exact hrest _ _ (.field hm ht)
    | element hm ht =>
      rcases List.mem_cons.1 hm with heq | hm
      · cases heq
        rwa [ht] at hvalue
      · exact hrest _ _ (.element hm ht)
    | inside hm ht h =>
      rcases List.mem_cons.1 hm with heq | hm
      · cases heq
        rw [ht] at hvalue
        exact hvalue _ rfl _ _ h
      · exact hrest _ _ (.inside hm ht h)

/-- The nodes can be read, and each of them compiles. -/
def NodesCompile (found : Except QueryError (List QueryNode)) : Prop :=
  ∃ nodes, found = .ok nodes ∧ ∀ node ∈ nodes, ∃ steps, nodeSteps node = .ok steps

theorem nodesCompile_singleton_iff {node : QueryNode} :
    NodesCompile (.ok [node]) ↔ ∃ steps, nodeSteps node = .ok steps := by
  constructor
  · rintro ⟨_, h, hsteps⟩
    cases h
    exact hsteps node (List.mem_singleton_self _)
  · exact fun h => ⟨_, rfl, List.forall_mem_singleton.2 h⟩

theorem nodesCompile_nodesOfEntries_cons_iff {entry : String × Json} :
    NodesCompile (nodesOfEntries types parent (entry :: entries)) ↔
      NodesCompile (nodesOfEntry types parent entry) ∧
        NodesCompile (nodesOfEntries types parent entries) := by
  unfold NodesCompile
  simp only [nodesOfEntries_cons, Results.bind_pure_eq_map, Results.bind_eq_ok_iff,
    Results.map_eq_ok_iff]
  constructor
  · rintro ⟨_, ⟨found, hf, rest, hr, rfl⟩, hsteps⟩
    rw [List.forall_mem_append] at hsteps
    exact ⟨⟨found, hf, hsteps.1⟩, rest, hr, hsteps.2⟩
  · rintro ⟨⟨found, hf, hfound⟩, rest, hr, hrest⟩
    exact ⟨_, ⟨found, hf, rest, hr, rfl⟩, List.forall_mem_append.2 ⟨hfound, hrest⟩⟩

/-- The nodes that an entry gives compile when its value follows the grammar, if this holds of the
entries inside of the value. -/
theorem nodesCompile_nodesOfEntry_iff {key : String} {value : Json}
    (hinner : ∀ inner, value = .obj inner → ∀ parent,
      NodesCompile (nodesOfEntries types parent inner) ↔ AcceptsEntries types parent inner) :
    NodesCompile (nodesOfEntry types parent (key, value)) ↔
      AcceptsValue types (joinPath parent key) value := by
  have herror : ∀ error : QueryError, ¬ NodesCompile (.error error) := by
    rintro error ⟨_, h, -⟩
    cases h
  have hnone : NodesCompile (.ok []) := ⟨[], rfl, by simp⟩
  simp only [nodesOfEntry, AcceptsValue]
  cases ht : target types (joinPath parent key) with
  | field category =>
    cases value with
    | obj body => exact nodesCompile_singleton_iff.trans exists_nodeSteps_field_iff
    | _ => exact iff_of_false (herror _) id
  | element list category =>
    obtain ⟨-, harray⟩ := get?_of_target_element ht
    obtain ⟨element, he⟩ := Option.isSome_iff_exists.1 harray
    cases value with
    | obj body =>
      refine (nodesCompile_singleton_iff.trans (exists_nodeSteps_element_iff he)).trans ?_
      constructor
      · exact fun h => ⟨element, he, h⟩
      · rintro ⟨other, ho, h⟩
        obtain rfl : element = other := Option.some.inj (he.symm.trans ho)
        exact h
    | _ => exact iff_of_false (herror _) id
  | above =>
    cases value with
    | obj inner =>
      refine (hinner inner rfl _).trans ⟨fun h other hother => ?_, fun h => h inner rfl⟩
      cases hother
      exact h
    -- Above the mapped paths the walk passes over what is not an object.
    | _ => exact iff_of_true hnone fun _ h => nomatch h
  | unknown => exact iff_of_true hnone trivial

/-- The nodes of entries compile when all that the walk meets among them follows the grammar. -/
theorem nodesCompile_nodesOfEntries_iff :
    NodesCompile (nodesOfEntries types parent entries) ↔ AcceptsEntries types parent entries := by
  induction entries using entries_induction generalizing parent with
  | nil =>
    rw [nodesOfEntries]
    exact iff_of_true ⟨[], rfl, by simp⟩ acceptsEntries_nil
  | cons key value rest ihinner ihrest =>
    rw [nodesCompile_nodesOfEntries_cons_iff, acceptsEntries_cons_iff, ihrest,
      nodesCompile_nodesOfEntry_iff fun inner h parent => ihinner inner h]

theorem exists_compile_iff {query : Json} :
    (∃ filter, compile types query = .ok filter) ↔ Accepts types query := by
  have hnodes : (∃ filter, compile types query = .ok filter) ↔
      NodesCompile (nodes types query) := by
    constructor
    · rintro ⟨filter, h⟩
      obtain ⟨found, steps, hn, hs, -⟩ := compile_eq_ok_iff.1 h
      exact ⟨found, hn, Results.exists_mapM_eq_ok_iff.1 ⟨steps, hs⟩⟩
    · rintro ⟨found, hn, h⟩
      obtain ⟨steps, hs⟩ := Results.exists_mapM_eq_ok_iff.2 h
      exact ⟨_, compile_eq_ok_iff.2 ⟨found, steps, hn, hs, rfl⟩⟩
  rw [hnodes]
  cases query with
  | null => exact iff_of_true ⟨[], rfl, by simp⟩ trivial
  | obj entries => exact nodesCompile_nodesOfEntries_iff
  | _ => exact iff_of_false (fun ⟨_, h, _⟩ => nomatch h) id

end Query

/-! ## What the grammar does not look at -/

namespace Entries

/-- Entries with the same keys in any order, and with related values. -/
inductive Alike (R : String → Json → Json → Prop) :
    List (String × Json) → List (String × Json) → Prop
  | nil : Alike R [] []
  | cons {key : String} {value other : Json} {xs ys : List (String × Json)}
      (h : R key value other) (hrest : Alike R xs ys) :
      Alike R ((key, value) :: xs) ((key, other) :: ys)
  | perm {xs ys zs : List (String × Json)} (h : Alike R xs ys) (hp : ys.Perm zs) : Alike R xs zs

/-- What related values have in common, all entries have on both sides or on neither. -/
theorem Alike.forall_iff {R : String → Json → Json → Prop} {P : String × Json → Prop}
    {xs ys : List (String × Json)} (h : Alike R xs ys)
    (hR : ∀ {key value other}, R key value other → (P (key, value) ↔ P (key, other))) :
    (∀ entry ∈ xs, P entry) ↔ ∀ entry ∈ ys, P entry := by
  induction h with
  | nil => exact Iff.rfl
  | cons h _ ih => rw [List.forall_mem_cons, List.forall_mem_cons, hR h, ih]
  | perm _ hp ih => exact ih.trans (forall_congr' fun entry => imp_congr_left hp.mem_iff)

end Entries

namespace Query

open Constraint (AcceptsEntry Legal)

/-- Under the key of an operator any two operands, and under the key of an element query two objects
with the same keys in any order. -/
inductive OperandAlike : String → Json → Json → Prop
  | operator {key : String} (hk : key ≠ Operator.oneFulfills) (value other : Json) :
      OperandAlike key value other
  | element {inner others : List (String × Json)}
      (h : (Entries.keys inner).Perm (Entries.keys others)) :
      OperandAlike Operator.oneFulfills (.obj inner) (.obj others)
  | same (key : String) (value : Json) : OperandAlike key value value

/-- Items with alike entries, place by place. -/
inductive ItemsAlike : List Json → List Json → Prop
  | nil : ItemsAlike [] []
  | entries {entries others : List (String × Json)} {xs ys : List Json}
      (h : Entries.Alike OperandAlike entries others) (hrest : ItemsAlike xs ys) :
      ItemsAlike (.obj entries :: xs) (.obj others :: ys)
  | same (item : Json) {xs ys : List Json} (hrest : ItemsAlike xs ys) :
      ItemsAlike (item :: xs) (item :: ys)

/-- Alike items under a combinator, and alike operands elsewhere. -/
inductive NodeEntryAlike : String → Json → Json → Prop
  | items (combinator : Combinator) {items others : List Json} (h : ItemsAlike items others) :
      NodeEntryAlike combinator.key (.arr items) (.arr others)
  | operand {key : String} {value other : Json} (hk : Combinator.ofKey? key = none)
      (h : OperandAlike key value other) : NodeEntryAlike key value other
  | same (key : String) (value : Json) : NodeEntryAlike key value value

/-- Values that are bound to the same path: any two if the path means nothing, and otherwise alike
operator objects. -/
inductive BoundAlike (types : TypeMap) (path : String) : Json → Json → Prop
  | unknown (ht : target types path = .unknown) (value other : Json) :
      BoundAlike types path value other
  | field {category : Category} {body others : List (String × Json)}
      (ht : target types path = .field category) (h : Entries.Alike NodeEntryAlike body others) :
      BoundAlike types path (.obj body) (.obj others)
  | element {list : String} {category : Category} {body others : List (String × Json)}
      (ht : target types path = .element list category)
      (h : (Entries.keys body).Perm (Entries.keys others)) :
      BoundAlike types path (.obj body) (.obj others)
  | same (value : Json) : BoundAlike types path value value

/-- Entries at a path that differ in nothing but operands, the order of keys at any level, and
values under keys that mean nothing. -/
inductive EntriesAlike (types : TypeMap) :
    Option String → List (String × Json) → List (String × Json) → Prop
  | nil {parent : Option String} : EntriesAlike types parent [] []
  | bound {parent : Option String} {key : String} {value other : Json}
      {xs ys : List (String × Json)} (h : BoundAlike types (joinPath parent key) value other)
      (hrest : EntriesAlike types parent xs ys) :
      EntriesAlike types parent ((key, value) :: xs) ((key, other) :: ys)
  | above {parent : Option String} {key : String} {inner others xs ys : List (String × Json)}
      (ht : target types (joinPath parent key) = .above)
      (h : EntriesAlike types (some (joinPath parent key)) inner others)
      (hrest : EntriesAlike types parent xs ys) :
      EntriesAlike types parent ((key, .obj inner) :: xs) ((key, .obj others) :: ys)
  | perm {parent : Option String} {xs ys zs : List (String × Json)}
      (h : EntriesAlike types parent xs ys) (hp : ys.Perm zs) : EntriesAlike types parent xs zs

/-- Queries with alike entries. -/
inductive Alike (types : TypeMap) : Json → Json → Prop
  | entries {xs ys : List (String × Json)} (h : EntriesAlike types none xs ys) :
      Alike types (.obj xs) (.obj ys)
  | same (query : Json) : Alike types query query

variable {types : TypeMap} {path : String} {category : Category} {parent : Option String}
  {xs ys : List (String × Json)} {key : String} {value other : Json}

theorem acceptsEntry_of_perm {inner others : List (String × Json)}
    (hp : (Entries.keys inner).Perm (Entries.keys others))
    (h : AcceptsEntry category (Operator.oneFulfills, .obj inner)) :
    AcceptsEntry category (Operator.oneFulfills, .obj others) := by
  rcases h with h | ⟨-, element, _, he, hobj, h⟩
  · exact .inl h
  · cases hobj
    exact .inr ⟨rfl, element, others, he, rfl, fun key hm => h key (hp.mem_iff.2 hm)⟩

theorem OperandAlike.acceptsEntry_iff (h : OperandAlike key value other) :
    AcceptsEntry category (key, value) ↔ AcceptsEntry category (key, other) := by
  cases h with
  | same => exact Iff.rfl
  | operator hk =>
    unfold AcceptsEntry
    simp only [hk, false_and]
  | element h => exact ⟨acceptsEntry_of_perm h, acceptsEntry_of_perm h.symm⟩

theorem ItemsAlike.forall_iff {items others : List Json} (h : ItemsAlike items others) :
    (∀ item ∈ items, AcceptsItem category item) ↔ ∀ item ∈ others, AcceptsItem category item := by
  induction h with
  | nil => exact Iff.rfl
  | same item _ ih => rw [List.forall_mem_cons, List.forall_mem_cons, ih]
  | entries h _ ih =>
    rw [List.forall_mem_cons, List.forall_mem_cons, ih]
    simp only [AcceptsItem, Json.obj.injEq, exists_eq_left',
      h.forall_iff OperandAlike.acceptsEntry_iff]

theorem NodeEntryAlike.acceptsNodeEntry_iff (h : NodeEntryAlike key value other) :
    AcceptsNodeEntry category (key, value) ↔ AcceptsNodeEntry category (key, other) := by
  unfold AcceptsNodeEntry
  cases h with
  | same => exact Iff.rfl
  | items combinator h =>
    simp only [Combinator.ofKey?_key, Json.arr.injEq, exists_eq_left', h.forall_iff]
  | operand hk h =>
    simp only [hk]
    exact h.acceptsEntry_iff

theorem BoundAlike.acceptsValue_iff (h : BoundAlike types path value other) :
    AcceptsValue types path value ↔ AcceptsValue types path other := by
  unfold AcceptsValue
  cases h with
  | same => exact Iff.rfl
  | unknown ht => rw [ht]
  | field ht h =>
    rw [ht]
    exact h.forall_iff NodeEntryAlike.acceptsNodeEntry_iff
  | element ht h =>
    rw [ht]
    simp only [AcceptsTerminal, h.mem_iff]

/-- Entries that differ in nothing that the grammar looks at follow it together or not at all. -/
theorem EntriesAlike.acceptsEntries_iff (h : EntriesAlike types parent xs ys) :
    AcceptsEntries types parent xs ↔ AcceptsEntries types parent ys := by
  induction h with
  | nil => exact Iff.rfl
  | bound h _ ih => rw [acceptsEntries_cons_iff, acceptsEntries_cons_iff, h.acceptsValue_iff, ih]
  | above ht _ _ ihinner ihrest =>
    rw [acceptsEntries_cons_iff, acceptsEntries_cons_iff, ihrest]
    simp only [AcceptsValue, ht, Json.obj.injEq, forall_eq', ihinner]
  | perm _ hp ih =>
    refine ih.trans ⟨fun h found value hm => ?_, fun h found value hm => ?_⟩
    · exact h found value (hm.mono fun _ => hp.mem_iff.2)
    · exact h found value (hm.mono fun _ => hp.mem_iff.1)

theorem Alike.accepts_iff {query variant : Json} (h : Alike types query variant) :
    Accepts types query ↔ Accepts types variant := by
  cases h with
  | same => exact Iff.rfl
  | entries h => exact h.acceptsEntries_iff

/-- A query compiles exactly when it follows the grammar. Whether it compiles does not depend on
operands, on the order of keys, or on the values under keys that mean nothing. -/
theorem compileFor_ok_iff {format : Format} {query : Json} :
    ((∃ filter, compileFor format query = .ok filter) ↔ Accepts (.ofFormat format) query) ∧
      ∀ variant, Alike (.ofFormat format) query variant →
        ((∃ filter, compileFor format query = .ok filter) ↔
          ∃ filter, compileFor format variant = .ok filter) := by
  refine ⟨exists_compile_iff, fun variant h => ?_⟩
  exact exists_compile_iff.trans (h.accepts_iff.trans exists_compile_iff.symm)

/-- The query on tags in another order and with operands that do not fit. -/
def tagVariant : Json := .entry "tags" (.obj [
  ("$or", .arr [.obj [("size", .str "many")], .obj [("not_contains", .bool true)]]),
  ("contains_one_of", .null), ("contains", .arr [])])

theorem alike_tagVariant : Alike (.ofFormat tagFormat) tagQuery tagVariant := by
  have ht : target (.ofFormat tagFormat) (joinPath none "tags") = .field .stringArray := by cbv
  have hitems : ItemsAlike [.obj [("size", .int 3)], .obj [("not_contains", .str "z")]]
      [.obj [("size", .str "many")], .obj [("not_contains", .bool true)]] :=
    .entries (.cons (.operator (by decide) _ _) .nil)
      (.entries (.cons (.operator (by decide) _ _) .nil) .nil)
  have hbody : Entries.Alike NodeEntryAlike tagNode.body [
      ("contains", .arr []), ("contains_one_of", .null),
      ("$or", .arr [.obj [("size", .str "many")], .obj [("not_contains", .bool true)]])] :=
    .cons (.operand rfl (.operator (by decide) _ _))
      (.cons (.operand rfl (.operator (by decide) _ _)) (.cons (.items .or hitems) .nil))
  exact .entries (.bound (.field ht (hbody.perm (List.reverse_perm _).symm)) .nil)

theorem tagVariant_compiles_iff :
    ((∃ filter, compileFor tagFormat tagQuery = .ok filter) ↔
      Accepts (.ofFormat tagFormat) tagQuery) ∧
    ((∃ filter, compileFor tagFormat tagQuery = .ok filter) ↔
      ∃ filter, compileFor tagFormat tagVariant = .ok filter) :=
  ⟨compileFor_ok_iff.1, compileFor_ok_iff.2 tagVariant alike_tagVariant⟩

end Query

end SchemaQuery
