import SchemaQuery.Proofs.ElementQueries
import SchemaQuery.Proofs.Envelopes
import SchemaQuery.Proofs.Sameness

/-!
# How far a node splits

The operators of a scalar never clash, so an operator object for a scalar is at most one constraint
(`compile_scalar_cases`). On a list, all values under one key can be joined to each other, except
for those of a single entry (`rival`). Stacking such values gives at most two
(`length_stackAll_le_two`): as long as the odd value has not come there is a single one, and when it
is rejected, one of the two takes all that come later. As the objects that have a key come first,
some column is as long as the list of objects (`exists_length_eq_column`), and so an operator object
for a list is at most two constraints (`compile_splits_at_most_once`).
-/

namespace SchemaQuery

/-- The operator on lists that stands for a store operator, apart from envelopes and from those
whose operands others can reject. -/
def StoreOperator.onList? : StoreOperator → Option Operator
  | .eq => some .identicalTo
  | .noneOf => some .notContains
  | .exists => some .exists
  | .all => some .contains
  | .size => some .size
  | _ => none

namespace Constraint

variable {key : String}

/-! ## Values that can be joined -/

/-- Of any two of the values, the second can be added to the first. -/
def Joining (key : String) (values : List Json) : Prop :=
  values.Pairwise fun value other => collides key (some value) other = false

/-- The value takes whatever comes. -/
def Takes (key : String) (value : Json) (incoming : List Json) : Prop :=
  ∀ other ∈ incoming, collides key (some value) other = false

/-- A value that has grown takes what it took, as far as what was added takes that too. -/
theorem Takes.combine {existing grown : Json} {incoming : List Json}
    (hg : collides key (some existing) grown = false) (he : Takes key existing incoming)
    (h : Takes key grown incoming) : Takes key (combine existing grown) incoming := by
  intro other ho
  have he := he other ho
  have h := h other ho
  rw [collides_some_eq_false_iff] at hg he h ⊢
  rcases hg with ⟨hk, body, more, rfl, rfl, -⟩ | ⟨hk, items, others, rfl, rfl⟩
  · rcases he with ⟨-, _, last, hb, rfl, hd⟩ | ⟨_, _, _, hb, -⟩
    · cases hb
      rcases h with ⟨-, _, _, hm, hl, hd'⟩ | ⟨_, _, _, hm, -⟩
      · cases hm
        cases hl
        refine .inl ⟨hk, _, last, rfl, rfl, fun inner hi hm => ?_⟩
        exact (Entries.mem_keys_insertAll_iff.1 hm).elim (hd inner hi) (hd' inner hi)
      · cases hm
    · cases hb
  · rcases he with ⟨_, _, _, hb, -⟩ | ⟨-, _, last, -, rfl⟩
    · cases hb
    · exact .inr ⟨hk, _, last, rfl, rfl⟩

/-! ## Stacking all but one -/

theorem stack_of_taken {value incoming : Json} (values : List Json)
    (h : collides key (some value) incoming = false) :
    stack key (value :: values) incoming = combine value incoming :: values :=
  if_neg (by simp [h])

theorem stack_of_rejected {value incoming : Json} (values : List Json)
    (h : collides key (some value) incoming = true) :
    stack key (value :: values) incoming = value :: stack key values incoming :=
  if_pos h

/-- Nothing is there, or a single value that takes whatever comes. -/
def Open (key : String) (values incoming : List Json) : Prop :=
  values = [] ∨ ∃ value, values = [value] ∧ Takes key value incoming

/-- At most one value is there, or two of which one takes whatever comes. -/
def Roomy (key : String) (values incoming : List Json) : Prop :=
  values.length ≤ 1 ∨ ∃ first second, values = [first, second] ∧
    (Takes key first incoming ∨ Takes key second incoming)

variable {values rest : List Json} {incoming : Json}

theorem Open.stack (h : Open key values (incoming :: rest)) (hi : Takes key incoming rest) :
    Open key (stack key values incoming) rest := by
  rcases h with rfl | ⟨value, rfl, hv⟩
  · exact .inr ⟨incoming, rfl, hi⟩
  · rw [Takes, List.forall_mem_cons] at hv
    exact .inr ⟨_, stack_of_taken [] hv.1, Takes.combine hv.1 hv.2 hi⟩

/-- Values that can be joined stay together, and what they have become takes what each takes. -/
theorem Open.stackAll {before after : List Json} (h : Open key values (before ++ after))
    (hj : Joining key (before ++ after)) : Open key (stackAll key values before) after := by
  induction before generalizing values with
  | nil => exact h
  | cons incoming rest ih =>
    obtain ⟨hi, hj⟩ := List.pairwise_cons.1 hj
    exact ih (h.stack hi) hj

theorem Open.roomy (h : Open key values rest) : Roomy key values rest := by
  rcases h with rfl | ⟨value, rfl, -⟩
  · exact .inl (Nat.zero_le 1)
  · exact .inl le_rfl

/-- A value comes to at most one other, and one of the two takes whatever comes. -/
theorem roomy_stack_of_length_le (hl : values.length ≤ 1)
    (h : (∀ value ∈ values, Takes key value rest) ∨ Takes key incoming rest) :
    Roomy key (stack key values incoming) rest := by
  match values, hl with
  | [], _ => exact .inl le_rfl
  | [value], _ =>
    rw [List.forall_mem_singleton] at h
    cases hc : collides key (some value) incoming with
    | false => exact .inl (by simp [stack_of_taken [] hc])
    | true => exact .inr ⟨value, incoming, stack_of_rejected [] hc, h⟩

/-- Any value can be added after values that can be joined. -/
theorem Open.roomy_stack (h : Open key values rest) (odd : Json) :
    Roomy key (Constraint.stack key values odd) rest := by
  rcases h with rfl | ⟨value, rfl, hv⟩
  · exact roomy_stack_of_length_le (Nat.zero_le 1) (.inl (List.forall_mem_nil _))
  · exact roomy_stack_of_length_le le_rfl (.inl (List.forall_mem_singleton.2 hv))

theorem Roomy.stack (h : Roomy key values (incoming :: rest)) (hi : Takes key incoming rest) :
    Roomy key (stack key values incoming) rest := by
  rcases h with hl | ⟨first, second, rfl, h⟩
  · exact roomy_stack_of_length_le hl (.inr hi)
  · simp only [Takes, List.forall_mem_cons] at h
    cases hc : collides key (some first) incoming with
    | false =>
      refine .inr ⟨_, second, stack_of_taken [second] hc, ?_⟩
      exact h.imp (fun hf => Takes.combine hc hf.2 hi) And.right
    | true =>
      -- Only the second value is left to take everything.
      have hs := h.resolve_left fun hf => by simp [hc] at hf
      refine .inr ⟨first, combine second incoming, ?_, .inr (Takes.combine hs.1 hs.2 hi)⟩
      rw [stack_of_rejected _ hc, stack_of_taken [] hs.1]

theorem Roomy.stackAll {after : List Json} (h : Roomy key values after)
    (hj : Joining key after) : Roomy key (stackAll key values after) [] := by
  induction after generalizing values with
  | nil => exact h
  | cons incoming rest ih =>
    obtain ⟨hi, hj⟩ := List.pairwise_cons.1 hj
    exact ih (h.stack hi) hj

theorem Roomy.length_le (h : Roomy key values rest) : values.length ≤ 2 := by
  rcases h with hl | ⟨first, second, rfl, -⟩
  · exact hl.trans (by decide)
  · exact le_rfl

/-- Values that can all be joined, except for one that comes anywhere among them, are stacked on at
most two. -/
theorem length_stackAll_le_two {before odd after : List Json} (hj : Joining key (before ++ after))
    (ho : odd.length ≤ 1) : (stackAll key [] (before ++ odd ++ after)).length ≤ 2 := by
  have hbefore : Open key (stackAll key [] before) after := Open.stackAll (.inl rfl) hj
  have hafter : Joining key after := (List.pairwise_append.1 hj).2.1
  have hodd : Roomy key (stackAll key (stackAll key [] before) odd) after := by
    match odd, ho with
    | [], _ => exact hbefore.roomy
    | [value], _ => exact hbefore.roomy_stack value
  have happend : stackAll key [] (before ++ odd ++ after) =
      stackAll key (stackAll key (stackAll key [] before) odd) after := by
    simp only [stackAll, List.foldl_append]
  rw [happend]
  exact (hodd.stackAll hafter).length_le

/-! ## The longest column -/

/-- Where the last object has the key, all objects have it. -/
theorem Arranged.length_eq {conjuncts : List Constraint} {last : Constraint}
    (h : Arranged key (conjuncts ++ [last]) values) (hl : Entries.get? last key ≠ none) :
    values.length = (conjuncts ++ [last]).length := by
  obtain ⟨others, h⟩ := h
  cases others with
  | zero => simpa using (congrArg List.length h).symm
  | succ others =>
    rw [List.map_append, List.replicate_succ', ← List.append_assoc] at h
    have hlast : [Entries.get? last key] = [none] := List.append_inj_right' h rfl
    exact absurd (List.singleton_inj.1 hlast) hl

/-- A fold of fragments with a single key each has as many objects as some column has values. -/
theorem exists_length_eq_column {fragments : List Constraint}
    (hf : ∀ fragment ∈ fragments, Emitted fragment) (hs : ∀ fragment ∈ fragments, fragment.Single)
    (hne : foldAll [] fragments ≠ []) :
    ∃ key, (foldAll [] fragments).length = (stackAll key [] (column key fragments)).length := by
  obtain ⟨front, last, heq⟩ := (List.eq_nil_or_concat' _).resolve_left hne
  have hlast : Emitted last :=
    mergeClosed_emitted.foldAll_nil hf last (by simp [heq])
  obtain ⟨⟨key, value⟩, hentry⟩ := List.exists_mem_of_ne_nil _ hlast.ne_nil
  have hsome : Entries.get? last key = some value :=
    Entries.get?_eq_some_of_mem hlast.nodup hentry
  have harranged := arranged_foldAll (fun fragment hm => (hf fragment hm).regular) hs key
  rw [heq] at harranged ⊢
  exact ⟨key, (harranged.length_eq (by simp [hsome])).symm⟩

/-! ## Operators of scalars -/

variable {path : String} {category : Category}

theorem legal_of_fragmentsOf (hc : category.element? = none) {entry : String × Json}
    {fragments : List Constraint} (h : fragmentsOf path category entry = .ok fragments) :
    Legal category entry.1 := by
  rw [fragmentsOf_operator (.inl hc)] at h
  obtain ⟨operator, ho, hl, -⟩ := ofOperator_eq_ok_iff.1 h
  rw [Legal, OperatorTable.find?, ho]
  exact hl

/-- An operator object for a scalar that is accepted is one constraint, with what each of its
entries asks for. -/
theorem compile_scalar_cases (hc : category.element? = none) {entries : List (String × Json)}
    (hn : (Entries.keys entries).Nodup) {conjuncts : List Constraint}
    (h : compile path category entries = .ok conjuncts) :
    entries = [] ∧ conjuncts = [] ∨
      conjuncts = [entries.map (ofEntry category)] ∧
        ∀ entry ∈ entries,
          ofOperator path category entry.1 entry.2 = .ok [[ofEntry category entry]] := by
  by_cases hne : entries = []
  · subst hne
    rw [compile, compileFrom] at h
    exact .inl ⟨rfl, (Except.ok.inj h).symm⟩
  obtain ⟨lists, hm, -⟩ := compile_eq_ok_iff.1 h
  have hlegal : ∀ entry ∈ entries, Legal category entry.1 := by
    intro entry he
    obtain ⟨fragments, -, hok⟩ := Results.exists_mem_of_mapM hm he
    exact legal_of_fragmentsOf hc hok
  have hkeys : ∀ name ∈ Entries.keys entries, Legal category name := by
    rw [Entries.keys, List.forall_mem_map]
    exact hlegal
  rw [compile_scalar hc path hne hn hkeys] at h
  cases h
  refine .inr ⟨rfl, fun entry he => ?_⟩
  rw [← fragmentsOf_operator (.inl hc)]
  exact fragmentsOf_legal path (hlegal entry he)

/-- An element query that is accepted is at most one envelope. -/
theorem compileElement_cases (hc : category.element? = none) {entries : List (String × Json)}
    (hn : (Entries.keys entries).Nodup) {envelopes : List Constraint}
    (h : compileElement path category entries = .ok envelopes) :
    entries = [] ∧ envelopes = [] ∨
      envelopes = [inEnvelope (entries.map (ofEntry category))] ∧
        ∀ entry ∈ entries, ofOperator (elementPath path) category entry.1 entry.2 =
          .ok [[ofEntry category entry]] := by
  obtain ⟨bodies, hb, rfl⟩ := compileElement_eq_ok_iff.1 h
  rcases compile_scalar_cases hc hn hb with ⟨hnil, rfl⟩ | ⟨rfl, hentries⟩
  · exact .inl ⟨hnil, rfl⟩
  · exact .inr ⟨rfl, hentries⟩

/-! ## Operators of lists -/

/-- An entry stands for at most one fragment. -/
theorem length_fragmentsOf_le {entry : String × Json} (hd : entry.2.Distinct)
    {fragments : List Constraint} (h : fragmentsOf path category entry = .ok fragments) :
    fragments.length ≤ 1 := by
  rw [fragmentsOf] at h
  split at h
  · rename_i element inner he _ heq
    rw [heq, Json.distinct_obj_iff] at hd
    rcases compileElement_cases (Category.element?_of_element? he) hd.1 h with ⟨-, rfl⟩ | ⟨rfl, -⟩
    · exact Nat.zero_le 1
    · exact le_rfl
  · cases h
  · obtain ⟨operator, -, -, rfl⟩ := ofOperator_eq_ok_iff.1 h
    exact le_rfl

/-- The only entry of a list whose values under a key those of other entries can reject. -/
def rival (key : String) : String :=
  if key = elemMatchKey then Operator.oneFulfills
  else if key = "$all" then Operator.containsAll.name
  else Operator.containsNoneOf.name

theorem onList?_store (ha : category.isArray = true) {operator : Operator}
    (hl : (OperatorTable.lookup category operator).isSome = true)
    (hs : operator.store ≠ .elemMatch) (hr : operator.name ≠ rival operator.store.key) :
    operator.store.onList? = some operator := by
  cases category <;> cases ha <;> cases operator <;>
    first | rfl | exact absurd rfl hs | exact absurd rfl hr | cases hl

/-- Two operators of a list that are no rivals stand for operands that can be joined. -/
theorem not_collides_storeOperand (ha : category.isArray = true) {operator other : Operator}
    (hl : (OperatorTable.lookup category operator).isSome = true)
    (hl' : (OperatorTable.lookup category other).isSome = true) (hne : operator ≠ other)
    (hk : other.store.key = operator.store.key)
    (hr : operator.name ≠ rival operator.store.key) (hr' : other.name ≠ rival other.store.key)
    (operand operand' : Json) :
    collides operator.store.key (some (operator.storeOperand category operand))
      (other.storeOperand category operand') = false := by
  have hstore : other.store = operator.store := StoreOperator.key_injective hk
  by_cases hs : operator.store = .elemMatch
  · obtain ⟨asked, hasked⟩ := Operator.store_eq_elemMatch_iff.1 hs
    obtain ⟨asked', hasked'⟩ := Operator.store_eq_elemMatch_iff.1 (hstore.trans hs)
    rw [Operator.storeOperand_of_onElement? hasked, Operator.storeOperand_of_onElement? hasked']
    refine collides_some_eq_false_iff.2
      (.inl ⟨Operator.store_of_onElement? hasked, _, _, rfl, rfl, fun inner hi hi' => hne ?_⟩)
    -- Both bodies would have the key of the same question.
    have hkey : asked.store.key = asked'.store.key :=
      (List.mem_singleton.1 hi').symm.trans (List.mem_singleton.1 hi)
    have hsame : asked = asked' :=
      Operator.eq_of_storeKey_eq (Operator.onScalar?_store_of_onElement? hasked)
        (Operator.onScalar?_store_of_onElement? hasked') hkey
    exact Operator.onElement?_injective hasked (hsame ▸ hasked')
  · have h := onList?_store ha hl hs hr
    have h' := onList?_store ha hl' (hstore ▸ hs) hr'
    rw [hstore, h] at h'
    exact absurd (Option.some.inj h') hne

/-- A value under a key comes from the operator that the entry names, if it is no rival. -/
theorem exists_operator_of_mem_column {entry : String × Json} {fragments : List Constraint}
    (h : fragmentsOf path category entry = .ok fragments) (hr : entry.1 ≠ rival key) {value : Json}
    (hv : value ∈ column key fragments) :
    ∃ operator : Operator, operator.name = entry.1 ∧ operator.store.key = key ∧
      (OperatorTable.lookup category operator).isSome = true ∧
      value = operator.storeOperand category entry.2 := by
  obtain ⟨constraint, hc, hg⟩ := mem_column_iff.1 hv
  rw [fragmentsOf] at h
  split at h
  · rename_i hone _
    obtain ⟨bodies, -, rfl⟩ := compileElement_eq_ok_iff.1 h
    obtain ⟨body, -, rfl⟩ := List.mem_map.1 hc
    have hentry : (key, value) = (elemMatchKey, .obj body) :=
      List.mem_singleton.1 (Entries.mem_of_get?_eq_some hg)
    rw [rival, if_pos (Prod.mk.inj hentry).1] at hr
    exact absurd (of_decide_eq_true hone) hr
  · cases h
  · obtain ⟨operator, ho, hl, rfl⟩ := ofOperator_eq_ok_iff.1 h
    rw [List.mem_singleton] at hc
    subst hc
    obtain ⟨hk, hvalue⟩ :=
      Prod.mk.inj (List.mem_singleton.1 (Entries.mem_of_get?_eq_some hg))
    exact ⟨operator, Operator.ofName?_eq_some_iff.1 ho, hk.symm, hl, hvalue⟩

variable {entries : List (String × Json)} {lists : List (List Constraint)}

theorem joining_of_length_le {values : List Json} (h : values.length ≤ 1) : Joining key values := by
  match values, h with
  | [], _ => exact .nil
  | [value], _ => exact List.pairwise_singleton _ value

theorem length_column_le {fragments : List Constraint} {bound : Nat}
    (h : fragments.length ≤ bound) : (column key fragments).length ≤ bound :=
  (List.length_filterMap_le _ _).trans h

/-- The values under a key of entries without a rival can be joined. -/
theorem joining_column (ha : category.isArray = true) (hd : (Json.obj entries).Distinct)
    (hm : entries.mapM (fragmentsOf path category) = .ok lists)
    (hr : rival key ∉ Entries.keys entries) : Joining key (column key lists.flatten) := by
  induction entries generalizing lists with
  | nil =>
    cases hm
    exact .nil
  | cons entry rest ih =>
    obtain ⟨fragments, others, hf, ho, rfl⟩ := Results.mapM_cons_eq_ok_iff.1 hm
    rw [Json.distinct_obj_iff, Entries.keys_cons, List.nodup_cons, List.forall_mem_cons] at hd
    rw [Entries.keys_cons, List.mem_cons, not_or] at hr
    have hrest : (Json.obj rest).Distinct := Json.distinct_obj_iff.2 ⟨hd.1.2, hd.2.2⟩
    rw [List.flatten_cons, column_append]
    refine List.pairwise_append.2 ⟨?_, ih hrest ho hr.2, fun value hv value' hv' => ?_⟩
    · exact joining_of_length_le (length_column_le (length_fragmentsOf_le hd.2.1 hf))
    · obtain ⟨constraint, hc, hg⟩ := mem_column_iff.1 hv'
      obtain ⟨entry', he', fragments', hf', hc⟩ := exists_entry_of_mem_flatten ho hc
      have hne : entry.1 ≠ entry'.1 := fun h => hd.1.1 (h ▸ Entries.mem_keys_of_mem he')
      have hr' : entry'.1 ≠ rival key := fun h => hr.2 (h ▸ Entries.mem_keys_of_mem he')
      obtain ⟨operator, hname, rfl, hl, rfl⟩ :=
        exists_operator_of_mem_column hf (Ne.symm hr.1) hv
      obtain ⟨other, hname', hk, hl', rfl⟩ :=
        exists_operator_of_mem_column hf' hr' (mem_column_iff.2 ⟨constraint, hc, hg⟩)
      refine not_collides_storeOperand ha hl hl' (fun h => hne ?_) hk ?_ ?_ _ _
      · rw [← hname, ← hname', h]
      · rw [hname]
        exact Ne.symm hr.1
      · rw [hname', hk]
        exact hr'

/-- No column of a list's entries is stacked on more than two values. -/
theorem length_stackAll_column_le_two (ha : category.isArray = true)
    (hd : (Json.obj entries).Distinct)
    (hm : entries.mapM (fragmentsOf path category) = .ok lists) (key : String) :
    (stackAll key [] (column key lists.flatten)).length ≤ 2 := by
  by_cases hr : rival key ∈ Entries.keys entries
  · obtain ⟨entry, he, hname⟩ := List.mem_map.1 hr
    obtain ⟨before, after, rfl⟩ := List.append_of_mem he
    obtain ⟨front, tail, hfront, htail, rfl⟩ := Results.mapM_append_eq_ok_iff.1 hm
    obtain ⟨odd, back, hodd, hback, rfl⟩ := Results.mapM_cons_eq_ok_iff.1 htail
    -- Without the rival, the entries are still an object, and its values can be joined.
    rw [Json.distinct_obj_iff, Entries.keys, List.map_append, List.map_cons, List.nodup_middle,
      List.nodup_cons, ← List.map_append, List.forall_mem_append, List.forall_mem_cons] at hd
    obtain ⟨⟨hnot, hn⟩, hbefore, hentry, hafter⟩ := hd
    have hothers : (Json.obj (before ++ after)).Distinct :=
      Json.distinct_obj_iff.2 ⟨hn, List.forall_mem_append.2 ⟨hbefore, hafter⟩⟩
    have hj : Joining key (column key (front ++ back).flatten) :=
      joining_column ha hothers (Results.mapM_append_eq_ok_iff.2 ⟨_, _, hfront, hback, rfl⟩)
        (hname ▸ hnot)
    rw [List.flatten_append, column_append] at hj
    have hone : (column key odd).length ≤ 1 := length_column_le (length_fragmentsOf_le hentry hodd)
    rw [List.flatten_append, List.flatten_cons, column_append, column_append, ← List.append_assoc]
    exact length_stackAll_le_two hj hone
  · have hj : Joining key (column key lists.flatten ++ []) := by
      rw [List.append_nil]
      exact joining_column ha hd hm hr
    have hnone : ([] : List Json).length ≤ 1 := Nat.zero_le 1
    simpa using length_stackAll_le_two hj hnone

/-! ## The bound -/

theorem length_compile_le_two (ha : category.isArray = true) (hd : (Json.obj entries).Distinct)
    {conjuncts : List Constraint} (h : compile path category entries = .ok conjuncts) :
    conjuncts.length ≤ 2 := by
  obtain ⟨lists, hm, rfl⟩ := compile_eq_ok_iff.1 h
  by_cases hne : foldAll [] lists.flatten = []
  · simp [hne]
  · obtain ⟨key, hlength⟩ := exists_length_eq_column (emitted_of_mapM hm) (single_of_mapM hm) hne
    rw [hlength]
    exact length_stackAll_column_le_two ha hd hm key

/-- The operators of an element query are all in the body of one envelope. -/
theorem exists_body_of_oneFulfills {element : Category} (he : category.element? = some element)
    {conjuncts : List Constraint} (h : compile path category entries = .ok conjuncts)
    {inner : List (String × Json)} (hi : (Operator.oneFulfills, Json.obj inner) ∈ entries)
    (hn : (Entries.keys inner).Nodup) (hne : inner ≠ []) :
    ∃ conjunct ∈ conjuncts, ∃ body, Entries.get? conjunct elemMatchKey = some (.obj body) ∧
      ∀ entry ∈ inner, ∃ condition,
        ofOperator (elementPath path) element entry.1 entry.2 = .ok [[condition]] ∧
          condition ∈ body := by
  obtain ⟨lists, hm, rfl⟩ := compile_eq_ok_iff.1 h
  obtain ⟨fragments, hl, hok⟩ := Results.exists_mem_of_mapM hm hi
  rw [fragmentsOf_oneFulfills he] at hok
  obtain ⟨hnil, -⟩ | ⟨rfl, hentries⟩ :=
    compileElement_cases (Category.element?_of_element? he) hn hok
  · exact absurd hnil hne
  have hmem : inEnvelope (inner.map (ofEntry element)) ∈ lists.flatten :=
    List.mem_flatten.2 ⟨_, hl, List.mem_singleton_self _⟩
  obtain ⟨conjunct, hc, hwithin⟩ := exists_within_foldAll
    (fun fragment hf => (emitted_of_mapM hm fragment hf).regular) [] hmem
  obtain ⟨value, hv, hinside⟩ := hwithin elemMatchKey _ (Entries.get?_singleton _ _)
  have hbody : ∃ body, value = .obj body ∧ ∀ entry ∈ inner, ofEntry element entry ∈ body := by
    cases hinside with
    | same => exact ⟨_, rfl, fun entry hm => List.mem_map_of_mem hm⟩
    | body _ hsub => exact ⟨_, rfl, fun entry hm => hsub _ (List.mem_map_of_mem hm)⟩
  obtain ⟨body, rfl, hsub⟩ := hbody
  exact ⟨conjunct, hc, body, hv, fun entry hm => ⟨_, hentries entry hm, hsub entry hm⟩⟩

/-- An operator object is split only where values under one key cannot be joined, and never far. For
a scalar it is at most one constraint, and an element query is at most one envelope. For a list it
is at most two constraints, of which the first rejects the second, and all operators of an element
query are in the body of one and the same envelope. No object that is read has a key twice. -/
theorem compile_splits_at_most_once (path : String) {entries : List (String × Json)}
    (hd : (Json.obj entries).Distinct) :
    (∀ category : Category, category.isArray = false →
      (∀ conjuncts, compile path category entries = .ok conjuncts → conjuncts.length ≤ 1) ∧
      ∀ envelopes, compileElement path category entries = .ok envelopes →
        envelopes.length ≤ 1) ∧
    ∀ category element : Category, category.element? = some element →
      ∀ conjuncts, compile path category entries = .ok conjuncts →
        conjuncts.length ≤ 2 ∧ Clashing conjuncts ∧
        ∀ inner, (Operator.oneFulfills, Json.obj inner) ∈ entries → inner ≠ [] →
          ∃ conjunct ∈ conjuncts, ∃ body,
            Entries.get? conjunct elemMatchKey = some (.obj body) ∧
            ∀ entry ∈ inner, ∃ condition,
              ofOperator (elementPath path) element entry.1 entry.2 = .ok [[condition]] ∧
                condition ∈ body := by
  obtain ⟨hn, hvalues⟩ := Json.distinct_obj_iff.1 hd
  refine ⟨fun category hs => ?_, fun category element he conjuncts h => ?_⟩
  · have hscalar : category.element? = none := by simpa [Category.isArray] using hs
    constructor
    · intro conjuncts h
      rcases compile_scalar_cases hscalar hn h with ⟨-, rfl⟩ | ⟨rfl, -⟩
      · exact Nat.zero_le 1
      · exact le_rfl
    · intro envelopes h
      rcases compileElement_cases hscalar hn h with ⟨-, rfl⟩ | ⟨rfl, -⟩
      · exact Nat.zero_le 1
      · exact le_rfl
  · have ha : category.isArray = true := by rw [Category.isArray, he]; rfl
    refine ⟨length_compile_le_two ha hd h, clashing_compile h, fun inner hi hne => ?_⟩
    exact exists_body_of_oneFulfills he h hi (Json.distinct_obj_iff.1 (hvalues _ hi)).1 hne

/-! ### An operator object with every kind of clash -/

def narrowQuery : List (String × Json) :=
  [("greater_than", .int 1), ("one_of", .arr [.int 2]), ("less_than", .int 3)]

/-- The element query clashes with three operators, and lists with what is no list. -/
def crowdedQuery : List (String × Json) :=
  [("contains_greater_than", .int 5), ("contains_all", .int 7), ("one_fulfills", .obj narrowQuery),
    ("contains", .int 3), ("contains_one_of", .arr [.int 4]), ("not_contains", .int 8),
    ("contains_none_of", .int 9), ("size", .int 2), ("contains_less_than", .int 30)]

def crowdedResult : List Constraint :=
  [[(elemMatchKey, .obj [("$gt", .int 5), ("$in", .arr [.int 4]), ("$lt", .int 30)]),
      ("$all", .int 7), ("$nin", .arr [.int 8]), ("$size", .int 2)],
    [(elemMatchKey, .obj [("$gt", .int 1), ("$in", .arr [.int 2]), ("$lt", .int 3)]),
      ("$all", .arr [.int 3]), ("$nin", .int 9)]]

theorem crowdedQuery_splits_at_most_once :
    ((Json.obj crowdedQuery).Distinct ∧ (Json.obj narrowQuery).Distinct ∧
      compile "readings" .numberArray crowdedQuery = .ok crowdedResult ∧
      compileElement "readings" .number narrowQuery = .ok [[(elemMatchKey,
        .obj [("$gt", .int 1), ("$in", .arr [.int 2]), ("$lt", .int 3)])]]) ∧
    (∀ envelopes, compileElement "readings" .number narrowQuery = .ok envelopes →
      envelopes.length ≤ 1) ∧
    crowdedResult.length ≤ 2 ∧ Clashing crowdedResult ∧
    ∃ conjunct ∈ crowdedResult, ∃ body, Entries.get? conjunct elemMatchKey = some (.obj body) ∧
      ∀ entry ∈ narrowQuery, ∃ condition,
        ofOperator (elementPath "readings") .number entry.1 entry.2 = .ok [[condition]] ∧
          condition ∈ body := by
  have hnarrow : (Json.obj narrowQuery).Distinct := by
    simp [narrowQuery, Json.int, Json.Distinct, Json.DistinctEntries, Json.DistinctItems]
  have hcrowded : (Json.obj crowdedQuery).Distinct := by
    simpa [crowdedQuery, Json.int, Json.Distinct, Json.DistinctEntries, Json.DistinctItems]
      using hnarrow
  have hresult : compile "readings" .numberArray crowdedQuery = .ok crowdedResult := by cbv
  have henvelope : compileElement "readings" .number narrowQuery = .ok [[(elemMatchKey,
      .obj [("$gt", .int 1), ("$in", .arr [.int 2]), ("$lt", .int 3)])]] := by cbv
  obtain ⟨-, hlists⟩ := compile_splits_at_most_once "readings" hcrowded
  obtain ⟨hlength, hclash, hbody⟩ := hlists .numberArray .number rfl _ hresult
  obtain ⟨hscalars, -⟩ := compile_splits_at_most_once "readings" hnarrow
  exact ⟨⟨hcrowded, hnarrow, hresult, henvelope⟩, (hscalars .number rfl).2, hlength, hclash,
    hbody narrowQuery (by simp [crowdedQuery, Operator.oneFulfills]) (by simp [narrowQuery])⟩

end Constraint

end SchemaQuery
