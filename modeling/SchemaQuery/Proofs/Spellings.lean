import SchemaQuery.Proofs.Columns
import SchemaQuery.Proofs.ElementQueries

/-!
# The two spellings of an element query

The query on one element of a list is an entry of the list, or it is bound to a path of its own
beside the list. In the first spelling the envelope of the element query takes the fragments of the
list one by one; in the second it takes the objects that these fragments make up, as a whole. The
columns of the two results differ only under the envelope, and only where some operators of the list
can share the envelope of the element query and others cannot (`mem_column_foldAll_iff`). In that
case the filters really differ (`spellings_differ`); otherwise the two spellings select the same
documents (`spellings_agree`).
-/

namespace SchemaQuery

namespace Constraint

variable {category : Category}

/-! ## What the entries of a list ask of a single element -/

/-- The store operator, with its operand, that an entry of a list asks of a single element. -/
def askedOf? (category : Category) (entry : String × Json) : Option (String × Json) :=
  (Operator.ofName? entry.1).bind fun operator => operator.onElement?.map fun asked =>
    (asked.store.key, asked.storeOperand category entry.2)

/-- What the entries of a list ask of single elements. -/
def asked (category : Category) (entries : List (String × Json)) : Constraint :=
  entries.filterMap (askedOf? category)

theorem get?_ofEntry {entry : String × Json} (h : Legal category entry.1) :
    Entries.get? [ofEntry category entry] elemMatchKey =
      (askedOf? category entry).map fun asked => .obj [asked] := by
  obtain ⟨operator, -, ho, -⟩ := h.exists_operator
  rw [ofEntry_of_name ho, askedOf?, ho, Option.bind_some]
  cases he : operator.onElement? with
  | some asked =>
    rw [Operator.store_of_onElement? he, Operator.storeOperand_of_onElement? he]
    rfl
  | none =>
    have hkey : operator.store.key ≠ elemMatchKey := by
      intro hk
      have hstore : operator.store = .elemMatch := StoreOperator.key_injective hk
      obtain ⟨asked, hasked⟩ := Operator.store_eq_elemMatch_iff.1 hstore
      rw [he] at hasked
      cases hasked
    exact if_neg hkey

/-- The envelopes that the fragments of a list come with. -/
theorem column_fragments {entries : List (String × Json)}
    (hl : ∀ key ∈ Entries.keys entries, Legal category key) :
    column elemMatchKey (fragments category entries) =
      (asked category entries).map fun entry => .obj [entry] := by
  induction entries with
  | nil => rfl
  | cons entry rest ih =>
    rw [Entries.keys_cons, List.forall_mem_cons] at hl
    have hfirst := get?_ofEntry hl.1
    rw [fragments, List.map_cons, asked]
    cases he : askedOf? category entry with
    | none =>
      rw [he] at hfirst
      rw [column_cons_none hfirst, List.filterMap_cons_none he]
      exact ih hl.2
    | some found =>
      rw [he] at hfirst
      rw [column_cons_some hfirst, List.filterMap_cons_some he]
      exact congrArg (_ :: ·) (ih hl.2)

theorem mem_keys_asked_iff {entries : List (String × Json)} {key : String} :
    key ∈ Entries.keys (asked category entries) ↔
      ∃ name ∈ Entries.keys entries, ∃ operator asked, Operator.ofName? name = some operator ∧
        operator.onElement? = some asked ∧ asked.store.key = key := by
  simp only [Entries.keys, asked, askedOf?, List.mem_map, List.mem_filterMap,
    Option.bind_eq_some_iff, Option.map_eq_some_iff]
  constructor
  · rintro ⟨_, ⟨entry, he, operator, ho, found, hfound, rfl⟩, rfl⟩
    exact ⟨_, ⟨entry, he, rfl⟩, operator, found, ho, hfound, rfl⟩
  · rintro ⟨_, ⟨entry, he, rfl⟩, operator, found, ho, hfound, rfl⟩
    exact ⟨_, ⟨entry, he, operator, ho, found, hfound, rfl⟩, rfl⟩

/-- Different operators of a list ask different operators of an element. -/
theorem nodup_keys_asked {entries : List (String × Json)} (hn : (Entries.keys entries).Nodup) :
    (Entries.keys (asked category entries)).Nodup := by
  induction entries with
  | nil => exact List.nodup_nil
  | cons entry rest ih =>
    rw [Entries.keys_cons, List.nodup_cons] at hn
    cases he : askedOf? category entry with
    | none =>
      rw [asked, List.filterMap_cons_none he]
      exact ih hn.2
    | some found =>
      rw [asked, List.filterMap_cons_some he]
      refine List.nodup_cons.2 ⟨fun hm => hn.1 ?_, ih hn.2⟩
      obtain ⟨name, hname, operator, asked, ho, hasked, hkey⟩ := mem_keys_asked_iff.1 hm
      simp only [askedOf?, Option.bind_eq_some_iff, Option.map_eq_some_iff] at he
      obtain ⟨first, hfirst, firstAsked, hfirstAsked, rfl⟩ := he
      obtain rfl := Operator.eq_of_storeKey_eq (Operator.onScalar?_store_of_onElement? hasked)
        (Operator.onScalar?_store_of_onElement? hfirstAsked) hkey
      obtain rfl := Operator.onElement?_injective hasked hfirstAsked
      rw [Operator.ofName?_eq_some_iff] at ho hfirst
      rwa [← hfirst, ho]

/-! ## Stacking envelopes -/

theorem combine_bodies {body other : Constraint} (h : (Entries.keys (body ++ other)).Nodup) :
    combine (.obj body) (.obj other) = .obj (body ++ other) := by
  rw [Entries.keys, List.map_append, List.nodup_append] at h
  rw [combine, Entries.insertAll_eq_append h.2.1 fun key hk hb => h.2.2 key hb key hk rfl]

theorem not_collides_bodies {body other : Constraint} (h : (Entries.keys (body ++ other)).Nodup) :
    collides elemMatchKey (some (.obj body)) (.obj other) = false := by
  rw [Entries.keys, List.map_append, List.nodup_append] at h
  refine collides_some_eq_false_iff.2 (.inl ⟨rfl, body, other, rfl, rfl, fun key hk hb => ?_⟩)
  exact h.2.2 key hb key hk rfl

/-- Conditions on an element that have different operators share one envelope. -/
theorem stackAll_bodies {body entries : Constraint} (h : (Entries.keys (body ++ entries)).Nodup) :
    stackAll elemMatchKey [.obj body] (entries.map fun entry => .obj [entry]) =
      [.obj (body ++ entries)] := by
  induction entries generalizing body with
  | nil => rw [List.append_nil]; rfl
  | cons entry rest ih =>
    have happend : body ++ entry :: rest = body ++ [entry] ++ rest := by
      rw [List.append_assoc, List.singleton_append]
    rw [happend] at h ⊢
    have hfirst : (Entries.keys (body ++ [entry])).Nodup := by
      rw [Entries.keys, List.map_append, List.nodup_append] at h
      exact h.1
    have hstack : stack elemMatchKey [.obj body] (.obj [entry]) = [.obj (body ++ [entry])] := by
      rw [stack, if_neg (by simp [not_collides_bodies hfirst]), combine_bodies hfirst]
    calc stackAll elemMatchKey [.obj body] ((entry :: rest).map fun entry => .obj [entry])
        = stackAll elemMatchKey (stack elemMatchKey [.obj body] (.obj [entry]))
            (rest.map fun entry => .obj [entry]) := rfl
      _ = [.obj (body ++ [entry] ++ rest)] := by rw [hstack, ih h]

theorem stackAll_bodies_nil {entries : Constraint} (hne : entries ≠ [])
    (h : (Entries.keys entries).Nodup) :
    stackAll elemMatchKey [] (entries.map fun entry => .obj [entry]) = [.obj entries] := by
  cases entries with
  | nil => exact absurd rfl hne
  | cons first rest =>
    have hfirst : (Entries.keys ([first] ++ rest)).Nodup := h
    exact stackAll_bodies hfirst

/-! ## The columns of the two spellings -/

variable {key : String} {value : Json}

/-- Objects that reject each other keep what they have under a key, if they do not share it with an
object to which they are added. -/
theorem mem_column_foldAll_cons_iff {target : Constraint} {others : List Constraint}
    (h : Clashing others) (hr : ∀ constraint ∈ others, constraint.Regular)
    (hapart : ∀ constraint ∈ others, Entries.get? target key = none ∨
      Entries.get? constraint key = none ∨ target.merge? constraint = none) :
    value ∈ column key (foldAll [target] others) ↔
      Entries.get? target key = some value ∨ value ∈ column key others := by
  rcases foldAll_cons_cases target h hr with
    ⟨-, heq⟩ | ⟨front, taken, back, merged, rfl, -, hm, heq⟩
  · rw [heq, mem_column_cons_iff]
  · have hmerged : Entries.get? merged key = some value ↔
        Entries.get? target key = some value ∨ Entries.get? taken key = some value := by
      rw [get?_merge? (hr taken (by simp)) hm]
      rcases hapart taken (by simp) with hnone | hnone | hnone
      · rw [hnone]
        cases Entries.get? taken key <;> simp
      · rw [hnone]
        cases Entries.get? target key <;> simp
      · rw [hm] at hnone
        cases hnone
    rw [heq, mem_column_cons_iff, hmerged, column_append, column_append, List.mem_append,
      List.mem_append, mem_column_cons_iff, or_assoc]
    exact or_congr_right or_left_comm

theorem get?_inEnvelope_of_ne {body : Constraint} (h : key ≠ elemMatchKey) :
    Entries.get? (inEnvelope body) key = none :=
  if_neg (Ne.symm h)

/-- An envelope takes an object whose own envelope asks for other operators. -/
theorem exists_merge?_inEnvelope {body entries other : Constraint} (ho : other.Regular)
    (henvelope : Entries.get? other elemMatchKey = some (.obj entries))
    (h : (Entries.keys (body ++ entries)).Nodup) :
    ∃ merged, (inEnvelope body).merge? other = some merged := by
  rw [← Option.ne_none_iff_exists', Ne, merge?_eq_none_iff]
  rintro ⟨entry, he, hc⟩
  by_cases hk : entry.1 = elemMatchKey
  · have hget := Entries.get?_eq_some_of_mem ho.nodup he
    rw [hk, henvelope] at hget
    rw [hk, ← Option.some.inj hget, inEnvelope, Entries.get?_singleton,
      not_collides_bodies h] at hc
    cases hc
  · rw [get?_inEnvelope_of_ne hk] at hc
    cases hc

/-- The pieces of a list, their envelopes among them. -/
structure Pieces (pieces : List Constraint) (entries : Constraint) : Prop where
  regular : ∀ piece ∈ pieces, piece.Regular
  single : ∀ piece ∈ pieces, piece.Single
  column : column elemMatchKey pieces = entries.map fun entry => .obj [entry]
  nodup : (Entries.keys entries).Nodup

variable {body entries : Constraint} {pieces : List Constraint}

theorem Pieces.regular_foldAll (h : Pieces pieces entries) :
    ∀ constraint ∈ foldAll [] pieces, constraint.Regular :=
  mergeClosed_regular.foldAll_nil h.regular

theorem Pieces.clashing_foldAll (h : Pieces pieces entries) : Clashing (foldAll [] pieces) :=
  Constraint.clashing_foldAll List.Pairwise.nil (by simp) h.regular

/-- The envelopes of the pieces share one object, the first. -/
theorem Pieces.foldAll_cases (h : Pieces pieces entries) (hne : entries ≠ []) :
    ∃ first rest, foldAll [] pieces = first :: rest ∧
      Entries.get? first elemMatchKey = some (.obj entries) ∧
      ∀ constraint ∈ rest, Entries.get? constraint elemMatchKey = none := by
  have harranged := arranged_foldAll h.regular h.single elemMatchKey
  rw [h.column, stackAll_bodies_nil hne h.nodup] at harranged
  cases hp : foldAll [] pieces with
  | nil =>
    rw [hp] at harranged
    cases harranged.nil_cases
  | cons first rest =>
    rw [hp] at harranged
    rcases harranged.cons_cases with ⟨value, others, hfirst, heq, hrest⟩ | ⟨-, heq, -⟩
    · cases heq
      exact ⟨first, rest, rfl, hfirst, column_eq_nil_iff.1 hrest.column_eq⟩
    · cases heq

theorem Pieces.column_foldAll_inEnvelope (h : Pieces pieces entries) :
    Constraint.column elemMatchKey (foldAll [inEnvelope body] pieces) =
      stackAll elemMatchKey [.obj body] (entries.map fun entry => .obj [entry]) := by
  have hstart : Arranged elemMatchKey [inEnvelope body] [.obj body] :=
    arranged_cons_some (Entries.get?_singleton _ _) (arranged_nil _)
  rw [(hstart.foldAll h.regular h.single).column_eq, h.column]

/-- Envelopes that clash with the given one make up another one, in either way. -/
theorem Pieces.mem_column_of_clashing (h : Pieces pieces entries)
    (hall : ∀ inner ∈ Entries.keys entries, inner ∈ Entries.keys body) :
    value ∈ Constraint.column elemMatchKey (foldAll [inEnvelope body] pieces) ↔
      value ∈ Constraint.column elemMatchKey (foldAll [inEnvelope body] (foldAll [] pieces)) := by
  have hget : Entries.get? (inEnvelope body) elemMatchKey = some (.obj body) :=
    Entries.get?_singleton _ _
  rw [h.column_foldAll_inEnvelope]
  by_cases hne : entries = []
  · subst hne
    have hnil : Constraint.column elemMatchKey (foldAll [] pieces) = [] := by
      rw [column_foldAll h.regular h.single, h.column]
      rfl
    rw [mem_column_foldAll_cons_iff h.clashing_foldAll h.regular_foldAll fun constraint hc =>
      .inr (.inl (column_eq_nil_iff.1 hnil constraint hc)), hnil, hget]
    simp [stackAll, eq_comm]
  · obtain ⟨first, rest, hfold, hfirst, hrest⟩ := h.foldAll_cases hne
    have hnil : Constraint.column elemMatchKey rest = [] := column_eq_nil_iff.2 hrest
    have hregular := h.regular_foldAll
    have hclashing := h.clashing_foldAll
    rw [hfold] at hregular hclashing ⊢
    -- Neither a piece nor the object that they make up gets into the envelope of the query.
    have hcollides : ∀ other ∈ entries.map fun entry => Json.obj [entry],
        collides elemMatchKey (some (.obj body)) other = true := by
      rw [List.forall_mem_map]
      intro entry he
      exact collides_body_iff.2
        ⟨entry.1, List.mem_singleton_self _, hall _ (Entries.mem_keys_of_mem he)⟩
    have hrejects : (inEnvelope body).merge? first = none := by
      obtain ⟨entry, he⟩ := List.exists_mem_of_ne_nil _ hne
      have hkey := Entries.mem_keys_of_mem he
      refine merge?_eq_none_iff.2 ⟨_, Entries.mem_of_get?_eq_some hfirst, ?_⟩
      rw [hget]
      exact collides_body_iff.2 ⟨entry.1, hkey, hall _ hkey⟩
    rw [stackAll_cons_of_rejecting hcollides, stackAll_bodies_nil hne h.nodup,
      mem_column_foldAll_cons_iff hclashing hregular, column_cons_some hfirst, hnil, hget]
    · simp [eq_comm]
    · rw [List.forall_mem_cons]
      exact ⟨.inr (.inr hrejects), fun constraint hc => .inr (.inl (hrest constraint hc))⟩

/-- Envelopes that ask for other operators than the given one are joined with it, in either way. -/
theorem Pieces.column_eq_of_sharing (h : Pieces pieces entries) (hne : entries ≠ [])
    (hnodup : (Entries.keys (body ++ entries)).Nodup) :
    Constraint.column elemMatchKey (foldAll [inEnvelope body] pieces) =
      Constraint.column elemMatchKey (foldAll [inEnvelope body] (foldAll [] pieces)) := by
  obtain ⟨first, rest, hfold, hfirst, hrest⟩ := h.foldAll_cases hne
  have hregular := h.regular_foldAll
  have hclashing := h.clashing_foldAll
  rw [hfold, List.forall_mem_cons] at hregular
  rw [hfold, Clashing, List.pairwise_cons] at hclashing
  obtain ⟨merged, hm⟩ := exists_merge?_inEnvelope hregular.1 hfirst hnodup
  have hmerged : Entries.get? merged elemMatchKey = some (.obj (body ++ entries)) := by
    rw [get?_merge? hregular.1 hm, hfirst, inEnvelope, Entries.get?_singleton,
      ← combine_bodies hnodup]
    rfl
  have hrejects : ∀ constraint ∈ rest, merged.merge? constraint = none := fun constraint hc =>
    merge?_eq_none_of_taken hregular.1 hm (hclashing.1 constraint hc)
  have hkept : foldAll [inEnvelope body] (first :: rest) = merged :: rest := by
    rw [foldAll_cons, fold_cons_of_merge? _ hm]
    exact foldAll_eq_append (List.pairwise_cons.2 ⟨hrejects, hclashing.2⟩)
  rw [h.column_foldAll_inEnvelope, stackAll_bodies hnodup, hfold, hkept,
    column_cons_some hmerged, column_eq_nil_iff.2 hrest]

/-- Added to an envelope one by one or as the objects that they make up, the pieces of a list leave
the same values under each key, if the envelope can be shared with all of their envelopes or with
none. -/
theorem Pieces.mem_column_foldAll_iff (h : Pieces pieces entries)
    (hb : (Entries.keys body).Nodup)
    (hshare : (∀ inner ∈ Entries.keys entries, inner ∈ Entries.keys body) ∨
      ∀ inner ∈ Entries.keys entries, inner ∉ Entries.keys body) :
    value ∈ Constraint.column key (foldAll [inEnvelope body] pieces) ↔
      value ∈ Constraint.column key (foldAll [inEnvelope body] (foldAll [] pieces)) := by
  by_cases hk : key = elemMatchKey
  · subst hk
    rcases hshare with hall | hnone
    · exact h.mem_column_of_clashing hall
    · by_cases hne : entries = []
      · exact h.mem_column_of_clashing (by simp [hne])
      · have hnodup : (Entries.keys (body ++ entries)).Nodup := by
          rw [Entries.keys, List.map_append]
          refine List.nodup_append.2 ⟨hb, h.nodup, fun inner hi other ho heq => ?_⟩
          exact hnone other ho (heq ▸ hi)
        rw [h.column_eq_of_sharing hne hnodup]
  · have hnone : Entries.get? (inEnvelope body) key = none := get?_inEnvelope_of_ne hk
    have hstart : Arranged key [inEnvelope body] [] := arranged_cons_none hnone (arranged_nil _)
    rw [(hstart.foldAll h.regular h.single).column_eq,
      mem_column_foldAll_cons_iff h.clashing_foldAll h.regular_foldAll fun _ _ => .inl hnone, hnone,
      column_foldAll h.regular h.single]
    simp

/-! ## The two spellings of an object of operators -/

variable {path : String} {element : Category} {inner : List (String × Json)}

/-- The fragments of the entries of a list are the pieces of which the list is made up. -/
theorem pieces_fragments {entries : List (String × Json)} (hn : (Entries.keys entries).Nodup)
    (hl : ∀ key ∈ Entries.keys entries, Legal category key) :
    Pieces (fragments category entries) (asked category entries) where
  regular := by
    unfold fragments
    rw [List.forall_mem_map]
    intro entry he
    obtain ⟨operator, -, ho, -⟩ := (hl _ (Entries.mem_keys_of_mem he)).exists_operator
    rw [ofEntry_of_name ho]
    exact (emitted_singleton operator category entry.2).regular
  single := by
    unfold fragments
    rw [List.forall_mem_map]
    exact fun entry _ => ⟨_, _, rfl⟩
  column := column_fragments hl
  nodup := nodup_keys_asked hn

/-- The query on an element is one envelope, or nothing if it has no operators. -/
theorem compileElement_legal (path : String) (he : element.element? = none)
    (hn : (Entries.keys inner).Nodup) (hl : ∀ key ∈ Entries.keys inner, Legal element key) :
    inner = [] ∧ compileElement path element inner = .ok [] ∨
      compileElement path element inner = .ok [inEnvelope (inner.map (ofEntry element))] := by
  by_cases hne : inner = []
  · subst hne
    have hnil : compile (elementPath path) element [] = .ok [] := compile_eq_ok_iff.2 ⟨[], rfl, rfl⟩
    exact .inl ⟨rfl, compileElement_eq_ok_iff.2 ⟨[], hnil, rfl⟩⟩
  · have hbody := compile_scalar he (elementPath path) hne hn hl
    exact .inr (compileElement_eq_ok_iff.2 ⟨_, hbody, rfl⟩)

/-- An element query that comes before the operators of a list is folded before them. -/
theorem compile_oneFulfills_cons (he : category.element? = some element)
    {envelopes : List Constraint} (h : compileElement path element inner = .ok envelopes)
    {entries : List (String × Json)} (hl : ∀ key ∈ Entries.keys entries, Legal category key) :
    compile path category ((Operator.oneFulfills, .obj inner) :: entries) =
      .ok (foldAll [] (envelopes ++ fragments category entries)) := by
  have hrest := mapM_fragmentsOf_legal path hl
  have hfirst : fragmentsOf path category (Operator.oneFulfills, .obj inner) = .ok envelopes := by
    rw [fragmentsOf_oneFulfills he, h]
  refine compile_eq_ok_iff.2 ⟨_, Results.mapM_cons_eq_ok_iff.2 ⟨_, _, hfirst, hrest, rfl⟩, ?_⟩
  rw [List.flatten_cons, flatten_fragments]

/-- The operators of a list that ask for a single element all repeat an operator of the query on an
element, or none of them does. -/
def SharesAllOrNone (entries inner : List (String × Json)) : Prop :=
  (∀ key ∈ Entries.keys entries, ∀ name ∈ Operator.onElementName? key,
    name ∈ Entries.keys inner) ∨
  ∀ key ∈ Entries.keys entries, ∀ name ∈ Operator.onElementName? key,
    name ∉ Entries.keys inner

instance (entries inner : List (String × Json)) : Decidable (SharesAllOrNone entries inner) :=
  inferInstanceAs (Decidable (_ ∨ _))

/-- A store operator is in the body of an element query as the query has its operator. -/
theorem mem_keys_map_ofEntry_iff (he : element.element? = none)
    (hl : ∀ key ∈ Entries.keys inner, Legal element key) {operator : Operator}
    (ho : operator.store.onScalar? = some operator) :
    operator.store.key ∈ Entries.keys (inner.map (ofEntry element)) ↔
      operator.name ∈ Entries.keys inner := by
  rw [Entries.keys, Entries.keys, List.map_map, List.mem_map, List.mem_map]
  constructor
  · rintro ⟨entry, hm, hkey⟩
    obtain ⟨other, hname, hother, hlookup⟩ :=
      (hl _ (Entries.mem_keys_of_mem hm)).exists_operator
    rw [Function.comp_apply, ofEntry_of_name hother] at hkey
    have hsame := Operator.eq_of_storeKey_eq (onScalar?_store he hlookup) ho hkey
    exact ⟨entry, hm, hsame ▸ hname.symm⟩
  · rintro ⟨entry, hm, hname⟩
    have hfound : Operator.ofName? entry.1 = some operator := by
      rw [hname, Operator.ofName?_name]
    exact ⟨entry, hm, by rw [Function.comp_apply, ofEntry_of_name hfound]⟩

theorem SharesAllOrNone.keys {entries : List (String × Json)} (h : SharesAllOrNone entries inner)
    (he : element.element? = none) (hl : ∀ key ∈ Entries.keys inner, Legal element key) :
    (∀ key ∈ Entries.keys (asked category entries),
      key ∈ Entries.keys (inner.map (ofEntry element))) ∨
    ∀ key ∈ Entries.keys (asked category entries),
      key ∉ Entries.keys (inner.map (ofEntry element)) := by
  have hiff {operator asked : Operator} (ha : operator.onElement? = some asked) :
      asked.store.key ∈ Entries.keys (inner.map (ofEntry element)) ↔
        asked.name ∈ Entries.keys inner :=
    mem_keys_map_ofEntry_iff he hl (Operator.onScalar?_store_of_onElement? ha)
  have hname {name : String} {operator asked : Operator}
      (ho : Operator.ofName? name = some operator) (ha : operator.onElement? = some asked) :
      Operator.onElementName? name = some asked.name := by
    rw [Operator.onElementName?, ho, Option.bind_some, ha, Option.map_some]
  refine h.imp (fun hall key hk => ?_) fun hnone key hk => ?_
  · obtain ⟨name, hn, operator, asked, ho, ha, rfl⟩ := mem_keys_asked_iff.1 hk
    exact (hiff ha).2 (hall name hn _ (hname ho ha))
  · obtain ⟨name, hn, operator, asked, ho, ha, rfl⟩ := mem_keys_asked_iff.1 hk
    exact fun hm => hnone name hn _ (hname ho ha) ((hiff ha).1 hm)

/-- The element query is folded with the fragments of the list, or with the objects that these make
up; each key has the same values in both results. -/
theorem mem_column_spellings_iff (he : element.element? = none)
    {entries : List (String × Json)} (hn : (Entries.keys entries).Nodup)
    (hl : ∀ key ∈ Entries.keys entries, Legal category key)
    (hninner : (Entries.keys inner).Nodup) (hlinner : ∀ key ∈ Entries.keys inner, Legal element key)
    (hshares : SharesAllOrNone entries inner) {envelopes : List Constraint}
    (h : compileElement path element inner = .ok envelopes) :
    value ∈ column key (foldAll [] (envelopes ++ fragments category entries)) ↔
      value ∈ column key (foldAll [] (envelopes ++ foldAll [] (fragments category entries))) := by
  have hpieces := pieces_fragments hn hl
  rcases compileElement_legal path he hninner hlinner with ⟨-, hnil⟩ | hone
  · rw [hnil] at h
    cases h
    rw [List.nil_append, List.nil_append, foldAll_eq_self hpieces.clashing_foldAll]
  · rw [hone] at h
    cases h
    have hbody : (Entries.keys (inner.map (ofEntry element))).Nodup :=
      nodup_keys_map_ofEntry he hninner hlinner
    exact hpieces.mem_column_foldAll_iff hbody (hshares.keys he hlinner)

end Constraint

/-! ## The two spellings of a query -/

namespace Matching

open Constraint (column Emitted)

variable {path : String} {constraint : Constraint} {document : Json}

/-- A clause holds if its path can be asked for and all its operators hold. -/
theorem clauseHolds_eq_true_iff (h : Emitted constraint) :
    clauseHolds document ⟨path, constraint⟩ = .ok true ↔
      ∀ key value, Entries.get? constraint key = some value → isOperatorKey path = false ∧
        verdict (Path.resolve document path) (key, value) = .ok true := by
  cases hpath : isOperatorKey path with
  | false =>
    rw [holds_clause hpath h.conditions, Outcome.all_eq_true_iff]
    constructor
    · intro hall key value hv
      exact ⟨rfl, hall _ (Entries.mem_of_get?_eq_some hv)⟩
    · intro hall entry hm
      exact (hall _ _ (Entries.get?_eq_some_of_mem h.nodup hm)).2
  | true =>
    obtain ⟨error, herror⟩ := holds_clause_of_operatorKey document constraint hpath
    obtain ⟨entry, hm⟩ := List.exists_mem_of_ne_nil _ h.ne_nil
    rw [herror]
    constructor
    · exact fun hok => nomatch hok
    · exact fun hall => nomatch (hall _ _ (Entries.get?_eq_some_of_mem h.nodup hm)).1

/-- Whether clauses on one path hold together depends on their columns only. -/
theorem holds_clauses_iff {conjuncts : List Constraint}
    (h : ∀ constraint ∈ conjuncts, Emitted constraint) :
    holds document (Filter.toDocument ⟨conjuncts.map (Clause.mk path), []⟩) = .ok true ↔
      ∀ key, ∀ value ∈ column key conjuncts, isOperatorKey path = false ∧
        verdict (Path.resolve document path) (key, value) = .ok true := by
  rw [holds_required, Outcome.all_eq_true_iff, List.forall_mem_map]
  constructor
  · intro hall key value hv
    obtain ⟨constraint, hc, hget⟩ := Constraint.mem_column_iff.1 hv
    exact (clauseHolds_eq_true_iff (h constraint hc)).1 (hall constraint hc) key value hget
  · intro hall constraint hc
    refine (clauseHolds_eq_true_iff (h constraint hc)).2 fun key value hget => ?_
    exact hall key value (Constraint.mem_column_iff.2 ⟨constraint, hc, hget⟩)

end Matching

namespace Query

open Assembly (Step)
open Constraint (Legal SharesAllOrNone fragments foldAll)
open Matching (Outcome)

variable {types : TypeMap} {path : String} {category element : Category}
variable {entries inner : List (String × Json)}

/-- With the element query as its first entry, a list compiles to the fold of its envelopes and the
fragments of its operators. -/
theorem compile_nested (hp : types.get? path = some category)
    (he : category.element? = some element) (hl : ∀ key ∈ Entries.keys entries, Legal category key)
    {envelopes : List Constraint}
    (h : Constraint.compileElement path element inner = .ok envelopes) :
    compile types (.entry path (.obj ((Operator.oneFulfills, .obj inner) :: entries))) =
      .ok ⟨(foldAll [] (envelopes ++ fragments category entries)).map (Clause.mk path), []⟩ := by
  have hkeys : ∀ entry ∈ (Operator.oneFulfills, .obj inner) :: entries,
      Combinator.ofKey? entry.1 = none :=
    List.forall_mem_cons.2 ⟨rfl, ofKey?_eq_none_of_legal hl⟩
  rw [compile_entry hp hkeys, Constraint.compile_oneFulfills_cons he h hl]
  rfl

/-- With the element query bound to a path of its own, the objects of the list are folded after its
envelopes. -/
theorem compile_dotted (hp : types.get? path = some category)
    (he : category.element? = some element) (hnone : types.get? (elementPath path) = none)
    (hl : ∀ key ∈ Entries.keys entries, Legal category key) {envelopes : List Constraint}
    (h : Constraint.compileElement path element inner = .ok envelopes) :
    compile types (.obj [(elementPath path, .obj inner), (path, .obj entries)]) =
      .ok ⟨(foldAll [] (envelopes ++ foldAll [] (fragments category entries))).map
        (Clause.mk path), []⟩ := by
  have harray : category.isArray = true := by rw [Category.isArray, he]; rfl
  let listNode : QueryNode := ⟨path, category, entries, false⟩
  let elementNode : QueryNode := ⟨path, category, inner, true⟩
  have hnodes : nodes types (.obj [(elementPath path, .obj inner), (path, .obj entries)]) =
      .ok ([elementNode] ++ [listNode]) := by
    show nodesOfEntries types none ([(elementPath path, .obj inner)] ++ [(path, .obj entries)]) = _
    exact nodesOfEntries_append_eq_ok_iff.2
      ⟨_, _, nodes_elementPath hp harray hnone inner, nodes_entry hp entries, rfl⟩
  have helement : nodeSteps elementNode = .ok (envelopes.map (Step.push path)) := by
    rw [nodeSteps_of_onElement path he, h]
    rfl
  have hlist : nodeSteps listNode =
      .ok ((foldAll [] (fragments category entries)).map (Step.push path)) := by
    rw [nodeSteps_of_operators path category (ofKey?_eq_none_of_legal hl),
      Constraint.compile_legal path hl]
    rfl
  have hsteps : [elementNode, listNode].mapM nodeSteps = .ok [envelopes.map (Step.push path),
      (foldAll [] (fragments category entries)).map (Step.push path)] :=
    Results.mapM_cons_eq_ok_iff.2
      ⟨_, _, helement, Results.mapM_cons_eq_ok_iff.2 ⟨_, _, hlist, rfl, rfl⟩, rfl⟩
  refine compile_eq_ok_iff.2 ⟨_, _, hnodes, hsteps, ?_⟩
  rw [List.flatten_cons, List.flatten_singleton, ← List.map_append, finish_run_push]

/-- The query on an element may be the first entry of its list or be bound to a path of its own
before the list. The two spellings select the same documents, provided that the operators of the
list that ask for a single element all repeat an operator of the element query, or none of them
does. The keys of both objects are distinct, as those of every object that is read. -/
theorem spellings_agree {format : Format}
    (hp : (TypeMap.ofFormat format).get? path = some category)
    (he : category.element? = some element)
    (hnone : (TypeMap.ofFormat format).get? (elementPath path) = none)
    (hn : (Entries.keys entries).Nodup)
    (hl : ∀ key ∈ Entries.keys entries, (OperatorTable.find? category key).isSome = true)
    (hninner : (Entries.keys inner).Nodup)
    (hlinner : ∀ key ∈ Entries.keys inner, (OperatorTable.find? element key).isSome = true) :
    ∃ nested dotted,
      compileFor format (.entry path (.obj ((Operator.oneFulfills, .obj inner) :: entries))) =
        .ok nested ∧
      compileFor format (.obj [(elementPath path, .obj inner), (path, .obj entries)]) =
        .ok dotted ∧
      (SharesAllOrNone entries inner → ∀ document,
        Outcome.Evaluates (Matching.holds document nested.toDocument) →
        Outcome.Evaluates (Matching.holds document dotted.toDocument) →
        Matching.holds document nested.toDocument = Matching.holds document dotted.toDocument) := by
  have hscalar := Category.element?_of_element? he
  have hcompiled : ∃ envelopes, Constraint.compileElement path element inner = .ok envelopes := by
    rcases Constraint.compileElement_legal path hscalar hninner hlinner with ⟨-, h⟩ | h
    · exact ⟨_, h⟩
    · exact ⟨_, h⟩
  obtain ⟨envelopes, henvelopes⟩ := hcompiled
  refine ⟨_, _, compile_nested hp he hl henvelopes, compile_dotted hp he hnone hl henvelopes, ?_⟩
  intro hshares document hnested hdotted
  refine hnested.eq_of_iff hdotted ?_
  have hlist := Constraint.emitted_of_compile (Constraint.compile_legal path hl)
  have henvelope := Constraint.emitted_of_compileElement hscalar henvelopes
  have hnestedEmitted :=
    Constraint.emitted_of_compile (Constraint.compile_oneFulfills_cons he henvelopes hl)
  have hdottedEmitted := Constraint.mergeClosed_emitted.foldAll_nil
    (List.forall_mem_append.2 ⟨henvelope, hlist⟩)
  rw [Matching.holds_clauses_iff hnestedEmitted, Matching.holds_clauses_iff hdottedEmitted]
  refine forall_congr' fun key => forall_congr' fun value => imp_congr_left ?_
  exact Constraint.mem_column_spellings_iff hscalar hn hl hninner hlinner hshares henvelopes

theorem tags_spellings_agree :
    ∃ nested dotted,
      compileFor tagFormat (.entry "tags" (.obj [
        (Operator.oneFulfills, .obj [("one_of", .arr [.str "y"])]),
        ("contains_one_of", .arr [.str "x"]), ("size", .int 2)])) = .ok nested ∧
      compileFor tagFormat (.obj [
        (elementPath "tags", .obj [("one_of", .arr [.str "y"])]),
        ("tags", .obj [("contains_one_of", .arr [.str "x"]), ("size", .int 2)])]) = .ok dotted ∧
      Matching.holds tagDocument nested.toDocument =
        Matching.holds tagDocument dotted.toDocument := by
  have hp : (TypeMap.ofFormat tagFormat).get? "tags" = some .stringArray := by cbv
  have hnone : (TypeMap.ofFormat tagFormat).get? (elementPath "tags") = none := by cbv
  let entries : List (String × Json) := [("contains_one_of", .arr [.str "x"]), ("size", .int 2)]
  let inner : List (String × Json) := [("one_of", .arr [.str "y"])]
  have hn : (Entries.keys entries).Nodup := by decide
  have hl : ∀ key ∈ Entries.keys entries,
      (OperatorTable.find? .stringArray key).isSome = true := by decide
  have hlinner : ∀ key ∈ Entries.keys inner, (OperatorTable.find? .string key).isSome = true := by
    decide
  have hshares : SharesAllOrNone entries inner := by decide
  obtain ⟨nested, dotted, hnested, hdotted, hagree⟩ :=
    spellings_agree hp rfl hnone hn hl (by decide) hlinner
  refine ⟨nested, dotted, hnested, hdotted, hagree hshares tagDocument ?_ ?_⟩
  · have hfilter : compileFor tagFormat (.entry "tags" (.obj ((Operator.oneFulfills, .obj inner) ::
        entries))) = .ok ⟨[
          ⟨"tags", [(elemMatchKey, .entry "$in" (.arr [.str "y"])), ("$size", .int 2)]⟩,
          ⟨"tags", [(elemMatchKey, .entry "$in" (.arr [.str "x"]))]⟩], []⟩ := by
      cbv
    rw [hfilter] at hnested
    cases hnested
    exact ⟨_, by cbv⟩
  · have hfilter : compileFor tagFormat (.obj [(elementPath "tags", .obj inner),
        ("tags", .obj entries)]) = .ok ⟨[⟨"tags", [(elemMatchKey, .entry "$in" (.arr [.str "y"]))]⟩,
          ⟨"tags", [(elemMatchKey, .entry "$in" (.arr [.str "x"])), ("$size", .int 2)]⟩], []⟩ := by
      cbv
    rw [hfilter] at hdotted
    cases hdotted
    exact ⟨_, by cbv⟩

/-- A list of numbers. -/
def scoreFormat : Format := [("scores", .arrayOf .number)]

def scoreDocument : Json := .entry "scores" (.arr [.int 5, .int 1])

/-- Of two operators that ask for a single element, one repeats the operator of the element query
and the other does not: nested, the other shares the envelope of the element query, while in the
dotted spelling both keep one of their own. -/
theorem spellings_differ :
    (TypeMap.ofFormat scoreFormat).get? "scores" = some .numberArray ∧
    (TypeMap.ofFormat scoreFormat).get? (elementPath "scores") = none ∧
    (∀ key ∈ ["contains_one_of", "contains_greater_than"],
      (OperatorTable.find? .numberArray key).isSome = true) ∧
    (OperatorTable.find? .number "one_of").isSome = true ∧
    ∃ nested dotted,
      compileFor scoreFormat (.entry "scores" (.obj [
        (Operator.oneFulfills, .obj [("one_of", .arr [.int 5])]),
        ("contains_one_of", .arr [.int 1]), ("contains_greater_than", .int 3)])) = .ok nested ∧
      compileFor scoreFormat (.obj [
        (elementPath "scores", .obj [("one_of", .arr [.int 5])]),
        ("scores", .obj [("contains_one_of", .arr [.int 1]), ("contains_greater_than", .int 3)])]) =
          .ok dotted ∧
      Matching.holds scoreDocument nested.toDocument = .ok true ∧
      Matching.holds scoreDocument dotted.toDocument = .ok false := by
  refine ⟨by cbv, by cbv, by decide, by decide, ⟨[⟨"scores", [(elemMatchKey,
    .obj [("$in", .arr [.int 5]), ("$gt", .int 3)])]⟩, ⟨"scores", [(elemMatchKey,
    .entry "$in" (.arr [.int 1]))]⟩], []⟩, ⟨[⟨"scores", [(elemMatchKey,
    .entry "$in" (.arr [.int 5]))]⟩, ⟨"scores", [(elemMatchKey,
    .obj [("$in", .arr [.int 1]), ("$gt", .int 3)])]⟩], []⟩, by cbv, by cbv, by cbv, by cbv⟩

end Query

end SchemaQuery
