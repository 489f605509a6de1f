import SchemaQuery.Proofs.ElementQueries

/-!
# Walking through a query

The walk through a query goes into an object only if some path of the type map lies below. Nothing
is missed by that: whatever is found below a path, be it a node or a fault, is bound to a path of
the type map below it or to the element queries of one (`Barren.child`, `Barren.elementTarget?`). So
the walk gives what going into every object gives, and a key that means nothing by itself may be
joined by dots to the keys of the object under it (`nodes_eq_unguidedNodes`).
-/

namespace SchemaQuery

/-! ## Paths -/

/-- A path lies below another one. -/
def IsBelow (below path : String) : Prop := path.toList ++ ['.'] <+: below.toList

theorem isBelow_joinPath (path key : String) : IsBelow (joinPath (some path) key) path :=
  ⟨key.toList, by simp [joinPath]⟩

theorem IsBelow.trans {first second third : String} (h : IsBelow first second)
    (h' : IsBelow second third) : IsBelow first third := by
  have hsecond : second.toList <+: first.toList := (List.prefix_append _ ['.']).trans h
  exact List.IsPrefix.trans h' hsecond

theorem joinPath_joinPath (parent : Option String) (key inner : String) :
    joinPath (some (joinPath parent key)) inner = joinPath parent (joinPath (some key) inner) := by
  cases parent with
  | none => rfl
  | some parent => simp only [joinPath, String.append_assoc]

theorem listPath?_eq_some_iff {path list : String} :
    listPath? path = some list ↔ path = elementPath list := by
  constructor
  · intro h
    rw [listPath?] at h
    split at h
    · rename_i hsuffix
      obtain ⟨front, hfront⟩ := List.isSuffixOf_iff_suffix.1 hsuffix
      have hlist : list = String.ofList front := by
        rw [← hfront] at h
        simpa using h.symm
      apply String.toList_injective
      rw [← hfront, hlist]
      simp [elementPath]
    · cases h
  · rintro rfl
    exact listPath?_elementPath list

/-- The element queries of a list are written right below its path: as their key has no dot, they
lie below no other path that is not above the list. -/
theorem eq_or_isBelow_of_elementPath {path key list : String}
    (h : joinPath (some path) key = elementPath list) : list = path ∨ IsBelow list path := by
  have hdot : '.' ∉ Operator.oneFulfills.toList := by decide
  have hchars : path.toList ++ '.' :: key.toList =
      list.toList ++ '.' :: Operator.oneFulfills.toList := by
    simpa [joinPath, elementPath] using congrArg String.toList h
  rcases List.append_eq_append_iff.1 hchars with ⟨rest, hlist, hrest⟩ | ⟨rest, hpath, hrest⟩
  · cases rest with
    | nil => exact .inl (String.toList_injective (by simpa using hlist))
    | cons c rest =>
      obtain ⟨rfl, -⟩ := List.cons.inj hrest
      exact .inr ⟨rest, by simpa using hlist.symm⟩
  · cases rest with
    | nil => exact .inl (String.toList_injective (by simpa using hpath.symm))
    | cons c rest =>
      -- The dot after the path would stand within the key of element queries.
      obtain ⟨-, htail⟩ := List.cons.inj hrest
      exact absurd (htail ▸ List.mem_append_right _ List.mem_cons_self) hdot

namespace TypeMap

theorem hasDescendants_eq_true_iff {types : TypeMap} {path : String} :
    types.hasDescendants path = true ↔
      ∃ below category, types.get? below = some category ∧ IsBelow below path := by
  rw [hasDescendants, List.any_eq_true]
  constructor
  · rintro ⟨⟨below, category⟩, hm, hp⟩
    obtain ⟨found, hf⟩ := Entries.mem_keys_iff_get?.1 (Entries.mem_keys_of_mem hm)
    exact ⟨below, found, hf, List.isPrefixOf_iff_prefix.1 hp⟩
  · rintro ⟨below, category, hget, hp⟩
    exact ⟨_, Entries.mem_of_get?_eq_some hget, List.isPrefixOf_iff_prefix.2 hp⟩

theorem elementTarget?_eq_some_iff {types : TypeMap} {path list : String} {category : Category} :
    types.elementTarget? path = some (list, category) ↔
      path = elementPath list ∧ types.get? list = some category ∧ category.isArray = true := by
  constructor
  · intro h
    rw [elementTarget?] at h
    obtain ⟨other, hl, h⟩ := Option.bind_eq_some_iff.1 h
    obtain ⟨found, hc, h⟩ := Option.bind_eq_some_iff.1 h
    split at h
    · cases h
      exact ⟨listPath?_eq_some_iff.1 hl, hc, by assumption⟩
    · cases h
  · rintro ⟨rfl, hc, ha⟩
    simp [elementTarget?, listPath?_elementPath, hc, ha]

/-- Neither the path nor any path below it can be queried. -/
structure Barren (types : TypeMap) (path : String) : Prop where
  get? : types.get? path = none
  hasDescendants : types.hasDescendants path = false

variable {types : TypeMap} {path : String}

theorem Barren.get?_of_isBelow (h : types.Barren path) {below : String} (hb : IsBelow below path) :
    types.get? below = none := by
  rw [Option.eq_none_iff_forall_ne_some]
  intro category hc
  have := hasDescendants_eq_true_iff.2 ⟨below, category, hc, hb⟩
  rw [h.hasDescendants] at this
  cases this

theorem Barren.child (h : types.Barren path) (key : String) :
    types.Barren (joinPath (some path) key) where
  get? := h.get?_of_isBelow (isBelow_joinPath path key)
  hasDescendants := by
    rw [Bool.eq_false_iff]
    intro ht
    obtain ⟨below, category, hc, hb⟩ := hasDescendants_eq_true_iff.1 ht
    rw [h.get?_of_isBelow (hb.trans (isBelow_joinPath path key))] at hc
    cases hc

theorem Barren.elementTarget? (h : types.Barren path) (key : String) :
    types.elementTarget? (joinPath (some path) key) = none := by
  rw [Option.eq_none_iff_forall_ne_some]
  rintro ⟨list, category⟩ ht
  obtain ⟨hpath, hc, -⟩ := elementTarget?_eq_some_iff.1 ht
  rcases eq_or_isBelow_of_elementPath hpath with rfl | hb
  · rw [h.get?] at hc
    cases hc
  · rw [h.get?_of_isBelow hb] at hc
    cases hc

end TypeMap

namespace Query

/-! ## The walk into every object -/

mutual

/-- The terminal nodes that a value gives at a path: one if the path is that of a field or of the
element queries of a list, and otherwise those inside of the value. -/
def nodesAt (types : TypeMap) (path : String) : Json → Except QueryError (List QueryNode)
  | .obj body =>
    match types.get? path, types.elementTarget? path with
    | some category, _ => .ok [⟨path, category, body, false⟩]
    | none, some (list, category) => .ok [⟨list, category, body, true⟩]
    | none, none => nodesInside types (some path) body
  | _ =>
    match types.get? path, types.elementTarget? path with
    | some _, _ => .error (.malformed path .field)
    | none, some _ => .error (.malformed path .element)
    | none, none => .ok []
termination_by structural value => value

/-- The terminal nodes that entries give at a path, in order. -/
def nodesInside (types : TypeMap) (parent : Option String) :
    List (String × Json) → Except QueryError (List QueryNode)
  | [] => .ok []
  | (key, value) :: rest => do
    let found ← nodesAt types (joinPath parent key) value
    let others ← nodesInside types parent rest
    return found ++ others
termination_by structural entries => entries

end

/-- The terminal nodes of a query, found by going into every object that is not itself bound to a
field or to the element queries of a list. -/
def unguidedNodes (types : TypeMap) : Json → Except QueryError (List QueryNode)
  | .null => .ok []
  | .obj entries => nodesInside types none entries
  | _ => .error (.malformed "" .query)

variable {types : TypeMap} {parent : Option String} {path key : String}
  {entries others inner : List (String × Json)}

/-- The path is neither that of a field nor that of the element queries of a list. -/
structure IsOpen (types : TypeMap) (path : String) : Prop where
  get? : types.get? path = none
  elementTarget? : types.elementTarget? path = none

theorem nodesAt_obj (h : IsOpen types path) (body : List (String × Json)) :
    nodesAt types path (.obj body) = nodesInside types (some path) body := by
  rw [nodesAt, h.get?, h.elementTarget?]

theorem nodesAt_of_not_obj (h : IsOpen types path) {value : Json}
    (hv : ∀ body, value ≠ .obj body) : nodesAt types path value = .ok [] := by
  cases value with
  | obj body => exact absurd rfl (hv body)
  | _ => simp only [nodesAt, h.get?, h.elementTarget?]

/-- There is nothing to find where no path can be queried. -/
theorem nodesInside_of_barren (h : types.Barren path) :
    nodesInside types (some path) entries = .ok [] := by
  induction entries using entries_induction generalizing path with
  | nil => rw [nodesInside]
  | cons key value rest ihinner ihrest =>
    have hopen : IsOpen types (joinPath (some path) key) :=
      ⟨(h.child key).get?, h.elementTarget? key⟩
    have hvalue : nodesAt types (joinPath (some path) key) value = .ok [] := by
      cases value with
      | obj inner =>
        rw [nodesAt_obj hopen]
        exact ihinner inner rfl (h.child key)
      | _ => exact nodesAt_of_not_obj hopen (by simp)
    rw [nodesInside, hvalue, ihrest h]
    rfl

/-- An entry gives what its value gives at its path, if this holds of the entries inside. -/
theorem nodesOfEntry_eq_nodesAt {value : Json}
    (hinner : ∀ inner, value = .obj inner → ∀ parent,
      nodesOfEntries types parent inner = nodesInside types parent inner) :
    nodesOfEntry types parent (key, value) = nodesAt types (joinPath parent key) value := by
  simp only [nodesOfEntry, target]
  cases hget : types.get? (joinPath parent key) with
  | some category => cases value <;> simp only [nodesAt, hget]
  | none =>
    cases helement : types.elementTarget? (joinPath parent key) with
    | some found => cases value <;> simp only [nodesAt, hget, helement]
    | none =>
      have hopen : IsOpen types (joinPath parent key) := ⟨hget, helement⟩
      cases value with
      | obj inner =>
        rw [nodesAt_obj hopen]
        by_cases hbelow : types.hasDescendants (joinPath parent key) = true
        · simp only [hbelow, if_true]
          exact hinner inner rfl _
        · -- The walk does not go in here, and it would find nothing.
          have hbarren : types.Barren (joinPath parent key) := ⟨hget, by simpa using hbelow⟩
          simp only [hbarren.hasDescendants, nodesInside_of_barren hbarren]
          rfl
      | _ =>
        rw [nodesAt_of_not_obj hopen (by simp)]
        by_cases hbelow : types.hasDescendants (joinPath parent key) = true <;> simp [hbelow]

theorem nodesOfEntries_eq_nodesInside :
    nodesOfEntries types parent entries = nodesInside types parent entries := by
  induction entries using entries_induction generalizing parent with
  | nil => rw [nodesOfEntries, nodesInside]
  | cons key value rest ihinner ihrest =>
    rw [nodesOfEntries_cons, nodesInside, ihrest,
      nodesOfEntry_eq_nodesAt fun inner h _ => ihinner inner h]

/-! ## Nested and dotted keys -/

/-- The entries of the object under a key, with the key joined to their own by a dot. -/
def dotted (key : String) (entries : List (String × Json)) : List (String × Json) :=
  entries.map fun entry => (joinPath (some key) entry.1, entry.2)

/-- Some objects among the entries at a path, at any depth, are replaced by their entries with dotted
keys. The keys of these objects are paths that mean nothing by themselves. -/
inductive Respelled (types : TypeMap) :
    Option String → List (String × Json) → List (String × Json) → Prop
  | nil {parent : Option String} : Respelled types parent [] []
  | same {parent : Option String} (entry : String × Json) {xs ys : List (String × Json)}
      (hrest : Respelled types parent xs ys) : Respelled types parent (entry :: xs) (entry :: ys)
  | inside {parent : Option String} {key : String} {inner others xs ys : List (String × Json)}
      (hopen : IsOpen types (joinPath parent key))
      (hinner : Respelled types (some (joinPath parent key)) inner others)
      (hrest : Respelled types parent xs ys) :
      Respelled types parent ((key, .obj inner) :: xs) ((key, .obj others) :: ys)
  | dots {parent : Option String} {key : String} {inner others xs ys : List (String × Json)}
      (hopen : IsOpen types (joinPath parent key))
      (hinner : Respelled types (some (joinPath parent key)) inner others)
      (hrest : Respelled types parent xs ys) :
      Respelled types parent ((key, .obj inner) :: xs) (dotted key others ++ ys)

theorem nodesInside_append (xs ys : List (String × Json)) :
    nodesInside types parent (xs ++ ys) = (do
      let found ← nodesInside types parent xs
      let others ← nodesInside types parent ys
      return found ++ others) := by
  induction xs with
  | nil =>
    rw [List.nil_append, nodesInside]
    cases nodesInside types parent ys <;> rfl
  | cons entry rest ih =>
    obtain ⟨key, value⟩ := entry
    rw [List.cons_append, nodesInside, nodesInside, ih]
    cases nodesAt types (joinPath parent key) value with
    | error error => rfl
    | ok first =>
      cases nodesInside types parent rest with
      | error error => rfl
      | ok second =>
        cases nodesInside types parent ys with
        | error error => rfl
        | ok third => exact congrArg Except.ok (List.append_assoc first second third).symm

theorem nodesInside_dotted :
    nodesInside types parent (dotted key entries) =
      nodesInside types (some (joinPath parent key)) entries := by
  induction entries with
  | nil => rw [dotted, List.map_nil, nodesInside, nodesInside]
  | cons entry rest ih =>
    obtain ⟨inner, value⟩ := entry
    have hcons : dotted key ((inner, value) :: rest) =
        (joinPath (some key) inner, value) :: dotted key rest := rfl
    rw [hcons, nodesInside, nodesInside, ih, joinPath_joinPath]

/-- Both spellings give the same nodes in the same order, or the same fault. -/
theorem Respelled.nodesInside_eq (h : Respelled types parent entries others) :
    nodesInside types parent others = nodesInside types parent entries := by
  induction h with
  | nil => rfl
  | same entry _ ih => rw [nodesInside, nodesInside, ih]
  | inside hopen _ _ ihinner ihrest =>
    rw [nodesInside, nodesInside, nodesAt_obj hopen, nodesAt_obj hopen, ihinner, ihrest]
  | dots hopen _ _ ihinner ihrest =>
    rw [nodesInside_append, nodesInside_dotted, nodesInside, nodesAt_obj hopen, ihinner, ihrest]

/-- The walk gives the same nodes in the same order, or the same fault, as going into every object,
whatever the paths of the type map. Neither do they depend on whether a key that means nothing by
itself is bound to an object or joined by dots to the keys of that object. -/
theorem nodes_eq_unguidedNodes (types : TypeMap) :
    (∀ query, nodes types query = unguidedNodes types query) ∧
      ∀ entries others, Respelled types none entries others →
        nodes types (.obj others) = nodes types (.obj entries) := by
  constructor
  · intro query
    cases query with
    | obj entries => exact nodesOfEntries_eq_nodesInside
    | _ => rfl
  · intro entries others h
    show nodesOfEntries types none others = nodesOfEntries types none entries
    rw [nodesOfEntries_eq_nodesInside, nodesOfEntries_eq_nodesInside, h.nodesInside_eq]

/-! ### An object in an object -/

/-- A home has an address, which is an object with a city, and a list of tags. -/
def homeFormat : Format :=
  [("home", .object [("address", .object [("city", .optionalString)]), ("tags", .arrayOf .string)])]

/-- Nested down to the city, with a key that is not in the schema. -/
def nestedHome : List (String × Json) :=
  [("home", .obj [
    ("address", .obj [("city", .entry "equal_to" (.str "x")), ("street", .null)]),
    (elementPath "tags", .entry "equal_to" (.str "y"))])]

/-- The same entries with dotted keys only. -/
def dottedHome : List (String × Json) :=
  [("home.address.city", .entry "equal_to" (.str "x")), ("home.address.street", .null),
    (elementPath "home.tags", .entry "equal_to" (.str "y"))]

theorem dottedHome_nodes_eq :
    Respelled (.ofFormat homeFormat) none nestedHome dottedHome ∧
      nodes (.ofFormat homeFormat) (.obj dottedHome) =
        nodes (.ofFormat homeFormat) (.obj nestedHome) := by
  have hhome : IsOpen (.ofFormat homeFormat) (joinPath none "home") :=
    ⟨by cbv, by decide +kernel⟩
  have haddress : IsOpen (.ofFormat homeFormat) (joinPath (some "home") "address") :=
    ⟨by cbv, by decide +kernel⟩
  have hdotted : dottedHome = dotted "home" (dotted "address" [("city",
      .entry "equal_to" (.str "x")), ("street", .null)] ++
        [(elementPath "tags", .entry "equal_to" (.str "y"))]) ++ [] := by cbv
  have h : Respelled (.ofFormat homeFormat) none nestedHome dottedHome := by
    rw [hdotted]
    exact .dots hhome (.dots haddress (.same _ (.same _ .nil)) (.same _ .nil)) .nil
  exact ⟨h, (nodes_eq_unguidedNodes _).2 nestedHome dottedHome h⟩

end Query

end SchemaQuery
