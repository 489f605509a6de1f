import SchemaQuery.Proofs.Walking

/-!
# Type maps as flattened formats

A leaf of a format is a field with a category that is reached through objects with declared fields.
The type map of a format lists the paths of its leaves in the order of the schema
(`paths_ofFormat`); of leaves with the same path the first gives the place and the last the category
(`ofFormat_flattens`). As long as names have no dots, leaves have paths of their own, a path leads
to its leaf segment by segment, and no leaf lies below another one (`HasLeaf.eq_of_names_prefix`).
-/

namespace SchemaQuery

/-! ## Entries that are inserted one after the other -/

namespace Entries

variable {α : Type}

theorem ofList_concat (entries : List (String × α)) (key : String) (value : α) :
    ofList (entries ++ [(key, value)]) = insert (ofList entries) key value := by
  simp [ofList, insertAll]

/-- The keys stand in the order in which they came first. -/
theorem keys_ofList (entries : List (String × α)) :
    keys (ofList entries) = (keys entries).eraseDups := by
  induction entries using List.reverseRecOn with
  | nil => rfl
  | append_singleton entries entry ih =>
    obtain ⟨key, value⟩ := entry
    have hkeys : keys (entries ++ [(key, value)]) = keys entries ++ [key] := by simp [keys]
    rw [ofList_concat, keys_insert, ih, hkeys, List.eraseDups_append]
    by_cases hm : key ∈ keys entries
    · simp [hm, List.removeAll]
    · simp [hm, List.removeAll, List.eraseDups_cons]

/-- Of a repeated key, the last value counts. -/
theorem get?_ofList (entries : List (String × α)) (key : String) :
    get? (ofList entries) key = ((entries.filter (·.1 = key)).getLast?).map (·.2) := by
  induction entries using List.reverseRecOn with
  | nil => rfl
  | append_singleton entries entry ih =>
    obtain ⟨other, value⟩ := entry
    rw [ofList_concat, get?_insert, ih, List.filter_append]
    by_cases ho : other = key <;> simp [ho]

theorem exists_index_of_get? {entries : List (String × α)} {key : String} {value : α}
    (h : get? entries key = some value) : ∃ index : Nat, entries[index]? = some (key, value) :=
  List.mem_iff_getElem?.1 (mem_of_get?_eq_some h)

theorem get?_of_index {entries : List (String × α)} (hn : (keys entries).Nodup) {index : Nat}
    {key : String} {value : α} (h : entries[index]? = some (key, value)) :
    get? entries key = some value :=
  get?_eq_some_of_mem hn (List.mem_of_getElem? h)

/-- Where no key is repeated, a key has one place only. -/
theorem index_unique {entries : List (String × α)} (hn : (keys entries).Nodup) {i j : Nat}
    {key : String} {value other : α} (hi : entries[i]? = some (key, value))
    (hj : entries[j]? = some (key, other)) : i = j := by
  have hki : (keys entries)[i]? = some key := by simp [keys, hi]
  have hkj : (keys entries)[j]? = some key := by simp [keys, hj]
  obtain ⟨hlt, -⟩ := List.getElem?_eq_some_iff.1 hki
  exact (List.getElem?_inj hlt hn).1 (hki.trans hkj.symm)

end Entries

/-! ## Paths and their segments -/

namespace Path

theorem intercalate_splitDots (cs : List Char) : List.intercalate ['.'] (splitDots cs) = cs := by
  induction cs with
  | nil => rfl
  | cons c cs ih =>
    cases hs : splitDots cs with
    | nil => exact absurd hs (splitDots_ne_nil cs)
    | cons first others =>
      rw [hs] at ih
      by_cases hc : c = '.'
      · rw [splitDots, if_pos hc, hs, List.intercalate_cons_cons, ih, hc]
        rfl
      · rw [splitDots, if_neg hc, hs]
        cases others <;> simp_all

/-- A path is its segments, joined by dots. -/
theorem intercalate_segments (path : String) : ".".intercalate (segments path) = path := by
  apply String.toList_injective
  have hmap : (segments path).map String.toList = splitDots path.toList := by
    rw [segments, List.map_map]
    exact (List.map_congr_left fun cs _ => by simp).trans (List.map_id _)
  rw [String.toList_intercalate, hmap]
  exact intercalate_splitDots path.toList

theorem segments_ne_nil (path : String) : segments path ≠ [] := by
  simpa [segments] using splitDots_ne_nil path.toList

/-- Names without dots are the segments of the path that joins them. -/
theorem segments_intercalate {names : List String} (hne : names ≠ [])
    (hd : ∀ name ∈ names, '.' ∉ name.toList) : segments (".".intercalate names) = names := by
  induction names with
  | nil => exact absurd rfl hne
  | cons name rest ih =>
    rw [List.forall_mem_cons] at hd
    have hname : segments name = [name] := by
      rw [segments, splitDots_eq_singleton hd.1]
      simp
    cases rest with
    | nil => simpa using hname
    | cons next rest =>
      rw [String.intercalate_cons_cons, segments_append_dot, hname, ih (by simp) hd.2]
      rfl

end Path

/-! ## Leaves of a format -/

/-- The fields of an object that declares them. -/
def FieldDef.fields? : FieldDef → Option Format
  | .mk .object (.fields format) _ => some format
  | _ => none

theorem ofField?_of_fields? {definition : FieldDef} {inner : Format}
    (h : definition.fields? = some inner) : Category.ofField? definition = none := by
  rw [FieldDef.fields?.eq_def] at h
  split at h
  · rfl
  · cases h

/-- A field with a category, with the way that leads to it: its place among the fields of its object
and the places of the objects around it, and the names at these places. -/
structure Leaf where
  position : List Nat
  names : List String
  category : Category

namespace Leaf

/-- The names joined by dots. -/
def path (leaf : Leaf) : String := ".".intercalate leaf.names

/-- The leaf seen from outside of the object that is the field at a place. -/
def under (index : Nat) (name : String) (leaf : Leaf) : Leaf :=
  ⟨index :: leaf.position, name :: leaf.names, leaf.category⟩

end Leaf

namespace Format

/-- The format has the leaf, as one of its fields or inside of an object. -/
inductive HasLeaf : Format → Leaf → Prop
  | field {format : Format} {index : Nat} {name : String} {definition : FieldDef}
      {category : Category} (hf : format[index]? = some (name, definition))
      (hc : Category.ofField? definition = some category) :
      HasLeaf format ⟨[index], [name], category⟩
  | inside {format inner : Format} {index : Nat} {name : String} {definition : FieldDef}
      {leaf : Leaf} (hf : format[index]? = some (name, definition))
      (hd : definition.fields? = some inner) (hl : HasLeaf inner leaf) :
      HasLeaf format (leaf.under index name)

/-- The format itself, or the fields of an object that is reached through objects. -/
inductive Reaches : Format → Format → Prop
  | self (format : Format) : Reaches format format
  | inside {format inner found : Format} {name : String} {definition : FieldDef}
      (hm : (name, definition) ∈ format) (hd : definition.fields? = some inner)
      (h : Reaches inner found) : Reaches format found

/-- No object that is reached has two fields of the same name. -/
def Unambiguous (format : Format) : Prop :=
  ∀ found, Reaches format found → (Entries.keys found).Nodup

/-- No name of a field that is reached has a dot in it. -/
def Dotless (format : Format) : Prop :=
  ∀ found, Reaches format found → ∀ name ∈ Entries.keys found, '.' ∉ name.toList

/-- The definition at the end of a way that names lead through objects. -/
def follow? (format : Format) : List String → Option FieldDef
  | [] => none
  | [name] => Entries.get? format name
  | name :: next :: rest =>
    (Entries.get? format name).bind fun definition =>
      definition.fields?.bind fun inner => follow? inner (next :: rest)

/-- Induction over the fields of a format: a definition may use the claim for the fields that it
declares. -/
theorem fields_induction {motive : Format → Prop} (nil : motive [])
    (cons : ∀ name definition rest, (∀ inner, definition.fields? = some inner → motive inner) →
      motive rest → motive ((name, definition) :: rest)) : ∀ format, motive format
  | [] => nil
  | (name, .mk type (.fields inner) _) :: rest =>
    cons name _ rest
      (fun _ h => by
        cases type <;> cases h
        exact fields_induction nil cons inner)
      (fields_induction nil cons rest)
  | (name, .mk type .unspecified _) :: rest | (name, .mk type (.named _) _) :: rest
  | (name, .mk type (.other _) _) :: rest =>
    cons name _ rest (fun _ h => by cases type <;> cases h) (fields_induction nil cons rest)

/-! ### The leaves in order -/

mutual

/-- The leaves of fields in order, where the first field has the place `index`. -/
def leavesFrom (index : Nat) : List (String × FieldDef) → List Leaf
  | [] => []
  | (name, definition) :: rest =>
    (leavesAt definition).map (Leaf.under index name) ++ leavesFrom (index + 1) rest

/-- The leaves at or inside of a field. -/
def leavesAt : FieldDef → List Leaf
  | .mk type makeup required =>
    match Category.ofField? (.mk type makeup required) with
    | some category => [⟨[], [], category⟩]
    | none => if type = .object then leavesIn makeup else []

/-- The leaves among the declared fields of an object. -/
def leavesIn : Makeup → List Leaf
  | .fields format => leavesFrom 0 format
  | _ => []

end

theorem leavesAt_of_category {definition : FieldDef} {category : Category}
    (h : Category.ofField? definition = some category) :
    leavesAt definition = [⟨[], [], category⟩] := by
  obtain ⟨type, makeup, required⟩ := definition
  rw [leavesAt, h]

theorem leavesAt_of_fields {definition : FieldDef} {inner : Format}
    (h : definition.fields? = some inner) : leavesAt definition = leavesFrom 0 inner := by
  rw [FieldDef.fields?.eq_def] at h
  split at h
  · cases h
    rfl
  · cases h

/-- A field without a category that is no object with declared fields has no leaves. -/
theorem leavesAt_of_none {definition : FieldDef} (hc : Category.ofField? definition = none)
    (hd : definition.fields? = none) : leavesAt definition = [] := by
  obtain ⟨type, makeup, required⟩ := definition
  rw [leavesAt, hc]
  by_cases ht : type = .object
  · subst ht
    cases makeup with
    | fields => cases hd
    | _ => rfl
  · simp [ht]

/-- The leaves of a field are those that it gives with its place and name in front. -/
theorem mem_leavesFrom_iff {format : Format} {start : Nat} {leaf : Leaf} :
    leaf ∈ leavesFrom start format ↔ ∃ index name definition found,
      format[index]? = some (name, definition) ∧ found ∈ leavesAt definition ∧
        leaf = found.under (start + index) name := by
  induction format generalizing start with
  | nil => simp [leavesFrom]
  | cons field rest ih =>
    obtain ⟨name, definition⟩ := field
    rw [leavesFrom, List.mem_append, List.mem_map, ih]
    constructor
    · rintro (⟨found, hf, rfl⟩ | ⟨index, other, inner, found, hi, hf, rfl⟩)
      · exact ⟨0, name, definition, found, rfl, hf, rfl⟩
      · exact ⟨index + 1, other, inner, found, hi, hf, by rw [Nat.add_assoc, Nat.add_comm 1]⟩
    · rintro ⟨index, other, inner, found, hi, hf, rfl⟩
      cases index with
      | zero =>
        cases hi
        exact .inl ⟨found, hf, rfl⟩
      | succ index =>
        exact .inr ⟨index, other, inner, found, hi, hf, by rw [Nat.add_assoc, Nat.add_comm 1]⟩

theorem HasLeaf.mem_leavesFrom {format : Format} {leaf : Leaf} (h : HasLeaf format leaf) :
    leaf ∈ leavesFrom 0 format := by
  induction h with
  | @field _ index _ _ category hf hc =>
    refine mem_leavesFrom_iff.2 ⟨index, _, _, ⟨[], [], category⟩, hf, ?_, ?_⟩
    · rw [leavesAt_of_category hc]
      exact List.mem_singleton_self _
    · rw [Nat.zero_add]
      rfl
  | @inside _ _ index _ _ _ hf hd _ ih =>
    refine mem_leavesFrom_iff.2 ⟨index, _, _, _, hf, ?_, by rw [Nat.zero_add]⟩
    rw [leavesAt_of_fields hd]
    exact ih

/-- The leaves at or inside of a field are leaves of the format that has the field. -/
theorem hasLeaf_under {format : Format} {index : Nat} {name : String} {definition : FieldDef}
    (hf : format[index]? = some (name, definition))
    (hinner : ∀ inner, definition.fields? = some inner →
      ∀ leaf ∈ leavesFrom 0 inner, HasLeaf inner leaf)
    {found : Leaf} (h : found ∈ leavesAt definition) : HasLeaf format (found.under index name) := by
  cases hc : Category.ofField? definition with
  | some category =>
    rw [leavesAt_of_category hc, List.mem_singleton] at h
    subst h
    exact .field hf hc
  | none =>
    cases hd : definition.fields? with
    | some inner =>
      rw [leavesAt_of_fields hd] at h
      exact .inside hf hd (hinner inner hd found h)
    | none =>
      rw [leavesAt_of_none hc hd] at h
      cases h

theorem mem_leavesFrom_zero_iff {format : Format} {leaf : Leaf} :
    leaf ∈ leavesFrom 0 format ↔ HasLeaf format leaf := by
  refine ⟨fun h => ?_, HasLeaf.mem_leavesFrom⟩
  -- The fields that are left over are those of a format that has others in front of them.
  have hall : ∀ rest front : Format, ∀ leaf ∈ leavesFrom front.length rest,
      HasLeaf (front ++ rest) leaf := by
    intro rest
    induction rest using fields_induction with
    | nil => simp [leavesFrom]
    | cons name definition rest ihinner ihrest =>
      intro front leaf h
      rw [leavesFrom, List.mem_append, List.mem_map] at h
      rcases h with ⟨found, hfound, rfl⟩ | h
      · exact hasLeaf_under (by simp) (fun inner hd => ihinner inner hd []) hfound
      · have hlength : (front ++ [(name, definition)]).length = front.length + 1 := by simp
        rw [← hlength] at h
        simpa using ihrest _ leaf h
  exact hall format [] leaf h

theorem HasLeaf.names_ne_nil {format : Format} {leaf : Leaf} (h : HasLeaf format leaf) :
    leaf.names ≠ [] := by
  cases h <;> simp [Leaf.under]

/-- The leaves stand in the order of their places. -/
theorem pairwise_leavesFrom (format : Format) (start : Nat) :
    (leavesFrom start format).Pairwise fun first second => first.position < second.position := by
  induction format using fields_induction generalizing start with
  | nil => rw [leavesFrom]; exact .nil
  | cons name definition rest ihinner ihrest =>
    have hfield : (leavesAt definition).Pairwise
        fun first second => first.position < second.position := by
      cases hc : Category.ofField? definition with
      | some category =>
        rw [leavesAt_of_category hc]
        exact List.pairwise_singleton _ _
      | none =>
        cases hd : definition.fields? with
        | some inner =>
          rw [leavesAt_of_fields hd]
          exact ihinner inner hd 0
        | none =>
          rw [leavesAt_of_none hc hd]
          exact .nil
    rw [leavesFrom, List.pairwise_append, List.pairwise_map]
    refine ⟨hfield.imp fun hlt => ?_, ihrest (start + 1), fun first hfirst second hsecond => ?_⟩
    · exact List.cons_lt_cons_iff.2 (.inr ⟨rfl, hlt⟩)
    · obtain ⟨found, -, rfl⟩ := List.mem_map.1 hfirst
      obtain ⟨index, _, _, other, -, -, rfl⟩ := mem_leavesFrom_iff.1 hsecond
      exact List.cons_lt_cons_iff.2 (.inl (by omega))

end Format

/-! ## Leaves and the type map -/

namespace TypeMap

open Format (HasLeaf leavesFrom leavesAt Unambiguous Dotless Reaches follow?)

theorem leavesOfField_eq (path : String) (definition : FieldDef) :
    leavesOfField path definition =
      match Category.ofField? definition, definition.fields? with
      | some category, _ => [(path, category)]
      | none, some inner => leaves (some path) inner
      | none, none => [] := by
  obtain ⟨type, makeup, required⟩ := definition
  rw [leavesOfField]
  cases hc : Category.ofField? (.mk type makeup required) with
  | some category => rfl
  | none =>
    by_cases ht : type = .object
    · subst ht
      cases makeup <;> rfl
    · have hd : (FieldDef.mk type makeup required).fields? = none := by
        cases type with
        | object => exact absurd rfl ht
        | _ => rfl
      rw [hd]
      exact if_neg ht

/-- The paths of a format are those of its leaves, in order. -/
theorem leaves_eq_map (parent : Option String) (format : Format) (start : Nat) :
    leaves parent format =
      (leavesFrom start format).map fun leaf => (joinPath parent leaf.path, leaf.category) := by
  induction format using Format.fields_induction generalizing parent start with
  | nil => rw [leaves, leavesFrom, List.map_nil]
  | cons name definition rest ihinner ihrest =>
    have hfield : leavesOfField (joinPath parent name) definition =
        ((leavesAt definition).map (Leaf.under start name)).map
          fun leaf => (joinPath parent leaf.path, leaf.category) := by
      rw [leavesOfField_eq, List.map_map]
      cases hc : Category.ofField? definition with
      | some category =>
        rw [Format.leavesAt_of_category hc]
        simp [Leaf.under, Leaf.path]
      | none =>
        cases hd : definition.fields? with
        | none =>
          rw [Format.leavesAt_of_none hc hd]
          rfl
        | some inner =>
          rw [Format.leavesAt_of_fields hd]
          refine (ihinner inner hd _ 0).trans (List.map_congr_left fun leaf hm => ?_)
          have hne := (Format.mem_leavesFrom_zero_iff.1 hm).names_ne_nil
          have hpath : (leaf.under start name).path = name ++ "." ++ leaf.path :=
            String.intercalate_cons_of_ne_nil hne
          show (joinPath (some (joinPath parent name)) leaf.path, leaf.category) =
            (joinPath parent (leaf.under start name).path, leaf.category)
          rw [hpath, joinPath_joinPath]
          rfl
    rw [leaves, leavesFrom, List.map_append, hfield, ihrest parent (start + 1)]

theorem paths_ofFormat (format : Format) :
    (ofFormat format).paths =
      Entries.ofList ((leavesFrom 0 format).map fun leaf => (leaf.path, leaf.category)) :=
  congrArg Entries.ofList (leaves_eq_map none format 0)

theorem keys_ofFormat (format : Format) :
    Entries.keys (ofFormat format).paths = ((leavesFrom 0 format).map Leaf.path).eraseDups := by
  rw [paths_ofFormat, Entries.keys_ofList, Entries.keys, List.map_map]
  rfl

theorem get?_ofFormat (format : Format) (path : String) :
    (ofFormat format).get? path =
      (((leavesFrom 0 format).filter (·.path = path)).getLast?).map Leaf.category := by
  rw [get?, paths_ofFormat, Entries.get?_ofList, List.filter_map, List.getLast?_map, Option.map_map]
  rfl

end TypeMap

/-! ## Names without dots -/

namespace Format

variable {format inner : Format} {name : String} {definition : FieldDef} {category : Category}
  {leaf first second : Leaf}

theorem Unambiguous.of_fields (h : Unambiguous format) (hm : (name, definition) ∈ format)
    (hd : definition.fields? = some inner) : Unambiguous inner :=
  fun found hr => h found (.inside hm hd hr)

theorem Unambiguous.nodup (h : Unambiguous format) : (Entries.keys format).Nodup :=
  h format (.self format)

theorem HasLeaf.names_dotless (h : HasLeaf format leaf) (hd : Dotless format) :
    ∀ name ∈ leaf.names, '.' ∉ name.toList := by
  induction h with
  | @field format index name definition category hf hc =>
    rw [List.forall_mem_singleton]
    exact hd format (.self format) name (Entries.mem_keys_of_mem (List.mem_of_getElem? hf))
  | @inside format inner index name definition leaf hf hi hl ih =>
    have hm := List.mem_of_getElem? hf
    rw [Leaf.under, List.forall_mem_cons]
    refine ⟨hd format (.self format) name (Entries.mem_keys_of_mem hm), ih ?_⟩
    exact fun found hr => hd found (.inside hm hi hr)

theorem HasLeaf.segments_path (h : HasLeaf format leaf) (hd : Dotless format) :
    Path.segments leaf.path = leaf.names :=
  Path.segments_intercalate h.names_ne_nil (h.names_dotless hd)

/-- The names that lead to a leaf end there: those of another leaf do not go on from it. -/
theorem HasLeaf.eq_of_names_prefix (h : HasLeaf format first) (h' : HasLeaf format second)
    (hn : Unambiguous format) (hp : first.names <+: second.names) : first = second := by
  induction h generalizing second with
  | @field format index name definition category hf hc =>
    cases h' with
    | @field _ other _ found _ hf' hc' =>
      obtain ⟨rfl, -⟩ := List.cons_prefix_cons.1 hp
      obtain rfl := Entries.index_unique hn.nodup hf hf'
      cases hf.symm.trans hf'
      cases hc.symm.trans hc'
      rfl
    | @inside _ inner other _ found leaf hf' hd' hl' =>
      obtain ⟨rfl, -⟩ := List.cons_prefix_cons.1 hp
      obtain rfl := Entries.index_unique hn.nodup hf hf'
      cases hf.symm.trans hf'
      rw [ofField?_of_fields? hd'] at hc
      cases hc
  | @inside format inner index name definition leaf hf hd hl ih =>
    cases h' with
    | @field _ other _ found _ hf' hc' =>
      obtain ⟨rfl, -⟩ := List.cons_prefix_cons.1 hp
      obtain rfl := Entries.index_unique hn.nodup hf hf'
      cases hf.symm.trans hf'
      rw [ofField?_of_fields? hd] at hc'
      cases hc'
    | @inside _ inner' other _ found leaf' hf' hd' hl' =>
      obtain ⟨rfl, hrest⟩ := List.cons_prefix_cons.1 hp
      obtain rfl := Entries.index_unique hn.nodup hf hf'
      cases hf.symm.trans hf'
      cases hd.symm.trans hd'
      rw [ih hl' (hn.of_fields (List.mem_of_getElem? hf) hd) hrest]

/-- Leaves have paths of their own. -/
theorem HasLeaf.eq_of_path_eq (h : HasLeaf format first) (h' : HasLeaf format second)
    (hn : Unambiguous format) (hd : Dotless format) (hp : first.path = second.path) :
    first = second := by
  have hnames : first.names = second.names := by
    rw [← h.segments_path hd, hp, h'.segments_path hd]
  exact h.eq_of_names_prefix h' hn (hnames ▸ List.prefix_rfl)

theorem follow?_cons {rest : List String} (hne : rest ≠ []) :
    follow? format (name :: rest) = (Entries.get? format name).bind fun definition =>
      definition.fields?.bind fun inner => follow? inner rest := by
  cases rest with
  | nil => exact absurd rfl hne
  | cons next rest => rfl

theorem HasLeaf.follow? (h : HasLeaf format leaf) (hn : Unambiguous format) :
    (Format.follow? format leaf.names).bind Category.ofField? = some leaf.category := by
  induction h with
  | field hf hc =>
    rw [Format.follow?, Entries.get?_of_index hn.nodup hf]
    exact hc
  | inside hf hd hl ih =>
    rw [Leaf.under, follow?_cons hl.names_ne_nil, Entries.get?_of_index hn.nodup hf,
      Option.bind_some, hd]
    exact ih (hn.of_fields (List.mem_of_getElem? hf) hd)

theorem exists_hasLeaf_of_follow? {names : List String}
    (h : (follow? format names).bind Category.ofField? = some category) :
    ∃ position, HasLeaf format ⟨position, names, category⟩ := by
  induction names generalizing format with
  | nil => cases h
  | cons name rest ih =>
    obtain ⟨definition, hfollow, hc⟩ := Option.bind_eq_some_iff.1 h
    by_cases hne : rest = []
    · subst hne
      obtain ⟨index, hf⟩ := Entries.exists_index_of_get? hfollow
      exact ⟨[index], .field hf hc⟩
    · rw [follow?_cons hne] at hfollow
      obtain ⟨object, hget, hfollow⟩ := Option.bind_eq_some_iff.1 hfollow
      obtain ⟨inner, hd, hfollow⟩ := Option.bind_eq_some_iff.1 hfollow
      obtain ⟨index, hf⟩ := Entries.exists_index_of_get? hget
      obtain ⟨position, hleaf⟩ := ih (Option.bind_eq_some_iff.2 ⟨definition, hfollow, hc⟩)
      exact ⟨index :: position, .inside hf hd hleaf⟩

end Format

namespace TypeMap

open Format (HasLeaf leavesFrom Unambiguous Dotless follow?)

variable {format : Format} {path : String} {category : Category}

theorem exists_leaf_of_get? (h : (ofFormat format).get? path = some category) :
    ∃ leaf, HasLeaf format leaf ∧ leaf.path = path ∧ leaf.category = category := by
  rw [get?_ofFormat] at h
  obtain ⟨leaf, hlast, hc⟩ := Option.map_eq_some_iff.1 h
  obtain ⟨hm, hp⟩ := List.mem_filter.1 (List.mem_of_getLast? hlast)
  exact ⟨leaf, Format.mem_leavesFrom_zero_iff.1 hm, of_decide_eq_true hp, hc⟩

/-- A leaf that shares its path with no other has its category. -/
theorem get?_path {leaf : Leaf} (h : HasLeaf format leaf) (hn : Unambiguous format)
    (hd : Dotless format) : (ofFormat format).get? leaf.path = some leaf.category := by
  have hm : leaf ∈ (leavesFrom 0 format).filter (·.path = leaf.path) :=
    List.mem_filter.2 ⟨h.mem_leavesFrom, by simp⟩
  obtain ⟨last, hlast⟩ := Option.isSome_iff_exists.1
    (List.getLast?_isSome.2 (List.ne_nil_of_mem hm))
  obtain ⟨hfound, hp⟩ := List.mem_filter.1 (List.mem_of_getLast? hlast)
  have heq : last = leaf :=
    (Format.mem_leavesFrom_zero_iff.1 hfound).eq_of_path_eq h hn hd (of_decide_eq_true hp)
  rw [get?_ofFormat, hlast, heq]
  rfl

theorem get?_eq_some_iff_follow? (hn : Unambiguous format) (hd : Dotless format) :
    (ofFormat format).get? path = some category ↔
      (follow? format (Path.segments path)).bind Category.ofField? = some category := by
  constructor
  · intro h
    obtain ⟨leaf, hl, rfl, rfl⟩ := exists_leaf_of_get? h
    rw [hl.segments_path hd]
    exact hl.follow? hn
  · intro h
    obtain ⟨position, hl⟩ := Format.exists_hasLeaf_of_follow? h
    have hpath : Leaf.path ⟨position, Path.segments path, category⟩ = path :=
      Path.intercalate_segments path
    rw [← hpath]
    exact get?_path hl hn hd

theorem hasDescendants_eq_false (hn : Unambiguous format) (hd : Dotless format)
    (h : (ofFormat format).get? path = some category) :
    (ofFormat format).hasDescendants path = false := by
  rw [Bool.eq_false_iff]
  intro ht
  obtain ⟨below, other, hbelow, rest, hrest⟩ := hasDescendants_eq_true_iff.1 ht
  obtain ⟨first, hfirst, rfl, -⟩ := exists_leaf_of_get? h
  obtain ⟨second, hsecond, rfl, -⟩ := exists_leaf_of_get? hbelow
  have hpath : second.path = first.path ++ "." ++ String.ofList rest := by
    apply String.toList_injective
    simpa using hrest.symm
  have hnames : second.names = first.names ++ Path.segments (String.ofList rest) := by
    rw [← hsecond.segments_path hd, hpath, Path.segments_append_dot, hfirst.segments_path hd]
  have heq := hfirst.eq_of_names_prefix hsecond hn ⟨_, hnames.symm⟩
  rw [← heq] at hnames
  exact Path.segments_ne_nil _ (List.append_cancel_left (hnames.symm.trans (by simp)))

/-- The type map of a format is its flattening. There is a list of all leaves in the order of their
places, each once; the paths of the type map are those of the leaves, a repeated one at its first
place and with its last category. If no name has a dot, then leaves have paths of their own, the
category of a path is that of the leaf to which its segments lead, and nothing that can be queried
lies below a path that can be queried. Names are taken to be distinct within each object, as those
of every format that is read. -/
theorem ofFormat_flattens (format : Format) :
    (∃ leaves : List Leaf, (∀ leaf, leaf ∈ leaves ↔ HasLeaf format leaf) ∧
      leaves.Pairwise (fun first second => first.position < second.position) ∧
      Entries.keys (ofFormat format).paths = (leaves.map Leaf.path).eraseDups ∧
      ∀ path, (ofFormat format).get? path =
        ((leaves.filter (·.path = path)).getLast?).map Leaf.category) ∧
    (Unambiguous format → Dotless format →
      (∀ first second, HasLeaf format first → HasLeaf format second →
        first.path = second.path → first = second) ∧
      (∀ path category, (ofFormat format).get? path = some category ↔
        (follow? format (Path.segments path)).bind Category.ofField? = some category) ∧
      ∀ path category, (ofFormat format).get? path = some category →
        (ofFormat format).hasDescendants path = false) := by
  refine ⟨⟨leavesFrom 0 format, fun leaf => Format.mem_leavesFrom_zero_iff,
    Format.pairwise_leavesFrom format 0, keys_ofFormat format, get?_ofFormat format⟩,
    fun hn hd => ⟨fun first second hfirst hsecond => ?_, fun path category => ?_,
      fun path category h => ?_⟩⟩
  · exact hfirst.eq_of_path_eq hsecond hn hd
  · exact get?_eq_some_iff_follow? hn hd
  · exact hasDescendants_eq_false hn hd h

theorem homeFormat_flattens :
    (Unambiguous Query.homeFormat ∧ Dotless Query.homeFormat) ∧
      (ofFormat Query.homeFormat).get? "home.address.city" = some .string ∧
      (ofFormat Query.homeFormat).hasDescendants "home.address.city" = false := by
  have hreached : ∀ found, Format.Reaches Query.homeFormat found → found = Query.homeFormat ∨
      found = [("address", .object [("city", .optionalString)]), ("tags", .arrayOf .string)] ∨
      found = [("city", .optionalString)] := by
    intro found h
    cases h with
    | self => exact .inl rfl
    | inside hm hd h =>
      obtain ⟨rfl, rfl⟩ := Prod.mk.inj (List.mem_singleton.1 hm)
      cases hd
      cases h with
      | self => exact .inr (.inl rfl)
      | inside hm hd h =>
        rcases List.mem_cons.1 hm with heq | hm
        · obtain ⟨rfl, rfl⟩ := Prod.mk.inj heq
          cases hd
          cases h with
          | self => exact .inr (.inr rfl)
          | inside hm hd h =>
            obtain ⟨rfl, rfl⟩ := Prod.mk.inj (List.mem_singleton.1 hm)
            cases hd
        · obtain ⟨rfl, rfl⟩ := Prod.mk.inj (List.mem_singleton.1 hm)
          cases hd
  have hn : Unambiguous Query.homeFormat := by
    intro found h
    rcases hreached found h with rfl | rfl | rfl <;> decide
  have hd : Dotless Query.homeFormat := by
    intro found h
    rcases hreached found h with rfl | rfl | rfl <;> decide
  obtain ⟨-, hget, hbelow⟩ := (ofFormat_flattens Query.homeFormat).2 hn hd
  have hcity : (ofFormat Query.homeFormat).get? "home.address.city" = some .string :=
    (hget "home.address.city" .string).2 (by decide +kernel)
  exact ⟨⟨hn, hd⟩, hcity, hbelow _ _ hcity⟩

end TypeMap

end SchemaQuery
