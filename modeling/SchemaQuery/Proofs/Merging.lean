import SchemaQuery.Constraint

/-!
# Merging constraints

Merging two constraints joins them key by key (`get?_merge?`), and nothing is overwritten: each of
the two lies within the result (`within_merge?_left`, `within_merge?_right`). Hence every fragment
lies within some object of a fold (`exists_within_foldAll`). The objects of a fold reject each
other (`clashing_foldAll`), so folding them again changes nothing (`foldAll_eq_self`).
-/

namespace SchemaQuery

namespace Entries

variable {α : Type}

theorem mem_of_get?_eq_some {entries : List (String × α)} {key : String} {value : α}
    (h : get? entries key = some value) : (key, value) ∈ entries := by
  induction entries with
  | nil => cases h
  | cons entry rest ih =>
    obtain ⟨k, v⟩ := entry
    rw [get?] at h
    split at h
    · subst_vars
      cases h
      exact List.mem_cons_self
    · exact List.mem_cons_of_mem _ (ih h)

theorem get?_singleton (key : String) (value : α) : get? [(key, value)] key = some value :=
  if_pos rfl

theorem mem_keys_of_mem {entries : List (String × α)} {entry : String × α}
    (h : entry ∈ entries) : entry.1 ∈ keys entries :=
  List.mem_map_of_mem h

theorem mem_keys_iff_get? {entries : List (String × α)} {key : String} :
    key ∈ keys entries ↔ ∃ value, get? entries key = some value := by
  rw [← Option.isSome_iff_exists, Option.isSome_iff_ne_none, ne_eq, get?_eq_none_iff,
    Decidable.not_not]

theorem get?_eq_some_of_mem {entries : List (String × α)} (hn : (keys entries).Nodup)
    {entry : String × α} (h : entry ∈ entries) : get? entries entry.1 = some entry.2 := by
  induction entries with
  | nil => cases h
  | cons first rest ih =>
    obtain ⟨k, v⟩ := first
    rw [keys_cons, List.nodup_cons] at hn
    rcases List.mem_cons.1 h with rfl | h
    · rw [get?, if_pos rfl]
    · have hk : k ≠ entry.1 := fun hk => hn.1 (hk ▸ mem_keys_of_mem h)
      rw [get?, if_neg hk, ih hn.2 h]

theorem insert_eq_append {entries : List (String × α)} {key : String} (value : α)
    (h : key ∉ keys entries) : insert entries key value = entries ++ [(key, value)] := by
  induction entries with
  | nil => rfl
  | cons entry rest ih =>
    obtain ⟨k, v⟩ := entry
    rw [keys_cons, List.mem_cons, not_or] at h
    rw [insert, if_neg (Ne.symm h.1), ih h.2, List.cons_append]

theorem mem_keys_insertAll_iff {entries more : List (String × α)} {key : String} :
    key ∈ keys (insertAll entries more) ↔ key ∈ keys entries ∨ key ∈ keys more := by
  induction more generalizing entries with
  | nil => simp [insertAll]
  | cons entry rest ih =>
    have hinsert : key ∈ keys (insert entries entry.1 entry.2) ↔
        key ∈ keys entries ∨ key = entry.1 := by
      rw [keys_insert]
      split
      · rename_i hm
        exact ⟨.inl, fun h => h.elim id fun h => h ▸ hm⟩
      · rw [List.mem_append, List.mem_singleton]
    have hcons : insertAll entries (entry :: rest) =
        insertAll (insert entries entry.1 entry.2) rest := rfl
    rw [hcons, ih, hinsert, keys_cons, List.mem_cons, or_assoc]

theorem insertAll_eq_append {entries more : List (String × α)} (hn : (keys more).Nodup)
    (h : ∀ key ∈ keys more, key ∉ keys entries) : insertAll entries more = entries ++ more := by
  induction more generalizing entries with
  | nil => rw [List.append_nil]; rfl
  | cons entry rest ih =>
    obtain ⟨k, v⟩ := entry
    rw [keys_cons, List.nodup_cons] at hn
    have hk : k ∉ keys entries := h k List.mem_cons_self
    have hrest : ∀ key ∈ keys rest, key ∉ keys (insert entries k v) := by
      intro key hkey hmem
      rw [keys_insert, if_neg hk, List.mem_append, List.mem_singleton] at hmem
      rcases hmem with hmem | rfl
      · exact h key (List.mem_cons_of_mem _ hkey) hmem
      · exact hn.1 hkey
    calc insertAll entries ((k, v) :: rest) = insertAll (insert entries k v) rest := rfl
      _ = insert entries k v ++ rest := ih hn.2 hrest
      _ = entries ++ (k, v) :: rest := by rw [insert_eq_append v hk, List.append_assoc]; rfl

theorem get?_append_singleton (entries : List (String × α)) (key other : String) (value : α)
    (h : key ∉ keys entries) :
    get? (entries ++ [(key, value)]) other =
      if key = other then some value else get? entries other := by
  rw [← insert_eq_append value h, get?_insert]

end Entries

namespace Constraint

/-! ## Values under one key -/

/-- Under a key, a value has all that another one asks: the same value, a list with further
elements around it, or the body of an envelope with further conditions. -/
inductive Inside (key : String) : Json → Json → Prop
  | same (value : Json) : Inside key value value
  | list {items others : List Json} (hk : key ∈ listKeys) (h : items <:+: others) :
    Inside key (.arr items) (.arr others)
  | body {body other : Constraint} (hk : key = elemMatchKey) (h : ∀ entry ∈ body, entry ∈ other) :
    Inside key (.obj body) (.obj other)

theorem Inside.trans {key : String} {a b c : Json} (hab : Inside key a b) (hbc : Inside key b c) :
    Inside key a c := by
  cases hab with
  | same => exact hbc
  | list hk h =>
    cases hbc with
    | same => exact .list hk h
    | list _ h' => exact .list hk (h.trans h')
  | body hk h =>
    cases hbc with
    | same => exact .body hk h
    | body _ h' => exact .body hk fun entry he => h' entry (h entry he)

theorem elemMatchKey_notMem_listKeys : elemMatchKey ∉ listKeys := by decide

/-- Two values under a key are joined only if both are bodies of envelopes without a common key or
both are lists that may be concatenated. -/
theorem collides_some_eq_false_iff {key : String} {existing incoming : Json} :
    collides key (some existing) incoming = false ↔
      (key = elemMatchKey ∧ ∃ body other, existing = .obj body ∧ incoming = .obj other ∧
        ∀ inner ∈ Entries.keys other, inner ∉ Entries.keys body) ∨
      (key ∈ listKeys ∧ ∃ items others, existing = .arr items ∧ incoming = .arr others) := by
  cases existing <;> cases incoming <;> simp only [collides, reduceCtorEq, false_and, and_false,
    exists_const, or_self, or_false, false_or, Json.obj.injEq, Json.arr.injEq,
    Bool.true_eq_false, Bool.not_eq_eq_eq_not, Bool.not_false, List.contains_iff_mem]
  · constructor
    · exact fun h => ⟨h, _, _, rfl, rfl⟩
    · exact fun h => h.1
  · rename_i body other
    rw [Bool.or_eq_false_iff, Bool.not_eq_false', beq_iff_eq, List.any_eq_false]
    constructor
    · rintro ⟨hk, h⟩
      refine ⟨hk, body, other, rfl, rfl, fun inner hi hb => ?_⟩
      obtain ⟨entry, he, rfl⟩ := List.mem_map.1 hi
      exact h entry he (Entries.contains_iff_mem_keys.2 hb)
    · rintro ⟨hk, _, _, rfl, rfl, h⟩
      refine ⟨hk, fun entry he hc => ?_⟩
      exact h entry.1 (Entries.mem_keys_of_mem he) (Entries.contains_iff_mem_keys.1 hc)

theorem not_collides_none (key : String) (incoming : Json) :
    collides key none incoming = false := rfl

/-- What collides with a value collides also with what the value grows to. -/
theorem collides_combine_left {key : String} {existing grown incoming : Json}
    (hg : collides key (some existing) grown = false)
    (h : collides key (some existing) incoming = true) :
    collides key (some (combine existing grown)) incoming = true := by
  rw [← Bool.not_eq_false, collides_some_eq_false_iff] at h ⊢
  intro hc
  apply h
  rcases collides_some_eq_false_iff.1 hg with
    ⟨hk, body, other, rfl, rfl, -⟩ | ⟨hk, items, others, rfl, rfl⟩
  · rcases hc with ⟨-, _, more, he, rfl, hd⟩ | ⟨_, _, _, he, -⟩
    · cases he
      refine .inl ⟨hk, body, more, rfl, rfl, fun inner hi hb => hd inner hi ?_⟩
      exact Entries.mem_keys_insertAll_iff.2 (.inl hb)
    · cases he
  · rcases hc with ⟨-, _, _, he, -⟩ | ⟨_, _, more, -, rfl⟩
    · cases he
    · exact .inr ⟨hk, items, more, rfl, rfl⟩

/-- A value that collides collides also when it has grown. -/
theorem collides_combine_right {key : String} {existing : Option Json} {incoming grown : Json}
    (hg : collides key (some incoming) grown = false)
    (h : collides key existing incoming = true) :
    collides key existing (combine incoming grown) = true := by
  cases existing with
  | none => cases h
  | some existing =>
    rw [← Bool.not_eq_false, collides_some_eq_false_iff] at h ⊢
    intro hc
    apply h
    rcases collides_some_eq_false_iff.1 hg with
      ⟨hk, body, other, rfl, rfl, -⟩ | ⟨hk, items, others, rfl, rfl⟩
    · rcases hc with ⟨-, first, _, rfl, he, hd⟩ | ⟨_, _, _, -, he⟩
      · cases he
        refine .inl ⟨hk, first, body, rfl, rfl, fun inner hi => hd inner ?_⟩
        exact Entries.mem_keys_insertAll_iff.2 (.inl hi)
      · cases he
    · rcases hc with ⟨-, _, _, -, he, -⟩ | ⟨_, first, _, rfl, -⟩
      · cases he
      · exact .inr ⟨hk, first, items, rfl, rfl⟩

/-- The bodies of envelopes have no key twice. -/
def DistinctBody (key : String) (value : Json) : Prop :=
  key = elemMatchKey → ∀ body, value = .obj body → (Entries.keys body).Nodup

theorem inside_combine_left {key : String} {existing incoming : Json}
    (hd : DistinctBody key incoming) (h : collides key (some existing) incoming = false) :
    Inside key existing (combine existing incoming) := by
  rcases collides_some_eq_false_iff.1 h with
    ⟨hk, body, other, rfl, rfl, hdisj⟩ | ⟨hk, items, others, rfl, rfl⟩
  · rw [combine, Entries.insertAll_eq_append (hd hk _ rfl) hdisj]
    exact .body hk fun entry he => List.mem_append_left _ he
  · exact .list hk (List.prefix_append items others).isInfix

theorem inside_combine_right {key : String} {existing incoming : Json}
    (hd : DistinctBody key incoming) (h : collides key (some existing) incoming = false) :
    Inside key incoming (combine existing incoming) := by
  rcases collides_some_eq_false_iff.1 h with
    ⟨hk, body, other, rfl, rfl, hdisj⟩ | ⟨hk, items, others, rfl, rfl⟩
  · rw [combine, Entries.insertAll_eq_append (hd hk _ rfl) hdisj]
    exact .body hk fun entry he => List.mem_append_right _ he
  · exact .list hk (List.suffix_append items others).isInfix

/-! ## Merging two constraints -/

/-- No key occurs twice, neither in the constraint nor in the body of its envelope. -/
structure Regular (constraint : Constraint) : Prop where
  nodup : (Entries.keys constraint).Nodup
  body : ∀ key value, Entries.get? constraint key = some value → DistinctBody key value

/-- The keys in the body of the envelope. -/
def bodyKeys (constraint : Constraint) : List String :=
  match Entries.get? constraint elemMatchKey with
  | some (.obj body) => Entries.keys body
  | _ => []

theorem regular_iff {constraint : Constraint} :
    constraint.Regular ↔ (Entries.keys constraint).Nodup ∧ constraint.bodyKeys.Nodup := by
  constructor
  · intro h
    refine ⟨h.nodup, ?_⟩
    unfold bodyKeys
    split
    · rename_i body hg
      exact h.body _ _ hg rfl body rfl
    · exact List.nodup_nil
  · rintro ⟨hn, hb⟩
    refine ⟨hn, fun key value hg hk body hv => ?_⟩
    subst hk hv
    rwa [bodyKeys, hg] at hb

instance (constraint : Constraint) : Decidable constraint.Regular :=
  decidable_of_iff _ regular_iff.symm

theorem get?_add (target : Constraint) (key other : String) (incoming : Json) :
    Entries.get? (target.add key incoming) other =
      if key = other then Option.merge combine (Entries.get? target key) (some incoming)
      else Entries.get? target other := by
  rw [add]
  cases h : Entries.get? target key with
  | none =>
    rw [Entries.get?_append_singleton _ _ _ _ (Entries.get?_eq_none_iff.1 h)]
    rfl
  | some existing => rw [Entries.get?_insert]; rfl

theorem get?_foldl_add {fragment : Constraint} (hn : (Entries.keys fragment).Nodup)
    (target : Constraint) (key : String) :
    Entries.get? (fragment.foldl (fun (c : Constraint) entry => c.add entry.1 entry.2) target) key =
      Option.merge combine (Entries.get? target key) (Entries.get? fragment key) := by
  induction fragment generalizing target with
  | nil => cases h : Entries.get? target key <;> simp [Entries.get?, h]
  | cons entry rest ih =>
    obtain ⟨k, v⟩ := entry
    rw [Entries.keys_cons, List.nodup_cons] at hn
    rw [List.foldl_cons, ih hn.2, get?_add, Entries.get?]
    by_cases hk : k = key
    · subst hk
      rw [if_pos rfl, if_pos rfl, Entries.get?_eq_none_iff.2 hn.1]
      cases Entries.get? target k <;> rfl
    · rw [if_neg hk, if_neg hk]

theorem merge?_eq_none_iff {target fragment : Constraint} :
    target.merge? fragment = none ↔
      ∃ entry ∈ fragment, collides entry.1 (Entries.get? target entry.1) entry.2 = true := by
  rw [merge?]
  split
  · rename_i h
    exact iff_of_true rfl (List.any_eq_true.1 h)
  · rename_i h
    refine iff_of_false (by simp) ?_
    rintro ⟨entry, he, hc⟩
    exact h (List.any_eq_true.2 ⟨entry, he, hc⟩)

variable {target fragment merged : Constraint}

/-- A merge joins two constraints key by key. -/
theorem get?_merge? (hf : fragment.Regular) (h : target.merge? fragment = some merged)
    (key : String) :
    Entries.get? merged key =
      Option.merge combine (Entries.get? target key) (Entries.get? fragment key) := by
  rw [merge?] at h
  split at h
  · cases h
  · cases h
    exact get?_foldl_add hf.nodup target key

/-- What a merge finds under a key in both constraints can be joined. -/
theorem not_collides_of_merge? (h : target.merge? fragment = some merged) {key : String}
    {incoming : Json} (hi : Entries.get? fragment key = some incoming) :
    collides key (Entries.get? target key) incoming = false := by
  rw [← Bool.not_eq_true]
  intro hc
  have := merge?_eq_none_iff.2 ⟨_, Entries.mem_of_get?_eq_some hi, hc⟩
  rw [h] at this
  cases this

/-- A value of a merged constraint comes from one of the two, or joins a value of each. -/
theorem get?_merge?_cases (hf : fragment.Regular) (h : target.merge? fragment = some merged)
    {key : String} {value : Json} (hv : Entries.get? merged key = some value) :
    Entries.get? target key = some value ∨ Entries.get? fragment key = some value ∨
      ∃ existing incoming, Entries.get? target key = some existing ∧
        Entries.get? fragment key = some incoming ∧
        collides key (some existing) incoming = false ∧ value = combine existing incoming := by
  rw [get?_merge? hf h] at hv
  rcases ht : Entries.get? target key with _ | existing <;>
    rcases hi : Entries.get? fragment key with _ | incoming <;> rw [ht, hi] at hv
  · cases hv
  · exact .inr (.inl hv)
  · exact .inl hv
  · have hc := not_collides_of_merge? h hi
    rw [ht] at hc
    exact .inr (.inr ⟨existing, incoming, rfl, rfl, hc, (Option.some.inj hv).symm⟩)

theorem nodup_keys_add {target : Constraint} (key : String) (incoming : Json)
    (h : (Entries.keys target).Nodup) : (Entries.keys (target.add key incoming)).Nodup := by
  rw [add]
  cases hg : Entries.get? target key with
  | none =>
    have hk := Entries.get?_eq_none_iff.1 hg
    rw [← Entries.insert_eq_append incoming hk]
    exact Entries.nodup_keys_insert _ _ h
  | some existing => exact Entries.nodup_keys_insert _ _ h

theorem nodup_keys_foldl_add (fragment : Constraint) {target : Constraint}
    (h : (Entries.keys target).Nodup) :
    (Entries.keys
      (fragment.foldl (fun (c : Constraint) entry => c.add entry.1 entry.2) target)).Nodup := by
  induction fragment generalizing target with
  | nil => exact h
  | cons entry rest ih => exact ih (nodup_keys_add _ _ h)

theorem Regular.merge? (ht : target.Regular) (hf : fragment.Regular)
    (h : target.merge? fragment = some merged) : merged.Regular where
  nodup := by
    rw [Constraint.merge?] at h
    split at h
    · cases h
    · cases h
      exact nodup_keys_foldl_add fragment ht.nodup
  body key value hv := by
    rcases get?_merge?_cases hf h hv with hv | hv | ⟨existing, incoming, he, hi, hc, rfl⟩
    · exact ht.body key value hv
    · exact hf.body key value hv
    · intro hk body hb
      rcases collides_some_eq_false_iff.1 hc with
        ⟨-, first, other, rfl, rfl, -⟩ | ⟨hl, -⟩
      · cases hb
        exact Entries.nodup_keys_insertAll other (ht.body key _ he hk first rfl)
      · exact absurd (hk ▸ hl) elemMatchKey_notMem_listKeys

/-! ## What lies within a constraint -/

/-- Each value of the first constraint lies inside the value that the second has under its key. -/
def Within (part whole : Constraint) : Prop :=
  ∀ key value, Entries.get? part key = some value →
    ∃ other, Entries.get? whole key = some other ∧ Inside key value other

theorem Within.refl (constraint : Constraint) : Within constraint constraint :=
  fun _ value h => ⟨value, h, .same value⟩

theorem Within.trans {a b c : Constraint} (hab : Within a b) (hbc : Within b c) : Within a c := by
  intro key value h
  obtain ⟨other, ho, hi⟩ := hab key value h
  obtain ⟨last, hl, hj⟩ := hbc key other ho
  exact ⟨last, hl, hi.trans hj⟩

theorem within_merge?_left (hf : fragment.Regular) (h : target.merge? fragment = some merged) :
    Within target merged := by
  intro key value hv
  rw [get?_merge? hf h, hv]
  cases hi : Entries.get? fragment key with
  | none => exact ⟨value, rfl, .same value⟩
  | some incoming =>
    have hc := not_collides_of_merge? h hi
    rw [hv] at hc
    exact ⟨_, rfl, inside_combine_left (hf.body key incoming hi) hc⟩

theorem within_merge?_right (hf : fragment.Regular) (h : target.merge? fragment = some merged) :
    Within fragment merged := by
  intro key value hv
  rw [get?_merge? hf h, hv]
  cases ht : Entries.get? target key with
  | none => exact ⟨value, rfl, .same value⟩
  | some existing =>
    have hc := not_collides_of_merge? h hv
    rw [ht] at hc
    exact ⟨_, rfl, inside_combine_right (hf.body key value hv) hc⟩

/-! ## Folding -/

theorem fold_cons_of_merge? (rest : List Constraint) (h : target.merge? fragment = some merged) :
    fold (target :: rest) fragment = merged :: rest := by
  rw [fold, h]

theorem fold_cons_of_rejected (rest : List Constraint) (h : target.merge? fragment = none) :
    fold (target :: rest) fragment = target :: fold rest fragment := by
  rw [fold, h]

theorem foldAll_cons (conjuncts : List Constraint) (fragment : Constraint)
    (rest : List Constraint) :
    foldAll conjuncts (fragment :: rest) = foldAll (fold conjuncts fragment) rest := rfl

theorem foldAll_append (conjuncts xs ys : List Constraint) :
    foldAll conjuncts (xs ++ ys) = foldAll (foldAll conjuncts xs) ys :=
  List.foldl_append

/-- A property that a merge has as soon as the two constraints have it. -/
def MergeClosed (P : Constraint → Prop) : Prop :=
  ∀ ⦃target fragment merged : Constraint⦄, P target → P fragment →
    target.merge? fragment = some merged → P merged

theorem mergeClosed_regular : MergeClosed Regular := fun _ _ _ ht hf h => ht.merge? hf h

theorem MergeClosed.fold {P : Constraint → Prop} (hP : MergeClosed P) {conjuncts : List Constraint}
    (hc : ∀ constraint ∈ conjuncts, P constraint) (hf : P fragment) :
    ∀ constraint ∈ Constraint.fold conjuncts fragment, P constraint := by
  induction conjuncts with
  | nil => simpa [Constraint.fold] using hf
  | cons target rest ih =>
    rw [List.forall_mem_cons] at hc
    cases h : target.merge? fragment with
    | none =>
      rw [fold_cons_of_rejected _ h, List.forall_mem_cons]
      exact ⟨hc.1, ih hc.2⟩
    | some merged =>
      rw [fold_cons_of_merge? _ h, List.forall_mem_cons]
      exact ⟨hP hc.1 hf h, hc.2⟩

theorem MergeClosed.foldAll {P : Constraint → Prop} (hP : MergeClosed P)
    {conjuncts fragments : List Constraint} (hc : ∀ constraint ∈ conjuncts, P constraint)
    (hf : ∀ constraint ∈ fragments, P constraint) :
    ∀ constraint ∈ Constraint.foldAll conjuncts fragments, P constraint := by
  induction fragments generalizing conjuncts with
  | nil => exact hc
  | cons fragment rest ih =>
    rw [List.forall_mem_cons] at hf
    exact ih (hP.fold hc hf.1) hf.2

/-- The objects of a fold from nothing. -/
theorem MergeClosed.foldAll_nil {P : Constraint → Prop} (hP : MergeClosed P)
    {fragments : List Constraint} (hf : ∀ constraint ∈ fragments, P constraint) :
    ∀ constraint ∈ Constraint.foldAll [] fragments, P constraint :=
  hP.foldAll (by simp) hf

theorem exists_within_fold_self (hf : fragment.Regular) (conjuncts : List Constraint) :
    ∃ constraint ∈ fold conjuncts fragment, Within fragment constraint := by
  induction conjuncts with
  | nil => exact ⟨fragment, List.mem_singleton_self _, Within.refl _⟩
  | cons target rest ih =>
    cases h : target.merge? fragment with
    | none =>
      obtain ⟨constraint, hc, hw⟩ := ih
      rw [fold_cons_of_rejected _ h]
      exact ⟨constraint, List.mem_cons_of_mem _ hc, hw⟩
    | some merged =>
      rw [fold_cons_of_merge? _ h]
      exact ⟨merged, List.mem_cons_self, within_merge?_right hf h⟩

/-- What lies in the object at a place stays in the object there. -/
theorem exists_within_fold_at (hf : fragment.Regular) {conjuncts : List Constraint} {place : Nat}
    {constraint : Constraint} (hc : conjuncts[place]? = some constraint) :
    ∃ other, (fold conjuncts fragment)[place]? = some other ∧ Within constraint other := by
  induction conjuncts generalizing place with
  | nil => cases hc
  | cons target rest ih =>
    cases h : target.merge? fragment with
    | none =>
      rw [fold_cons_of_rejected _ h]
      cases place with
      | zero => exact ⟨constraint, hc, Within.refl _⟩
      | succ place => exact ih hc
    | some merged =>
      rw [fold_cons_of_merge? _ h]
      cases place with
      | zero =>
        cases hc
        exact ⟨merged, rfl, within_merge?_left hf h⟩
      | succ place => exact ⟨constraint, hc, Within.refl _⟩

theorem exists_within_foldAll_at {conjuncts fragments : List Constraint} {place : Nat}
    (hf : ∀ fragment ∈ fragments, fragment.Regular) {constraint : Constraint}
    (hc : conjuncts[place]? = some constraint) :
    ∃ other, (foldAll conjuncts fragments)[place]? = some other ∧ Within constraint other := by
  induction fragments generalizing conjuncts constraint with
  | nil => exact ⟨constraint, hc, Within.refl _⟩
  | cons fragment rest ih =>
    rw [List.forall_mem_cons] at hf
    obtain ⟨other, ho, hw⟩ := exists_within_fold_at hf.1 hc
    obtain ⟨last, hl, hw'⟩ := ih hf.2 ho
    exact ⟨last, hl, hw.trans hw'⟩

theorem exists_within_foldAll_of_mem {conjuncts fragments : List Constraint}
    (hf : ∀ fragment ∈ fragments, fragment.Regular) {constraint : Constraint}
    (hc : constraint ∈ conjuncts) :
    ∃ other ∈ foldAll conjuncts fragments, Within constraint other := by
  obtain ⟨place, hp⟩ := List.mem_iff_getElem?.1 hc
  obtain ⟨other, ho, hw⟩ := exists_within_foldAll_at hf hp
  exact ⟨other, List.mem_of_getElem? ho, hw⟩

/-- Each fragment lies within some object of the fold. -/
theorem exists_within_foldAll {fragments : List Constraint}
    (hf : ∀ fragment ∈ fragments, fragment.Regular) (conjuncts : List Constraint)
    (hm : fragment ∈ fragments) :
    ∃ constraint ∈ foldAll conjuncts fragments, Within fragment constraint := by
  induction fragments generalizing conjuncts with
  | nil => cases hm
  | cons first rest ih =>
    rw [List.forall_mem_cons] at hf
    rcases List.mem_cons.1 hm with rfl | hm
    · obtain ⟨constraint, hc, hw⟩ := exists_within_fold_self hf.1 conjuncts
      obtain ⟨other, ho, hw'⟩ := exists_within_foldAll_of_mem hf.2 hc
      exact ⟨other, ho, hw.trans hw'⟩
    · exact ih hf.2 _ hm

/-! ## Objects that reject each other -/

/-- A constraint that has grown still rejects what it rejected. -/
theorem merge?_eq_none_of_grown {grown other : Constraint} (hf : fragment.Regular)
    (hg : target.merge? fragment = some grown) (h : target.merge? other = none) :
    grown.merge? other = none := by
  obtain ⟨entry, he, hc⟩ := merge?_eq_none_iff.1 h
  refine merge?_eq_none_iff.2 ⟨entry, he, ?_⟩
  rw [get?_merge? hf hg]
  cases ht : Entries.get? target entry.1 with
  | none => rw [ht] at hc; cases hc
  | some existing =>
    rw [ht] at hc
    cases hi : Entries.get? fragment entry.1 with
    | none => exact hc
    | some incoming =>
      have hn := not_collides_of_merge? hg hi
      rw [ht] at hn
      exact collides_combine_left hn hc

/-- A constraint still rejects what it rejected when that has grown. -/
theorem merge?_eq_none_of_grown_right {first grown : Constraint} (ht : target.Regular)
    (hf : fragment.Regular) (hg : target.merge? fragment = some grown)
    (h : first.merge? target = none) : first.merge? grown = none := by
  obtain ⟨⟨key, value⟩, he, hc⟩ := merge?_eq_none_iff.1 h
  have hv : Entries.get? target key = some value := Entries.get?_eq_some_of_mem ht.nodup he
  have hg' := get?_merge? hf hg key
  rw [hv] at hg'
  cases hi : Entries.get? fragment key with
  | none =>
    rw [hi] at hg'
    exact merge?_eq_none_iff.2 ⟨_, Entries.mem_of_get?_eq_some hg', hc⟩
  | some incoming =>
    rw [hi] at hg'
    have hn := not_collides_of_merge? hg hi
    rw [hv] at hn
    exact merge?_eq_none_iff.2
      ⟨_, Entries.mem_of_get?_eq_some hg', collides_combine_right hn hc⟩

/-- Each object rejects those after it. -/
def Clashing (conjuncts : List Constraint) : Prop :=
  conjuncts.Pairwise fun first second => first.merge? second = none

theorem Clashing.fold {conjuncts : List Constraint} (h : Clashing conjuncts)
    (hr : ∀ constraint ∈ conjuncts, constraint.Regular) (hf : fragment.Regular) :
    Clashing (Constraint.fold conjuncts fragment) := by
  induction conjuncts with
  | nil => exact List.pairwise_singleton _ _
  | cons target rest ih =>
    rw [Clashing, List.pairwise_cons] at h
    rw [List.forall_mem_cons] at hr
    cases hm : target.merge? fragment with
    | some merged =>
      rw [fold_cons_of_merge? _ hm]
      refine List.pairwise_cons.2 ⟨fun other ho => ?_, h.2⟩
      exact merge?_eq_none_of_grown hf hm (h.1 other ho)
    | none =>
      -- Whatever the fragment is merged into is rejected by the target, before and after.
      have hclosed : MergeClosed fun other => target.merge? other = none ∧ other.Regular :=
        fun _ _ _ ht hf h => ⟨merge?_eq_none_of_grown_right ht.2 hf.2 h ht.1, ht.2.merge? hf.2 h⟩
      have hrest := hclosed.fold (fun other ho => ⟨h.1 other ho, hr.2 other ho⟩) ⟨hm, hf⟩
      rw [fold_cons_of_rejected _ hm]
      exact List.pairwise_cons.2 ⟨fun other ho => (hrest other ho).1, ih h.2 hr.2⟩

theorem clashing_foldAll {conjuncts fragments : List Constraint} (h : Clashing conjuncts)
    (hr : ∀ constraint ∈ conjuncts, constraint.Regular)
    (hf : ∀ fragment ∈ fragments, fragment.Regular) : Clashing (foldAll conjuncts fragments) := by
  induction fragments generalizing conjuncts with
  | nil => exact h
  | cons fragment rest ih =>
    rw [List.forall_mem_cons] at hf
    exact ih (h.fold hr hf.1) (mergeClosed_regular.fold hr hf.1) hf.2

theorem fold_eq_append {conjuncts : List Constraint}
    (h : ∀ constraint ∈ conjuncts, constraint.merge? fragment = none) :
    fold conjuncts fragment = conjuncts ++ [fragment] := by
  induction conjuncts with
  | nil => rfl
  | cons target rest ih =>
    rw [List.forall_mem_cons] at h
    rw [fold_cons_of_rejected _ h.1, ih h.2, List.cons_append]

theorem foldAll_eq_append {conjuncts fragments : List Constraint}
    (h : Clashing (conjuncts ++ fragments)) :
    foldAll conjuncts fragments = conjuncts ++ fragments := by
  induction fragments generalizing conjuncts with
  | nil => rw [List.append_nil]; rfl
  | cons fragment rest ih =>
    have hf : fold conjuncts fragment = conjuncts ++ [fragment] :=
      fold_eq_append fun constraint hc =>
        (List.pairwise_append.1 h).2.2 constraint hc fragment List.mem_cons_self
    have happ : conjuncts ++ fragment :: rest = conjuncts ++ [fragment] ++ rest := by
      rw [List.append_assoc, List.singleton_append]
    rw [foldAll_cons, hf, happ]
    exact ih (happ ▸ h)

/-- Objects that reject each other are kept apart. -/
theorem foldAll_eq_self {fragments : List Constraint} (h : Clashing fragments) :
    foldAll [] fragments = fragments :=
  foldAll_eq_append (by simpa using h)

end Constraint

end SchemaQuery
