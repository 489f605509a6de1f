import SchemaQuery.Proofs.Columns
import SchemaQuery.Proofs.Conservation
import SchemaQuery.Proofs.Rearranging

/-!
# Folding without loss in any order

Whether two constraints clash does not depend on which of them comes first (`Clashes.symm`), and
what a merge gives clashes with what one of its two parts clashes with (`clashes_merge?_iff`). So
fragments come together in one conjunct exactly when no two of them clash
(`exists_foldAll_eq_singleton_iff`), in whatever order they come. The conjunct then has the keys of
all fragments and asks for the same atoms, which leaves it no freedom but the order in which it
lists them (`reordered_of_atoms_eq`), and that order turns no answer into the other
(`Matching.agree_of_reordered`). Together: `foldAll_ignores_order`.
-/

namespace SchemaQuery

namespace Constraint

/-! ## Clashes -/

variable {target fragment merged other first second : Constraint} {fragments : List Constraint}

theorem Joinable.symm {key : String} {x y : Json} (h : Joinable key x y) : Joinable key y x := by
  cases h with
  | bodies h => exact .bodies fun inner hi ho => h inner ho hi
  | lists hk => exact .lists hk

/-- What can be joined to each of two values can be joined to both together. -/
theorem Joinable.combine {key : String} {x y z : Json} (hxy : Joinable key x y)
    (hx : Joinable key x z) (hy : Joinable key y z) :
    Joinable key (Constraint.combine x y) z := by
  cases hxy with
  | bodies =>
    cases hx with
    | bodies hx =>
      cases hy with
      | bodies hy =>
        refine .bodies fun inner hi hm => ?_
        rcases Entries.mem_keys_insertAll_iff.1 hm with hm | hm
        · exact hx inner hi hm
        · exact hy inner hi hm
  | lists =>
    cases hx with
    | lists hk => exact .lists hk

/-- The clash test does not depend on which constraint is the target. -/
theorem Clashes.symm (hf : (Entries.keys fragment).Nodup) (h : Clashes target fragment) :
    Clashes fragment target := by
  obtain ⟨key, existing, incoming, hg, hm, hj⟩ := h
  have hget : Entries.get? fragment key = some incoming := Entries.get?_eq_some_of_mem hf hm
  exact ⟨key, incoming, existing, hget, Entries.mem_of_get?_eq_some hg, fun hs => hj hs.symm⟩

/-- A merged constraint clashes with what one of the two clashed with. -/
theorem clashes_merge?_iff (hf : fragment.Regular) (h : target.merge? fragment = some merged) :
    Clashes merged other ↔ Clashes target other ∨ Clashes fragment other := by
  constructor
  · rintro ⟨key, value, incoming, hg, hm, hj⟩
    rcases get?_merge?_cases hf h hg with ht | hi | ⟨x, y, hx, hy, hc, rfl⟩
    · exact .inl ⟨key, value, incoming, ht, hm, hj⟩
    · exact .inr ⟨key, value, incoming, hi, hm, hj⟩
    · have hxy : Joinable key x y := joinable_iff_collides.2 hc
      by_cases hjx : Joinable key x incoming
      · exact .inr ⟨key, y, incoming, hy, hm, fun hjy => hj (hxy.combine hjx hjy)⟩
      · exact .inl ⟨key, x, incoming, hx, hm, hjx⟩
  · simp only [clashes_iff_merge?]
    rintro (ht | hi)
    · exact merge?_eq_none_of_grown hf h ht
    · exact merge?_eq_none_of_taken hf h hi

/-! ## When a fold gives a single conjunct -/

/-- Folding into one conjunct leaves one conjunct when the fragments clash neither with it nor with
each other. -/
theorem exists_foldAll_singleton_iff (hf : ∀ fragment ∈ fragments, fragment.Regular) :
    (∃ whole, foldAll [target] fragments = [whole]) ↔
      (∀ fragment ∈ fragments, ¬Clashes target fragment) ∧
        fragments.Pairwise fun a b => ¬Clashes a b := by
  induction fragments generalizing target with
  | nil => exact iff_of_true ⟨target, rfl⟩ ⟨by simp, .nil⟩
  | cons fragment rest ih =>
    rw [List.forall_mem_cons] at hf
    rw [foldAll_cons, List.forall_mem_cons, List.pairwise_cons]
    cases hm : target.merge? fragment with
    | none =>
      have hclash : Clashes target fragment := clashes_iff_merge?.2 hm
      refine iff_of_false (fun ⟨whole, hw⟩ => ?_) fun h => h.1.1 hclash
      -- The fragment stands behind the target, and something stays at its place.
      rw [fold_cons_of_rejected _ hm, fold] at hw
      have hbehind : [target, fragment][1]? = some fragment := rfl
      obtain ⟨last, hlast, -⟩ := exists_within_foldAll_at hf.2 hbehind
      rw [hw] at hlast
      cases hlast
    | some merged =>
      have hfits : ¬Clashes target fragment := by rw [clashes_iff_merge?, hm]; simp
      have hparts : (∀ other ∈ rest, ¬Clashes merged other) ↔
          (∀ other ∈ rest, ¬Clashes target other) ∧ ∀ other ∈ rest, ¬Clashes fragment other := by
        simp only [clashes_merge?_iff hf.1 hm, not_or, forall_and]
      rw [fold_cons_of_merge? _ hm, ih hf.2, hparts]
      tauto

/-- Fragments come together in one conjunct exactly when no two of them clash. -/
theorem exists_foldAll_eq_singleton_iff (hf : ∀ fragment ∈ fragments, fragment.Regular) :
    (∃ whole, foldAll [] fragments = [whole]) ↔
      fragments ≠ [] ∧ fragments.Pairwise fun a b => ¬Clashes a b := by
  cases fragments with
  | nil => simp [foldAll]
  | cons fragment rest =>
    rw [List.forall_mem_cons] at hf
    rw [foldAll_cons, fold, exists_foldAll_singleton_iff hf.2, List.pairwise_cons]
    simp

/-- Whether fragments come together in one conjunct does not depend on their order. -/
theorem exists_foldAll_eq_singleton_of_perm {others : List Constraint}
    (hf : ∀ fragment ∈ fragments, fragment.Regular) (hp : fragments.Perm others)
    (h : foldAll [] fragments = [first]) : ∃ second, foldAll [] others = [second] := by
  have ho : ∀ fragment ∈ others, fragment.Regular := fun _ hm => hf _ (hp.mem_iff.2 hm)
  obtain ⟨hne, hpair⟩ := (exists_foldAll_eq_singleton_iff hf).1 ⟨first, h⟩
  refine (exists_foldAll_eq_singleton_iff ho).2 ⟨fun hnil => hne ?_, ?_⟩
  · rw [hnil] at hp
    exact hp.eq_nil
  · have hboth : fragments.Pairwise fun a b => ¬Clashes a b ∧ ¬Clashes b a :=
      hpair.imp_of_mem fun ha _ hab => ⟨hab, fun hba => hab (hba.symm (hf _ ha).nodup)⟩
    exact ((hp.pairwise_iff fun h => h.symm).1 hboth).imp And.left

theorem regular_of_foldAll_eq_singleton (hf : ∀ fragment ∈ fragments, fragment.Regular)
    (h : foldAll [] fragments = [first]) : first.Regular := by
  have hall := mergeClosed_regular.foldAll_nil hf
  rwa [h, List.forall_mem_singleton] at hall

/-- The only conjunct has the atoms of all fragments. -/
theorem atoms_of_foldAll_eq_singleton (hf : ∀ fragment ∈ fragments, fragment.Regular)
    (h : foldAll [] fragments = [first]) : atoms first = allAtoms fragments := by
  have hall := allAtoms_foldAll [] hf
  rwa [h, allAtoms_cons, allAtoms_nil, add_zero, zero_add] at hall

/-- The only conjunct has the keys of all fragments. -/
theorem mem_keys_of_foldAll_eq_singleton (hf : ∀ fragment ∈ fragments, fragment.Regular)
    (h : foldAll [] fragments = [first]) {key : String} :
    key ∈ Entries.keys first ↔ ∃ fragment ∈ fragments, key ∈ Entries.keys fragment := by
  have hclosed : MergeClosed fun constraint => constraint.Regular ∧
      ∀ key ∈ Entries.keys constraint, ∃ fragment ∈ fragments, key ∈ Entries.keys fragment := by
    intro target fragment merged ht hfr hm
    refine ⟨ht.1.merge? hfr.1 hm, fun key hk => ?_⟩
    obtain ⟨value, hv⟩ := Entries.mem_keys_iff_get?.1 hk
    rcases get?_merge?_cases hfr.1 hm hv with hv | hv | ⟨x, -, hx, -⟩
    · exact ht.2 key (Entries.mem_keys_iff_get?.2 ⟨_, hv⟩)
    · exact hfr.2 key (Entries.mem_keys_iff_get?.2 ⟨_, hv⟩)
    · exact ht.2 key (Entries.mem_keys_iff_get?.2 ⟨x, hx⟩)
  have hparts : ∀ fragment ∈ fragments, fragment.Regular ∧
      ∀ key ∈ Entries.keys fragment, ∃ other ∈ fragments, key ∈ Entries.keys other :=
    fun fragment hm => ⟨hf fragment hm, fun _ hk => ⟨fragment, hm, hk⟩⟩
  have hall := hclosed.foldAll_nil hparts
  rw [h, List.forall_mem_singleton] at hall
  refine ⟨hall.2 key, ?_⟩
  rintro ⟨fragment, hm, hk⟩
  obtain ⟨value, hv⟩ := Entries.mem_keys_iff_get?.1 hk
  obtain ⟨whole, hw, hwithin⟩ := exists_within_foldAll hf [] hm
  rw [h, List.mem_singleton] at hw
  subst hw
  obtain ⟨other, ho, -⟩ := hwithin key value hv
  exact Entries.mem_keys_iff_get?.2 ⟨other, ho⟩

/-! ## Constraints with the same atoms -/

/-- The key under which a constraint asks for the atom. -/
def Atom.key : Atom → String
  | .value key _ | .item key _ => key
  | .inner _ => elemMatchKey

/-- What a value is taken apart into: itself, the elements of a list that may grow, or the entries
of the body of an envelope. -/
theorem atomsUnder_cases (key : String) (value : Json) :
    atomsUnder key value = {.value key value} ∨
    (key ∈ listKeys ∧ ∃ items : List Json, value = .arr items ∧
      atomsUnder key value = (items.map (Atom.item key) : List Atom)) ∨
    (key = elemMatchKey ∧ ∃ body : Constraint, value = .obj body ∧
      atomsUnder key value = (body.map Atom.inner : List Atom)) := by
  cases value with
  | arr items =>
    by_cases hk : key ∈ listKeys
    · exact .inr (.inl ⟨hk, items, rfl, if_pos hk⟩)
    · exact .inl (if_neg hk)
  | obj body =>
    by_cases hk : key = elemMatchKey
    · exact .inr (.inr ⟨hk, body, rfl, if_pos hk⟩)
    · exact .inl (if_neg hk)
  | _ => exact .inl rfl

theorem key_of_mem_atomsUnder {key : String} {value : Json} {atom : Atom}
    (h : atom ∈ atomsUnder key value) : atom.key = key := by
  rcases atomsUnder_cases key value with hv | ⟨-, items, -, hv⟩ | ⟨rfl, body, -, hv⟩ <;>
    rw [hv] at h
  · rw [Multiset.mem_singleton.1 h]
    rfl
  · obtain ⟨item, -, rfl⟩ := List.mem_map.1 h
    rfl
  · obtain ⟨entry, -, rfl⟩ := List.mem_map.1 h
    rfl

theorem key_mem_keys_of_mem_atoms {constraint : Constraint} {atom : Atom}
    (h : atom ∈ atoms constraint) : atom.key ∈ Entries.keys constraint := by
  induction constraint with
  | nil => exact absurd h (Multiset.notMem_zero atom)
  | cons entry rest ih =>
    rw [atoms_cons, Multiset.mem_add] at h
    rw [Entries.keys_cons, List.mem_cons]
    exact h.imp key_of_mem_atomsUnder ih

/-- The atoms with a key are those of the value under it. -/
theorem filter_atoms {constraint : Constraint} (hn : (Entries.keys constraint).Nodup) {key : String}
    {value : Json} (h : Entries.get? constraint key = some value) :
    (atoms constraint).filter (fun atom => atom.key = key) = atomsUnder key value := by
  induction constraint with
  | nil => cases h
  | cons entry rest ih =>
    obtain ⟨k, v⟩ := entry
    rw [Entries.keys_cons, List.nodup_cons] at hn
    rw [Entries.get?] at h
    rw [atoms_cons, Multiset.filter_add]
    by_cases hk : k = key
    · subst hk
      rw [if_pos rfl] at h
      cases h
      have hfirst : (atomsUnder k value).filter (fun atom => atom.key = k) = atomsUnder k value :=
        Multiset.filter_eq_self.2 fun _ => key_of_mem_atomsUnder
      have hrest : (atoms rest).filter (fun atom => atom.key = k) = 0 :=
        Multiset.filter_eq_nil.2 fun _ hm he => hn.1 (he ▸ key_mem_keys_of_mem_atoms hm)
      rw [hfirst, hrest, add_zero]
    · rw [if_neg hk] at h
      have hfirst : (atomsUnder k v).filter (fun atom => atom.key = key) = 0 :=
        Multiset.filter_eq_nil.2 fun _ hm he => hk ((key_of_mem_atomsUnder hm).symm.trans he)
      rw [hfirst, ih hn.2 h, zero_add]

/-- Under a key, two values differ at most in the order of the elements of a list that may grow, or
of the entries in the body of an envelope. -/
inductive Regrouped (key : String) : Json → Json → Prop
  | same (value : Json) : Regrouped key value value
  | list {items others : List Json} (hk : key ∈ listKeys) (h : items.Perm others) :
    Regrouped key (.arr items) (.arr others)
  | body {body other : Constraint} (hk : key = elemMatchKey) (h : body.Perm other) :
    Regrouped key (.obj body) (.obj other)

/-- Two constraints have the same keys in some order, with values that differ in order only. -/
structure Reordered (first second : Constraint) : Prop where
  keys : (Entries.keys first).Perm (Entries.keys second)
  values : ∀ key x y, Entries.get? first key = some x → Entries.get? second key = some y →
    Regrouped key x y

theorem regrouped_of_atomsUnder_eq {key : String} {x y : Json}
    (h : atomsUnder key x = atomsUnder key y) : Regrouped key x y := by
  have hitem : (Atom.item key).Injective := fun _ _ he => by cases he; rfl
  have hinner : Atom.inner.Injective := fun _ _ he => by cases he; rfl
  rcases atomsUnder_cases key x with hx | ⟨hk, items, rfl, hx⟩ | ⟨hk, body, rfl, hx⟩ <;>
    rcases atomsUnder_cases key y with hy | ⟨hk', others, rfl, hy⟩ | ⟨hk', other, rfl, hy⟩ <;>
    rw [hx, hy] at h
  · cases Multiset.singleton_inj.1 h
    exact .same x
  · have hmem : Atom.value key x ∈ others.map (Atom.item key) := by
      rw [← Multiset.mem_coe, ← h, Multiset.mem_singleton]
    simp at hmem
  · have hmem : Atom.value key x ∈ other.map Atom.inner := by
      rw [← Multiset.mem_coe, ← h, Multiset.mem_singleton]
    simp at hmem
  · have hmem : Atom.value key y ∈ items.map (Atom.item key) := by
      rw [← Multiset.mem_coe, h, Multiset.mem_singleton]
    simp at hmem
  · exact .list hk ((List.map_perm_map_iff hitem).1 (Multiset.coe_eq_coe.1 h))
  · exact absurd (hk' ▸ hk) elemMatchKey_notMem_listKeys
  · have hmem : Atom.value key y ∈ body.map Atom.inner := by
      rw [← Multiset.mem_coe, h, Multiset.mem_singleton]
    simp at hmem
  · exact absurd (hk ▸ hk') elemMatchKey_notMem_listKeys
  · exact .body hk ((List.map_perm_map_iff hinner).1 (Multiset.coe_eq_coe.1 h))

theorem reordered_of_atoms_eq (hf : (Entries.keys first).Nodup) (hs : (Entries.keys second).Nodup)
    (hk : ∀ key, key ∈ Entries.keys first ↔ key ∈ Entries.keys second)
    (ha : atoms first = atoms second) : Reordered first second where
  keys := (List.perm_ext_iff_of_nodup hf hs).2 hk
  values key x y hx hy := by
    apply regrouped_of_atomsUnder_eq
    rw [← filter_atoms hf hx, ← filter_atoms hs hy, ha]

end Constraint

/-! ## Answers of reordered constraints -/

namespace Matching

open Constraint (DistinctBody Regrouped Reordered)
open Outcome (agree_congruence)

section Perm

variable {α : Type} {test : α → Outcome} {xs ys : List α}

theorem Outcome.agree_any_of_perm (hp : xs.Perm ys) :
    Agree (Outcome.any test xs) (Outcome.any test ys) :=
  agree_any (fun x hx => ⟨x, hp.mem_iff.1 hx, .refl _⟩) fun y hy => ⟨y, hp.mem_iff.2 hy, .refl _⟩

theorem Outcome.agree_all_of_perm (hp : xs.Perm ys) :
    Agree (Outcome.all test xs) (Outcome.all test ys) :=
  agree_all (fun x hx => ⟨x, hp.mem_iff.1 hx, .refl _⟩) fun y hy => ⟨y, hp.mem_iff.2 hy, .refl _⟩

end Perm

/-- The operands in a list may come in any order. -/
theorem agree_operands_of_perm {items others : List Json} (hp : items.Perm others) :
    Reading.operands.Agree (.arr items) (.arr others) := by
  constructor
  · intro values key
    rw [inList, inList, equalsSome_eq_any, equalsSome_eq_any]
    exact Outcome.agree_any_of_perm hp
  · intro values
    by_cases hnil : items = []
    · subst hnil
      rw [hp.nil_eq]
      exact .refl _
    · have hnil' : others ≠ [] := fun h => hnil (List.perm_nil.1 (h ▸ hp))
      rw [containsAll_of_ne_nil values hnil, containsAll_of_ne_nil values hnil']
      refine agree_congruence.any_of_forall fun value => ?_
      rw [containsEach_eq_all, containsEach_eq_all]
      exact Outcome.agree_all_of_perm hp

/-- The entries in the body of an envelope may come in any order. -/
theorem agree_body_of_perm {body other : List (String × Json)} (hn : (Entries.keys body).Nodup)
    (hp : body.Perm other) : Reading.body.Agree (.obj body) (.obj other) := by
  have hc (child : String → Reading) :
      Entries.Counterparts (fun key x y => (child key).Agree x y) body other := by
    refine Entries.counterparts_of_zip rfl (fun e f hm => ?_) hp
    obtain ⟨rfl, -⟩ := eq_of_mem_zip_self hm
    exact related_refl agree_congruence _ _
  intro element
  rw [elementMatches, elementMatches, ← isElementCondition_of_perm (hp.map Prod.fst)]
  split
  · exact agree_operatorsHold (hc _) hn [element]
  split
  · exact agree_fieldsHold (hc _) element
  · exact .refl _

theorem agree_of_regrouped {key : String} {x y : Json} (hd : DistinctBody key x)
    (h : Regrouped key x y) : (Reading.ofOperator key).Agree x y := by
  cases h with
  | same => exact related_refl agree_congruence _ x
  | list hk hp =>
    have hread : Reading.ofOperator key = .operands := by
      rcases List.mem_cons.1 hk with rfl | hk
      · rfl
      · rw [List.mem_singleton.1 hk]
        rfl
    rw [hread]
    exact agree_operands_of_perm hp
  | body hk hp =>
    subst hk
    exact agree_body_of_perm (hd rfl _ rfl) hp

variable {first second : Constraint}

theorem counterparts_of_reordered (hf : first.Regular) (h : Reordered first second) :
    Entries.Counterparts (fun key x y => (Reading.ofOperator key).Agree x y) first second := by
  have hs : (Entries.keys second).Nodup := h.keys.nodup_iff.1 hf.nodup
  have hagree : ∀ key x y, Entries.get? first key = some x → Entries.get? second key = some y →
      (Reading.ofOperator key).Agree x y :=
    fun key x y hx hy => agree_of_regrouped (hf.body key x hx) (h.values key x y hx hy)
  refine ⟨h.keys, fun key x hm => ?_, fun key y hm => ?_⟩
  · have hx := Entries.get?_eq_some_of_mem hf.nodup hm
    obtain ⟨y, hy⟩ := Entries.mem_keys_iff_get?.1 (h.keys.mem_iff.1 (Entries.mem_keys_of_mem hm))
    exact ⟨y, Entries.mem_of_get?_eq_some hy, hagree key x y hx hy⟩
  · have hy := Entries.get?_eq_some_of_mem hs hm
    obtain ⟨x, hx⟩ := Entries.mem_keys_iff_get?.1 (h.keys.mem_iff.2 (Entries.mem_keys_of_mem hm))
    exact ⟨x, Entries.mem_of_get?_eq_some hx, hagree key x y hx hy⟩

theorem agree_of_reordered (hf : first.Regular)
    (hk : ∀ key ∈ Entries.keys first, isOperatorKey key = true) (h : Reordered first second) :
    Reading.condition.Agree (.obj first) (.obj second) := by
  refine ⟨rfl, fun values => ?_⟩
  rw [conditionHolds, conditionHolds, ← isOperatorObject_of_perm h.keys]
  split
  · exact agree_operatorsHold (counterparts_of_reordered hf h) hf.nodup values
  · rename_i hobject
    -- Without a key there is nothing to reorder.
    have hnil : Entries.keys first = [] := by
      by_contra hne
      exact hobject (isOperatorObject_iff.2 ⟨hne, hk⟩)
    have hnil' : Entries.keys second = [] := List.perm_nil.1 (hnil ▸ h.keys.symm)
    rw [List.map_eq_nil_iff.1 hnil, List.map_eq_nil_iff.1 hnil']
    exact .refl _

/-- Conditions that agree do so when they are bound to any key. -/
theorem agree_bound (h : Reading.condition.Agree (.obj first) (.obj second)) (document : Json)
    (path : String) :
    (holds document (.entry path (.obj first))).Agree
      (holds document (.entry path (.obj second))) := by
  show (fieldsHold document [(path, .obj first)]).Agree (fieldsHold document [(path, .obj second)])
  simp only [fieldsHold, Outcome.and_ok_true]
  cases FilterKey.ofString path with
  | logical operator => exact .refl _
  | unknown => exact .refl _
  | path => exact h.2 _

end Matching

namespace Constraint

open Matching (holds)

/-! ## The order of fragments -/

/-- Where fragments come together in a single conjunct, they do so in every order. The conjunct has
the same entries up to the order of keys and of what was joined under a key, and bound to a path it
turns no answer into the other. Fragments repeat no key, as no object does that is read. -/
theorem foldAll_ignores_order {fragments others : List Constraint} {first : Constraint}
    (hf : ∀ fragment ∈ fragments, fragment.Regular)
    (hk : ∀ fragment ∈ fragments, ∀ key ∈ Entries.keys fragment, isOperatorKey key = true)
    (hp : fragments.Perm others) (h : foldAll [] fragments = [first]) :
    ∃ second, foldAll [] others = [second] ∧ Reordered first second ∧
      ∀ path document x y, holds document (.entry path (.obj first)) = .ok x →
        holds document (.entry path (.obj second)) = .ok y → x = y := by
  have ho : ∀ fragment ∈ others, fragment.Regular := fun _ hm => hf _ (hp.mem_iff.2 hm)
  obtain ⟨second, h'⟩ := exists_foldAll_eq_singleton_of_perm hf hp h
  have hfirst : first.Regular := regular_of_foldAll_eq_singleton hf h
  have hsecond : second.Regular := regular_of_foldAll_eq_singleton ho h'
  have hkeys : ∀ key, key ∈ Entries.keys first ↔ key ∈ Entries.keys second := by
    intro key
    rw [mem_keys_of_foldAll_eq_singleton hf h, mem_keys_of_foldAll_eq_singleton ho h']
    simp only [hp.mem_iff]
  have hatoms : atoms first = atoms second :=
    calc atoms first = allAtoms fragments := atoms_of_foldAll_eq_singleton hf h
      _ = allAtoms others := (hp.map atoms).sum_eq
      _ = atoms second := (atoms_of_foldAll_eq_singleton ho h').symm
  have hr : Reordered first second :=
    reordered_of_atoms_eq hfirst.nodup hsecond.nodup hkeys hatoms
  have hops : ∀ key ∈ Entries.keys first, isOperatorKey key = true := by
    intro key hm
    obtain ⟨fragment, hfragment, hkey⟩ := (mem_keys_of_foldAll_eq_singleton hf h).1 hm
    exact hk fragment hfragment key hkey
  refine ⟨second, h', hr, fun path document => ?_⟩
  exact Matching.agree_bound (Matching.agree_of_reordered hfirst hops hr) document path

/-- Fragments that meet under three keys. -/
def meetingFragments : List Constraint :=
  [[("$all", .arr [.int 1, .int 2]), (elemMatchKey, .entry "$lt" (.int 9))],
    [("$nin", .arr [.int 3]), ("$all", .arr [.int 3])],
    [(elemMatchKey, .entry "$gt" (.int 1)), ("$size", .int 3)],
    [("$nin", .arr [.int 4])]]

def meetingConjunct : Constraint :=
  [("$all", .arr [.int 1, .int 2, .int 3]),
    (elemMatchKey, .obj [("$lt", .int 9), ("$gt", .int 1)]),
    ("$nin", .arr [.int 3, .int 4]), ("$size", .int 3)]

/-- What the fragments give from the last to the first. -/
def meetingConjunctBackwards : Constraint :=
  [("$nin", .arr [.int 4, .int 3]),
    (elemMatchKey, .obj [("$gt", .int 1), ("$lt", .int 9)]), ("$size", .int 3),
    ("$all", .arr [.int 3, .int 1, .int 2])]

theorem meetingFragments_ignore_order :
    foldAll [] meetingFragments = [meetingConjunct] ∧
    foldAll [] meetingFragments.reverse = [meetingConjunctBackwards] ∧
    Reordered meetingConjunct meetingConjunctBackwards ∧
    ∀ path document x y, holds document (.entry path (.obj meetingConjunct)) = .ok x →
      holds document (.entry path (.obj meetingConjunctBackwards)) = .ok y → x = y := by
  have hforward : foldAll [] meetingFragments = [meetingConjunct] := rfl
  have hbackward : foldAll [] meetingFragments.reverse = [meetingConjunctBackwards] := rfl
  obtain ⟨second, hsecond, hr, hagree⟩ := foldAll_ignores_order
    (by decide) (by decide) meetingFragments.reverse_perm.symm hforward
  obtain rfl : meetingConjunctBackwards = second :=
    List.singleton_inj.1 (hbackward.symm.trans hsecond)
  exact ⟨hforward, hbackward, hr, hagree⟩

end Constraint

end SchemaQuery
