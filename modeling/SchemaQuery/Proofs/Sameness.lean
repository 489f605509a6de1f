import Mathlib
import SchemaQuery.Matching.Compare
import SchemaQuery.Matching.Path
import SchemaQuery.Proofs.Merging

/-!
# The same data

Two values are the same data when they differ in nothing but the order of keys, at any depth
(`Json.Same`); what counts as the same number is left open. Equality as data does not tell values
apart that are the same data (`Same.equal_left`, `Same.equal_right`), and values that it does not
tell apart are the same data (`same_of_equal`). In documents that are the same data a path reaches
values that are the same data (`Path.forall₂_resolve`), as long as no object repeats a key.
-/

namespace SchemaQuery

section Related

variable {α β : Type} {R : α → β → Prop} {xs : List α} {ys : List β}

theorem exists_right_of_forall₂ (h : List.Forall₂ R xs ys) {x : α} (hx : x ∈ xs) :
    ∃ y ∈ ys, R x y := by
  induction h with
  | nil => cases hx
  | cons hr _ ih =>
    rcases List.mem_cons.1 hx with rfl | hx
    · exact ⟨_, List.mem_cons_self, hr⟩
    · obtain ⟨y, hy, hxy⟩ := ih hx
      exact ⟨y, List.mem_cons_of_mem _ hy, hxy⟩

theorem exists_left_of_forall₂ (h : List.Forall₂ R xs ys) {y : β} (hy : y ∈ ys) :
    ∃ x ∈ xs, R x y :=
  exists_right_of_forall₂ (List.Forall₂.flip (R := flip R) h) hy

theorem getElem?_cases_of_forall₂ (h : List.Forall₂ R xs ys) (index : Nat) :
    (xs[index]? = none ∧ ys[index]? = none) ∨
      ∃ x y, xs[index]? = some x ∧ ys[index]? = some y ∧ R x y := by
  induction h generalizing index with
  | nil => exact .inl ⟨rfl, rfl⟩
  | cons hr _ ih =>
    cases index with
    | zero => exact .inr ⟨_, _, rfl, rfl, hr⟩
    | succ index => exact ih index

theorem eq_of_mem_zip_self {x y : α} (h : (x, y) ∈ xs.zip xs) :
    x = y ∧ x ∈ xs := by
  induction xs with
  | nil => cases h
  | cons first rest ih =>
    rw [List.zip_cons_cons] at h
    rcases List.mem_cons.1 h with heq | h
    · cases heq
      exact ⟨rfl, List.mem_cons_self⟩
    · exact ⟨(ih h).1, List.mem_cons_of_mem _ (ih h).2⟩

end Related

/-! ## Entries with counterparts -/

namespace Entries

variable {α β : Type} {R : String → α → β → Prop} {entries : List (String × α)}
  {found middle : List (String × β)}

theorem exists_eq_singleton {key : String} (h : keys entries = [key]) :
    ∃ value, entries = [(key, value)] := by
  obtain ⟨⟨_, value⟩, rfl, rfl⟩ := List.map_eq_singleton_iff.1 h
  exact ⟨value, rfl⟩

/-- The entries of two lists correspond to each other: both have the same keys, perhaps in another
order, and each value is related to one under the same key. -/
structure Counterparts (R : String → α → β → Prop) (entries : List (String × α))
    (found : List (String × β)) : Prop where
  keys : (keys entries).Perm (keys found)
  forward : ∀ key x, (key, x) ∈ entries → ∃ y, (key, y) ∈ found ∧ R key x y
  backward : ∀ key y, (key, y) ∈ found → ∃ x, (key, x) ∈ entries ∧ R key x y

theorem forall₂_of_keys_eq (hk : keys entries = keys middle)
    (h : ∀ e f, (e, f) ∈ entries.zip middle → R e.1 e.2 f.2) :
    List.Forall₂ (fun e f => e.1 = f.1 ∧ R e.1 e.2 f.2) entries middle := by
  induction entries generalizing middle with
  | nil =>
    obtain rfl : middle = [] := List.map_eq_nil_iff.1 hk.symm
    exact .nil
  | cons e rest ih =>
    cases middle with
    | nil => cases hk
    | cons f middle =>
      rw [keys, keys, List.map_cons, List.map_cons, List.cons.injEq] at hk
      have hrest := ih hk.2 fun e' f' hm => h e' f' (List.mem_cons_of_mem _ hm)
      exact .cons ⟨hk.1, h e f List.mem_cons_self⟩ hrest

/-- Entries that are related place by place still correspond when they come in another order. -/
theorem counterparts_of_zip (hk : keys entries = keys middle)
    (h : ∀ e f, (e, f) ∈ entries.zip middle → R e.1 e.2 f.2) (hp : middle.Perm found) :
    Counterparts R entries found := by
  have hrel := forall₂_of_keys_eq hk h
  refine ⟨hk ▸ hp.map _, fun key x hm => ?_, fun key y hm => ?_⟩
  · obtain ⟨⟨_, y⟩, hf, rfl, hr⟩ := exists_right_of_forall₂ hrel hm
    exact ⟨y, hp.mem_iff.1 hf, hr⟩
  · obtain ⟨⟨_, x⟩, he, rfl, hr⟩ := exists_left_of_forall₂ hrel (hp.mem_iff.2 hm)
    exact ⟨x, he, hr⟩

theorem Counterparts.get?_cases (h : Counterparts R entries found)
    (hn : (Entries.keys entries).Nodup) (key : String) :
    (get? entries key = none ∧ get? found key = none) ∨
      ∃ x y, get? entries key = some x ∧ get? found key = some y ∧ R key x y := by
  cases hx : get? entries key with
  | none =>
    have hkey : key ∉ Entries.keys found := fun hm =>
      get?_eq_none_iff.1 hx (h.keys.mem_iff.2 hm)
    exact .inl ⟨rfl, get?_eq_none_iff.2 hkey⟩
  | some x =>
    obtain ⟨y, hy, hr⟩ := h.forward key x (mem_of_get?_eq_some hx)
    exact .inr ⟨x, y, rfl, get?_eq_some_of_mem (h.keys.nodup_iff.1 hn) hy, hr⟩

/-- Where each entry has a related one under its key among as many others, the others are those
related ones in some order. -/
theorem exists_middle {S : α → α → Prop} {others : List (String × α)}
    (hn : (Entries.keys entries).Nodup) (hlength : entries.length = others.length)
    (hall : ∀ e ∈ entries, ∃ y, get? others e.1 = some y ∧ S e.2 y) :
    ∃ middle, Entries.keys entries = Entries.keys middle ∧
      (∀ e f, (e, f) ∈ entries.zip middle → S e.2 f.2) ∧ middle.Perm others := by
  let related (e : String × α) : String × α := (e.1, (get? others e.1).getD e.2)
  have hkeys : Entries.keys entries = Entries.keys (entries.map related) := by
    simp [Entries.keys, related]
  refine ⟨entries.map related, hkeys, fun e f hm => ?_, ?_⟩
  · have hzip : entries.zip (entries.map related) = entries.map fun e => (e, related e) := by
      simpa using List.zip_map' (f := id) (g := related) (l := entries)
    rw [hzip] at hm
    obtain ⟨e, he, heq⟩ := List.mem_map.1 hm
    cases heq
    obtain ⟨y, hget, hy⟩ := hall e he
    simpa [related, hget] using hy
  · have hsub : entries.map related ⊆ others := by
      intro f hf
      obtain ⟨e, he, rfl⟩ := List.mem_map.1 hf
      obtain ⟨y, hget, -⟩ := hall e he
      simpa [related, hget] using mem_of_get?_eq_some hget
    have hnodup : (entries.map related).Nodup := by
      rw [hkeys] at hn
      exact .of_map Prod.fst hn
    exact (List.subperm_of_subset hnodup hsub).perm_of_length_le (by simp [hlength])

end Entries

namespace Json

/-! ## Induction over values -/

/-- Induction over values: a list may use the claim for its items, and an object for the values of
its entries. -/
@[elab_as_elim]
theorem induction {motive : Json → Prop} (null : motive .null)
    (bool : ∀ value, motive (.bool value)) (num : ∀ value, motive (.num value))
    (str : ∀ value, motive (.str value))
    (arr : ∀ items, (∀ item ∈ items, motive item) → motive (.arr items))
    (obj : ∀ entries, (∀ entry ∈ entries, motive entry.2) → motive (.obj entries)) :
    ∀ value, motive value
  | .null => null
  | .bool value => bool value
  | .num value => num value
  | .str value => str value
  | .arr items => arr items fun item _ => induction null bool num str arr obj item
  | .obj entries => obj entries fun entry _ => induction null bool num str arr obj entry.2
termination_by value => sizeOf value
decreasing_by
  · have := List.sizeOf_lt_of_mem ‹item ∈ items›
    simp only [Json.arr.sizeOf_spec]
    omega
  · have := List.sizeOf_lt_of_mem ‹entry ∈ entries›
    obtain ⟨key, value⟩ := entry
    simp only [Prod.mk.sizeOf_spec] at this
    simp only [Json.obj.sizeOf_spec]
    omega

/-! ## Distinct keys -/

theorem distinctItems_iff {items : List Json} :
    DistinctItems items ↔ ∀ item ∈ items, item.Distinct := by
  induction items with
  | nil => simp [DistinctItems]
  | cons item rest ih => rw [DistinctItems, ih, List.forall_mem_cons]

theorem distinctEntries_iff {entries : List (String × Json)} :
    DistinctEntries entries ↔ ∀ entry ∈ entries, entry.2.Distinct := by
  induction entries with
  | nil => simp [DistinctEntries]
  | cons entry rest ih => rw [DistinctEntries, ih, List.forall_mem_cons]

theorem distinct_arr_iff {items : List Json} :
    (Json.arr items).Distinct ↔ ∀ item ∈ items, item.Distinct := by
  rw [Distinct, distinctItems_iff]

theorem distinct_obj_iff {entries : List (String × Json)} :
    (Json.obj entries).Distinct ↔
      (Entries.keys entries).Nodup ∧ ∀ entry ∈ entries, entry.2.Distinct := by
  rw [Distinct, distinctEntries_iff]

/-! ## The same data -/

variable {R : Number → Number → Prop} {a b x y : Json}

/-- The same data: the keys of objects may come in another order, and numbers are related. -/
inductive Same (R : Number → Number → Prop) : Json → Json → Prop
  | null : Same R .null .null
  | bool (value : Bool) : Same R (.bool value) (.bool value)
  | num {m n : Number} (h : R m n) : Same R (.num m) (.num n)
  | str (value : String) : Same R (.str value) (.str value)
  | arr {xs ys : List Json} (hl : xs.length = ys.length)
      (h : ∀ x y, (x, y) ∈ xs.zip ys → Same R x y) : Same R (.arr xs) (.arr ys)
  | obj {es fs gs : List (String × Json)} (hk : Entries.keys es = Entries.keys fs)
      (h : ∀ e f, (e, f) ∈ es.zip fs → Same R e.2 f.2) (hp : fs.Perm gs) :
      Same R (.obj es) (.obj gs)

theorem Same.refl (hR : ∀ n, R n n) (value : Json) : Same R value value := by
  induction value using Json.induction with
  | null => exact .null
  | bool value => exact .bool value
  | num n => exact .num (hR n)
  | str value => exact .str value
  | arr items ih =>
    refine .arr rfl fun x y hm => ?_
    obtain ⟨rfl, hx⟩ := eq_of_mem_zip_self hm
    exact ih x hx
  | obj entries ih =>
    refine .obj rfl (fun e f hm => ?_) .rfl
    obtain ⟨rfl, he⟩ := eq_of_mem_zip_self hm
    exact ih e he

theorem Same.mono {S : Number → Number → Prop} (hRS : ∀ m n, R m n → S m n) (h : Same R a b) :
    Same S a b := by
  induction h with
  | null => exact .null
  | bool value => exact .bool value
  | num h => exact .num (hRS _ _ h)
  | str value => exact .str value
  | arr hl _ ih => exact .arr hl ih
  | obj hk _ hp ih => exact .obj hk ih hp

/-! ### Equality as data -/

theorem equalItems_iff {xs ys : List Json} :
    equalItems xs ys = true ↔ List.Forall₂ (fun x y => x.equal y = true) xs ys := by
  induction xs generalizing ys with
  | nil => cases ys <;> simp [equalItems]
  | cons x xs ih => cases ys <;> simp [equalItems, ih]

theorem equalEntries_iff {es fs : List (String × Json)} :
    equalEntries es fs = true ↔
      ∀ e ∈ es, ∃ y, Entries.get? fs e.1 = some y ∧ e.2.equal y = true := by
  induction es with
  | nil => simp [equalEntries]
  | cons e rest ih =>
    obtain ⟨key, x⟩ := e
    rw [equalEntries, Bool.and_eq_true, ih, List.forall_mem_cons]
    cases Entries.get? fs key <;> simp

theorem equal_obj_iff {es fs : List (String × Json)} :
    (Json.obj es).equal (.obj fs) = true ↔ es.length = fs.length ∧
      ∀ e ∈ es, ∃ y, Entries.get? fs e.1 = some y ∧ e.2.equal y = true := by
  rw [equal, Bool.and_eq_true, beq_iff_eq, equalEntries_iff]

theorem equalItems_congr_left {xs ys : List Json}
    (h : List.Forall₂ (fun x y => ∀ other, x.equal other = y.equal other) xs ys)
    (others : List Json) : equalItems xs others = equalItems ys others := by
  induction h generalizing others with
  | nil => rfl
  | cons hxy _ ih =>
    cases others with
    | nil => rfl
    | cons other others => rw [equalItems, equalItems, hxy, ih]

theorem equalItems_congr_right {xs ys : List Json}
    (h : List.Forall₂ (fun x y => ∀ other : Json, other.equal x = other.equal y) xs ys)
    (others : List Json) : equalItems others xs = equalItems others ys := by
  induction h generalizing others with
  | nil => rfl
  | cons hxy _ ih =>
    cases others with
    | nil => rfl
    | cons other others => rw [equalItems, equalItems, hxy, ih]

/-- Values that are the same data are equal to the same values. -/
theorem Same.equal_left (h : Same Eq a b) (other : Json) : a.equal other = b.equal other := by
  induction h generalizing other with
  | null | bool | str => rfl
  | num h => rw [h]
  | arr hl _ ih =>
    cases other with
    | arr others =>
      exact equalItems_congr_left (List.forall₂_iff_zip.2 ⟨hl, fun hm => ih _ _ hm⟩) others
    | _ => rfl
  | @obj es fs gs hk _ hp ih =>
    cases other with
    | obj others =>
      have hc := Entries.counterparts_of_zip
        (R := fun _ x y => ∀ other, x.equal other = y.equal other) hk (fun e f hm => ih e f hm) hp
      have hlength : es.length = gs.length := by simpa [Entries.keys] using hc.keys.length_eq
      rw [Bool.eq_iff_iff, equal_obj_iff, equal_obj_iff, hlength]
      refine and_congr_right fun _ => ⟨fun hall e he => ?_, fun hall e he => ?_⟩
      · obtain ⟨x, hx, heq⟩ := hc.backward e.1 e.2 he
        obtain ⟨y, hget, hy⟩ := hall _ hx
        exact ⟨y, hget, heq y ▸ hy⟩
      · obtain ⟨x, hx, heq⟩ := hc.forward e.1 e.2 he
        obtain ⟨y, hget, hy⟩ := hall _ hx
        exact ⟨y, hget, heq y ▸ hy⟩
    | _ => rfl

/-- A value is equal to all values that are the same data, or to none of them. -/
theorem Same.equal_right (h : Same Eq a b) (hd : a.Distinct) (other : Json) :
    other.equal a = other.equal b := by
  induction h generalizing other with
  | null | bool | str => rfl
  | num h => rw [h]
  | arr hl _ ih =>
    rw [distinct_arr_iff] at hd
    cases other with
    | arr others =>
      refine equalItems_congr_right (List.forall₂_iff_zip.2 ⟨hl, fun hm => ?_⟩) others
      exact ih _ _ hm (hd _ (List.of_mem_zip hm).1)
    | _ => rfl
  | @obj es fs gs hk _ hp ih =>
    rw [distinct_obj_iff] at hd
    cases other with
    | obj others =>
      have hc := Entries.counterparts_of_zip
        (R := fun _ x y => ∀ other : Json, other.equal x = other.equal y) hk
        (fun e f hm => ih e f hm (hd.2 _ (List.of_mem_zip hm).1)) hp
      have hlength : es.length = gs.length := by simpa [Entries.keys] using hc.keys.length_eq
      rw [Bool.eq_iff_iff, equal_obj_iff, equal_obj_iff, hlength]
      refine and_congr_right fun _ => forall₂_congr fun e _ => ?_
      rcases hc.get?_cases hd.1 e.1 with ⟨hes, hgs⟩ | ⟨x, y, hes, hgs, heq⟩
      · rw [hes, hgs]
      · simp [hes, hgs, heq]
    | _ => rfl

/-- Values that are equal as data are the same data, with the numbers equal as data. -/
theorem same_of_equal (h : a.equal b = true) (hd : a.Distinct) :
    Same (fun m n => m.equal n = true) a b := by
  induction a using Json.induction generalizing b with
  | null =>
    cases b with
    | null => exact .null
    | _ => cases h
  | bool value =>
    cases b with
    | bool other =>
      obtain rfl : value = other := eq_of_beq h
      exact .bool value
    | _ => cases h
  | num n =>
    cases b with
    | num m => exact .num h
    | _ => cases h
  | str value =>
    cases b with
    | str other =>
      obtain rfl : value = other := eq_of_beq h
      exact .str value
    | _ => cases h
  | arr items ih =>
    rw [distinct_arr_iff] at hd
    cases b with
    | arr others =>
      have hrel := equalItems_iff.1 h
      refine .arr hrel.length_eq fun x y hm => ?_
      have hx := (List.of_mem_zip hm).1
      exact ih x hx (List.forall₂_zip hrel hm) (hd x hx)
    | _ => cases h
  | obj entries ih =>
    rw [distinct_obj_iff] at hd
    cases b with
    | obj others =>
      obtain ⟨hlength, hall⟩ := equal_obj_iff.1 h
      obtain ⟨middle, hk, hrel, hp⟩ := Entries.exists_middle
        (S := fun x y => x.equal y = true) hd.1 hlength hall
      refine .obj hk (fun e f hm => ?_) hp
      have he := (List.of_mem_zip hm).1
      exact ih e he (hrel e f hm) (hd.2 e he)
    | _ => cases h

/-! ## Values that a path reaches -/

/-- The second value lists the keys of the first, none of which is repeated, in some order. -/
structure Rekeyed (a b : Json) : Prop where
  same : Same Eq a b
  distinct : a.Distinct

theorem Same.isObject_eq (h : Same R a b) : a.isObject = b.isObject := by cases h <;> rfl

theorem Rekeyed.refl (h : a.Distinct) : Rekeyed a a := ⟨.refl (fun _ => rfl) a, h⟩

theorem Rekeyed.elements (h : Rekeyed a b) : List.Forall₂ Rekeyed a.elements b.elements := by
  obtain ⟨hs, hd⟩ := h
  cases hs with
  | arr hl h =>
    rw [distinct_arr_iff] at hd
    exact List.forall₂_iff_zip.2 ⟨hl, fun hm => ⟨h _ _ hm, hd _ (List.of_mem_zip hm).1⟩⟩
  | _ => exact .nil

theorem Rekeyed.elementsOrSelf (h : Rekeyed a b) :
    List.Forall₂ Rekeyed a.elementsOrSelf b.elementsOrSelf := by
  have hs := h.same
  cases hs with
  | arr => exact h.elements
  | _ => exact .cons h .nil

theorem forall₂_candidates {vs ws : List Json} (h : List.Forall₂ Rekeyed vs ws) :
    List.Forall₂ Rekeyed (candidates vs) (candidates ws) :=
  List.rel_flatMap h fun _ _ hr => .cons hr hr.elements

end Json

namespace Path

open Json (Rekeyed)

theorem descendField_eq (entries : List (String × Json)) (segment : String) (rest : List String) :
    descendField entries segment rest =
      (Entries.get? entries segment).elim [] fun value => descend value rest := by
  induction entries with
  | nil => rfl
  | cons entry entries ih =>
    obtain ⟨key, value⟩ := entry
    by_cases hk : key = segment
    · simp [descendField, Entries.get?, hk]
    · simp [descendField, Entries.get?, hk, ih]

theorem descendItem_eq (items : List Json) (index : Nat) (rest : List String) :
    descendItem items index rest = items[index]?.elim [] fun item => descend item rest := by
  induction items generalizing index with
  | nil => rfl
  | cons item items ih =>
    cases index with
    | zero => rfl
    | succ index => exact ih index

theorem descendObjects_eq (items : List Json) (rest : List String) :
    descendObjects items rest =
      items.flatMap fun item => if item.isObject then descend item rest else [] := by
  induction items with
  | nil => rfl
  | cons item items ih => rw [descendObjects, ih, List.flatMap_cons]

theorem forall₂_descend_arr {xs ys : List Json}
    (h : List.Forall₂ (fun x y => x.isObject = y.isObject ∧
      ∀ names, List.Forall₂ Rekeyed (descend x names) (descend y names)) xs ys)
    (name : String) (rest : List String) :
    List.Forall₂ Rekeyed (descend (.arr xs) (name :: rest)) (descend (.arr ys) (name :: rest)) := by
  simp only [descend]
  cases Text.word? name with
  | some index =>
    simp only [descendItem_eq]
    rcases getElem?_cases_of_forall₂ h index with ⟨hxs, hys⟩ | ⟨x, y, hxs, hys, hr⟩
    · rw [hxs, hys]
      exact .nil
    · rw [hxs, hys]
      exact hr.2 rest
  | none =>
    simp only [descendObjects_eq]
    refine List.rel_flatMap h fun x y hr => ?_
    rw [hr.1]
    split
    · exact hr.2 (name :: rest)
    · exact .nil

/-- A path finds its way through objects by their keys, in whatever order these come. -/
theorem forall₂_descend {a b : Json} (h : Rekeyed a b) (names : List String) :
    List.Forall₂ Rekeyed (descend a names) (descend b names) := by
  obtain ⟨hs, hd⟩ := h
  induction hs generalizing names with
  | @arr xs ys hl h ih =>
    cases names with
    | nil => exact .cons ⟨.arr hl h, hd⟩ .nil
    | cons name rest =>
      rw [Json.distinct_arr_iff] at hd
      refine forall₂_descend_arr (List.forall₂_iff_zip.2 ⟨hl, fun hm => ?_⟩) name rest
      have hx := hd _ (List.of_mem_zip hm).1
      exact ⟨(h _ _ hm).isObject_eq, fun names => ih _ _ hm names hx⟩
  | @obj es fs gs hk h hp ih =>
    cases names with
    | nil => exact .cons ⟨.obj hk h hp, hd⟩ .nil
    | cons name rest =>
      rw [Json.distinct_obj_iff] at hd
      have hc := Entries.counterparts_of_zip
        (R := fun _ x y => ∀ names, List.Forall₂ Rekeyed (descend x names) (descend y names)) hk
        (fun e f hm names => ih e f hm names (hd.2 _ (List.of_mem_zip hm).1)) hp
      simp only [descend, descendField_eq]
      rcases hc.get?_cases hd.1 name with ⟨hes, hgs⟩ | ⟨x, y, hes, hgs, hr⟩
      · rw [hes, hgs]
        exact .nil
      · rw [hes, hgs]
        exact hr rest
  | _ =>
    cases names with
    | nil => exact .cons ⟨by constructor <;> assumption, hd⟩ .nil
    | cons name rest => exact .nil

theorem forall₂_resolve {a b : Json} (h : Rekeyed a b) (path : String) :
    List.Forall₂ Rekeyed (resolve a path) (resolve b path) :=
  forall₂_descend h (segments path)

end Path

end SchemaQuery
