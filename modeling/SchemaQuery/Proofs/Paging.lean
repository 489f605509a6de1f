import SchemaQuery.Collection.Basic
import SchemaQuery.Proofs.Outcomes
import SchemaQuery.Proofs.Results
import SchemaQuery.Proofs.StableSorting

/-!
# Pages

A filter either can be evaluated on all documents of a collection, and then those that it holds of
are selected (`Collection.select_eq_ok_iff`), or every request fails with the error of the
selection. Pages are cut out of one arrangement of the selected documents
(`Collection.find_eq_ok`), so consecutive pages put together give the arrangement
(`Collection.flatMap_pages`), whatever their size (`Collection.pages_tile_result`).
-/

namespace SchemaQuery

/-- Consecutive pieces of one size give the beginning of a list. -/
theorem flatMap_take_drop {α : Type} (list : List α) (size count : Nat) :
    (List.range count).flatMap (fun i => (list.drop (i * size)).take size) =
      list.take (count * size) := by
  induction count with
  | zero => simp
  | succ count ih =>
    rw [List.range_succ, List.flatMap_append, ih, List.flatMap_singleton, Nat.succ_mul,
      List.take_add]

namespace Collection

/-! ## Selected documents -/

theorem select_cons_eq_ok_iff {filter document : Json} {rest matching : List Json} :
    select filter (document :: rest) = .ok matching ↔
      ∃ verdict others, Matching.holds document filter = .ok verdict ∧
        select filter rest = .ok others ∧
        matching = if verdict then document :: others else others := by
  rw [select, Results.bind_eq_ok_iff]
  constructor
  · rintro ⟨verdict, hverdict, h⟩
    rw [Results.bind_pure_eq_map] at h
    obtain ⟨others, hothers, rfl⟩ := Results.map_eq_ok_iff.1 h
    exact ⟨verdict, others, hverdict, hothers, rfl⟩
  · rintro ⟨verdict, others, hverdict, hothers, rfl⟩
    refine ⟨verdict, hverdict, ?_⟩
    rw [Results.bind_pure_eq_map]
    exact Results.map_eq_ok_iff.2 ⟨others, hothers, rfl⟩

/-- A selection succeeds when the filter can be evaluated on every document, and gives those that it
holds of, in order. -/
theorem select_eq_ok_iff {filter : Json} {documents matching : List Json} :
    select filter documents = .ok matching ↔
      (∀ document ∈ documents, (Matching.holds document filter).Evaluates) ∧
      matching = documents.filter fun document => Matching.holds document filter = .ok true := by
  induction documents generalizing matching with
  | nil => simp [select, eq_comm]
  | cons document rest ih =>
    rw [select_cons_eq_ok_iff, List.forall_mem_cons, List.filter_cons]
    constructor
    · rintro ⟨verdict, others, hverdict, hothers, rfl⟩
      obtain ⟨hrest, rfl⟩ := ih.1 hothers
      refine ⟨⟨⟨verdict, hverdict⟩, hrest⟩, ?_⟩
      rw [hverdict]
      cases verdict <;> rfl
    · rintro ⟨⟨⟨verdict, hverdict⟩, hrest⟩, rfl⟩
      refine ⟨verdict, _, hverdict, ih.2 ⟨hrest, rfl⟩, ?_⟩
      rw [hverdict]
      cases verdict <;> rfl

/-! ## Pages of the selected documents -/

/-- The selected documents in the order of the pages. -/
def arranged (sort : Option SortOrder) (matching : List Json) : List Json :=
  sort.elim matching fun order => order.sort matching

@[simp] theorem length_arranged (sort : Option SortOrder) (matching : List Json) :
    (arranged sort matching).length = matching.length := by
  cases sort with
  | none => rfl
  | some order => exact (order.perm_sort matching).length_eq

/-- The page at an offset. -/
def pageAt (sort : Option SortOrder) (size : Nat) (matching : List Json) (offset : Nat) : Page :=
  ⟨((arranged sort matching).drop offset).take size, matching.length⟩

theorem length_pageAt (sort : Option SortOrder) (size : Nat) (matching : List Json)
    (offset : Nat) :
    (pageAt sort size matching offset).documents.length = min size (matching.length - offset) := by
  rw [pageAt, List.length_take, List.length_drop, length_arranged]

/-- The pages up to the end of the selected documents. -/
theorem flatMap_pages {size : Nat} (hsize : 1 ≤ size) (sort : Option SortOrder)
    (matching : List Json) :
    (List.range (matching.length / size + 1)).flatMap
      (fun i => (pageAt sort size matching (i * size)).documents) = arranged sort matching := by
  have hend : (arranged sort matching).length ≤ (matching.length / size + 1) * size := by
    rw [length_arranged, Nat.mul_comm]
    exact (Nat.lt_mul_div_succ _ hsize).le
  rw [← List.take_of_length_le hend]
  exact flatMap_take_drop _ _ _

variable {collection : Collection} {filter : Filter}

theorem find_eq_error {error : MatchError} (h : collection.execute filter = .error error)
    (options : FindOptions) : collection.find filter options = .error error := by
  rw [find, h]
  rfl

theorem find_eq_ok {matching : List Json} (h : collection.execute filter = .ok matching)
    (options : FindOptions) :
    collection.find filter options =
      .ok (pageAt options.sort (collection.limitOf options) matching options.offset) := by
  rw [find, h]
  obtain ⟨_ | order, limit, offset⟩ := options <;> rfl

/-- Pages tile the result. If the filter cannot be evaluated on the documents, every request fails
with the same error. Otherwise every request for a page succeeds; it counts the matching documents
and returns as many of those from its offset on as fit on a page, and none from beyond the last.
Pages of one size from the first document on give the matching documents in their order, or as the
stable sort arranges them. -/
theorem pages_tile_result (collection : Collection) (filter : Filter) (sort : Option SortOrder)
    {limit : Option Nat} {size : Nat} (hlimit : limit.getD collection.defaultLimit = size)
    (hsize : 1 ≤ size) :
    match collection.execute filter with
    | .error error =>
      collection.count filter = .error error ∧
        ∀ options, collection.find filter options = .error error
    | .ok matching =>
      matching = collection.documents.filter (fun document =>
        Matching.holds document filter.toDocument = .ok true) ∧
      collection.count filter = .ok matching.length ∧
      ∃ (page : Nat → Page) (result : List Json),
        (match sort with
          | none => result = matching
          | some order => ∃ places, order.StablySorts matching places ∧
            result = List.ofFn fun i => matching[places i]) ∧
        (∀ offset, collection.find filter ⟨sort, limit, offset⟩ = .ok (page offset) ∧
          (page offset).total = matching.length ∧
          (page offset).documents.length = min size (matching.length - offset)) ∧
        (List.range (matching.length / size + 1)).flatMap
          (fun i => (page (i * size)).documents) = result ∧
        ∀ offset, matching.length ≤ offset → (page offset).documents = [] := by
  split
  · rename_i error hexecute
    refine ⟨?_, find_eq_error hexecute⟩
    rw [count, hexecute]
    rfl
  · rename_i matching hexecute
    refine ⟨(select_eq_ok_iff.1 hexecute).2, ?_, pageAt sort size matching, arranged sort matching,
      ?_, fun offset => ⟨?_, rfl, length_pageAt _ _ _ _⟩, flatMap_pages hsize sort matching,
      fun offset hoffset => ?_⟩
    · rw [count, hexecute]
      rfl
    · cases sort with
      | none => rfl
      | some order => exact ⟨_, order.stablySorts_arrangement matching,
          (order.stablySorts_arrangement matching).sort_eq⟩
    · rw [find_eq_ok hexecute, limitOf, hlimit]
    · refine List.eq_nil_of_length_eq_zero ?_
      rw [length_pageAt, Nat.sub_eq_zero_of_le hoffset, Nat.min_zero]

/-- Four people, two to a page. -/
def people : Collection :=
  ⟨[.entry "age" (.int 41), .entry "age" (.int 17), .entry "age" (.int 33), .entry "age" (.int 25)],
    2⟩

/-- People over twenty. -/
def overTwenty : Filter := ⟨[⟨"age", [("$gt", .int 20)]⟩], []⟩

/-- The three people over twenty by age, on two pages of the standard size. -/
theorem people_tile :
    (none : Option Nat).getD people.defaultLimit = 2 ∧ 1 ≤ 2 ∧
    people.execute overTwenty =
      .ok [.entry "age" (.int 41), .entry "age" (.int 33), .entry "age" (.int 25)] ∧
    people.count overTwenty = .ok 3 ∧
    ∃ (first last : Page) (places : Equiv.Perm (Fin 3)),
      people.find overTwenty ⟨some ⟨"age", .ascending⟩, none, 0⟩ = .ok first ∧
      people.find overTwenty ⟨some ⟨"age", .ascending⟩, none, 2⟩ = .ok last ∧
      first.documents.length = 2 ∧ last.documents.length = 1 ∧
      first.documents ++ last.documents = List.ofFn fun i =>
        [Json.entry "age" (.int 41), .entry "age" (.int 33), .entry "age" (.int 25)][places i] := by
  have hexecute : people.execute overTwenty =
      .ok [.entry "age" (.int 41), .entry "age" (.int 33), .entry "age" (.int 25)] := by rfl
  have htile := @pages_tile_result people overTwenty (some ⟨"age", .ascending⟩) none 2 rfl
    (by decide)
  rw [hexecute] at htile
  obtain ⟨-, hcount, page, result, ⟨places, -, hresult⟩, hpage, hpages, -⟩ := htile
  refine ⟨rfl, by decide, hexecute, hcount, page 0, page 2, places, (hpage 0).1, (hpage 2).1,
    (hpage 0).2.2, (hpage 2).2.2, ?_⟩
  have htwo : (page 0).documents ++ ((page 2).documents ++ []) = result := hpages
  rw [List.append_nil] at htwo
  exact htwo.trans hresult

end Collection

end SchemaQuery
