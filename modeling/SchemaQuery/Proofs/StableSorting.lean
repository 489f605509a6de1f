import SchemaQuery.Proofs.Rounding
import SchemaQuery.Proofs.SortKeys

/-!
# Sorting is stable

What a document is sorted by is a key (`SortKey`), and documents are compared as their keys are, in
the direction of the sort (`SortOrder.compare_eq`). Paired with their places in the list, documents
with equal keys are told apart, and only one arrangement of the pairs is in order
(`SortOrder.StablySorts.pairs_eq`). So exactly one permutation of the places puts documents in order
without moving those with equal keys past each other, and the sort follows it
(`SortOrder.sort_stably_sorts`).
-/

namespace SchemaQuery

/-- What a document is sorted by: the first value that a path reaches, as far as it counts. The
kinds of keys are in order, and within a kind keys are in the order of what they hold; a number
holds the value of its double. -/
inductive SortKey where
  | missing
  | null
  | bool (value : Bool)
  | number (value : Int)
  | string (value : String)
  | array
  | object
  deriving DecidableEq, Ord

namespace SortKey

/-- The key of what a path reaches first. -/
def ofJson : Option Json → SortKey
  | none => .missing
  | some .null => .null
  | some (.bool b) => .bool b
  | some (.num n) => .number n.toBinary64.value
  | some (.str s) => .string s
  | some (.arr _) => .array
  | some (.obj _) => .object

theorem compareKeys_eq_compare (a b : Option Json) :
    Json.compareKeys a b = compare (ofJson a) (ofJson b) := by
  rcases a with _ | a <;> rcases b with _ | b
  · rfl
  · cases b <;> rfl
  · cases a <;> rfl
  · cases a <;> cases b <;> try rfl
    case bool.bool p q => cases p <;> cases q <;> rfl
    case num.num m n =>
      show compare m.key n.key = (compare m.toBinary64.value n.toBinary64.value).then .eq
      rw [Ordering.then_eq, Binary64.compare_value]
      rfl
    case str.str s t => exact (Ordering.then_eq (o := compare s t)).symm

/-- Keys are compared as equal only if they are. -/
theorem eq_of_compare_eq {a b : SortKey} (h : compare a b = .eq) : a = b := by
  cases a <;> cases b
  case bool.bool p q => cases p <;> cases q <;> cases h <;> rfl
  case number.number m n =>
    have h : (compare m n).then .eq = .eq := h
    rw [Ordering.then_eq] at h
    rw [compare_eq_iff_eq.1 h]
  case string.string s t =>
    have h : (compare s t).then .eq = .eq := h
    rw [Ordering.then_eq] at h
    rw [compare_eq_iff_eq.1 h]
  all_goals cases h <;> rfl

end SortKey

namespace SortOrder

variable (order : SortOrder)

/-- The key of a document. -/
def sortKey (document : Json) : SortKey := .ofJson (order.key? document)

/-- Documents are compared as their keys are, in the direction of the sort. -/
theorem compare_eq (a b : Json) :
    order.compare a b =
      match order.direction with
      | .ascending => Ord.compare (order.sortKey a) (order.sortKey b)
      | .descending => Ord.compare (order.sortKey b) (order.sortKey a) := by
  have hkeys (a b : Json) : Json.compareKeys (order.key? a) (order.key? b) =
      Ord.compare (order.sortKey a) (order.sortKey b) := SortKey.compareKeys_eq_compare _ _
  obtain ⟨path, _ | _⟩ := order
  · exact hkeys a b
  · rw [← hkeys b a]
    exact Std.OrientedCmp.eq_swap.symm

theorem compare_eq_iff {a b : Json} :
    order.compare a b = .eq ↔ order.sortKey a = order.sortKey b := by
  rw [compare_eq]
  constructor
  · intro h
    split at h
    · exact SortKey.eq_of_compare_eq h
    · exact (SortKey.eq_of_compare_eq h).symm
  · intro h
    have hself : Json.compareKeys (order.key? a) (order.key? a) = .eq := Std.ReflCmp.compare_self
    rw [SortKey.compareKeys_eq_compare] at hself
    rw [← h]
    split <;> exact hself

theorem isLE_antisymm {a b : Json} (hab : (order.compare a b).isLE = true)
    (hba : (order.compare b a).isLE = true) : order.sortKey a = order.sortKey b := by
  refine order.compare_eq_iff.1 ?_
  rw [order.compare_swap b a] at hba
  cases h : order.compare a b with
  | eq => rfl
  | lt => rw [h] at hba; cases hba
  | gt => rw [h] at hab; cases hab

theorem sort_of_pairwise {documents : List Json}
    (h : documents.Pairwise fun a b => (order.compare a b).isLE = true) :
    order.sort documents = documents :=
  List.mergeSort_of_pairwise h

/-! ## Arrangements of documents -/

/-- The documents are in order when they stand at the given places, and those with equal keys are as
they were among each other. -/
structure StablySorts (documents : List Json) (places : Equiv.Perm (Fin documents.length)) :
    Prop where
  ordered : ∀ i j, i < j → (order.compare documents[places i] documents[places j]).isLE = true
  stable : ∀ i j, i < j → order.sortKey documents[places i] = order.sortKey documents[places j] →
    places i < places j

/-- The order of documents with their places: those with equal keys are told apart by the places. -/
def pairLE : Json × Nat → Json × Nat → Bool := List.zipIdxLE fun a b => (order.compare a b).isLE

theorem pairLE_iff {p q : Json × Nat} :
    order.pairLE p q = true ↔
      (order.compare p.1 q.1).isLE = true ∧
        (order.sortKey p.1 = order.sortKey q.1 → p.2 ≤ q.2) := by
  rw [← order.compare_eq_iff, pairLE, List.zipIdxLE, order.compare_swap q.1 p.1]
  cases order.compare p.1 q.1 <;> simp

/-- The documents with their places, in order. -/
def sortedPairs (documents : List Json) : List (Json × Nat) :=
  documents.zipIdx.mergeSort order.pairLE

theorem map_fst_sortedPairs (documents : List Json) :
    (order.sortedPairs documents).map (·.1) = order.sort documents :=
  List.mergeSort_zipIdx

theorem perm_sortedPairs (documents : List Json) :
    (order.sortedPairs documents).Perm documents.zipIdx :=
  List.mergeSort_perm _ _

theorem pairwise_sortedPairs (documents : List Json) :
    (order.sortedPairs documents).Pairwise fun p q => order.pairLE p q = true :=
  List.pairwise_mergeSort (List.zipIdxLE_trans order.isLE_trans)
    (List.zipIdxLE_total order.isLE_total) _

/-- A place has only one document. -/
theorem eq_of_mem_zipIdx {documents : List Json} {p q : Json × Nat} (hp : p ∈ documents.zipIdx)
    (hq : q ∈ documents.zipIdx) (h : p.2 = q.2) : p = q := by
  rw [List.mem_zipIdx_iff_getElem?] at hp hq
  rw [h, hq] at hp
  exact Prod.ext (Option.some.inj hp).symm h

variable {order} {documents : List Json} {places : Equiv.Perm (Fin documents.length)}

/-- Documents that are arranged stably are in order even with their places. -/
theorem StablySorts.pairs_eq (h : order.StablySorts documents places) :
    List.ofFn (fun i => (documents[places i], (places i : Nat))) = order.sortedPairs documents := by
  have hzip : List.ofFn (fun i : Fin documents.length => (documents[i], (i : Nat))) =
      documents.zipIdx := List.ext_getElem (by simp) (by simp)
  have hperm : (List.ofFn fun i => (documents[places i], (places i : Nat))).Perm
      documents.zipIdx := by
    rw [← hzip]
    exact Equiv.Perm.ofFn_comp_perm places fun i => (documents[i], (i : Nat))
  -- Documents with equal keys need not be equal, but pairs in order both ways have one place.
  refine List.Perm.eq_of_pairwise (fun p q hp hq hpq hqp => ?_) ?_
    (order.pairwise_sortedPairs documents) (hperm.trans (order.perm_sortedPairs documents).symm)
  · obtain ⟨hle, hplaces⟩ := order.pairLE_iff.1 hpq
    obtain ⟨hge, hplaces'⟩ := order.pairLE_iff.1 hqp
    have hkeys := order.isLE_antisymm hle hge
    exact eq_of_mem_zipIdx (hperm.mem_iff.1 hp) ((order.perm_sortedPairs documents).mem_iff.1 hq)
      (Nat.le_antisymm (hplaces hkeys) (hplaces' hkeys.symm))
  · rw [List.pairwise_ofFn]
    intro i j hij
    exact order.pairLE_iff.2 ⟨h.ordered i j hij, fun hkeys => (h.stable i j hij hkeys).le⟩

theorem StablySorts.sort_eq (h : order.StablySorts documents places) :
    order.sort documents = List.ofFn fun i => documents[places i] := by
  rw [← order.map_fst_sortedPairs, ← h.pairs_eq, List.map_ofFn]
  rfl

theorem StablySorts.unique {other : Equiv.Perm (Fin documents.length)}
    (h : order.StablySorts documents places) (hother : order.StablySorts documents other) :
    other = places := by
  have hpairs := List.ofFn_injective (hother.pairs_eq.trans h.pairs_eq.symm)
  refine Equiv.ext fun i => Fin.ext ?_
  exact (Prod.ext_iff.1 (congrFun hpairs i)).2

variable (order documents)

@[simp] theorem length_sortedPairs : (order.sortedPairs documents).length = documents.length := by
  rw [(order.perm_sortedPairs documents).length_eq, List.length_zipIdx]

/-- The sorted pair at a position. -/
def sortedPair (i : Fin documents.length) : Json × Nat :=
  (order.sortedPairs documents).get ⟨i.val, by simp⟩

theorem getElem?_sortedPair (i : Fin documents.length) :
    documents[(order.sortedPair documents i).2]? = some (order.sortedPair documents i).1 :=
  List.mem_zipIdx_iff_getElem?.1
    ((order.perm_sortedPairs documents).mem_iff.1 (List.get_mem _ _))

/-- The place of the document that comes to a position. -/
def place (i : Fin documents.length) : Fin documents.length :=
  ⟨(order.sortedPair documents i).2,
    (List.getElem?_eq_some_iff.1 (order.getElem?_sortedPair documents i)).1⟩

theorem place_injective : Function.Injective (order.place documents) := by
  have hnodup : ((order.sortedPairs documents).map (·.2)).Nodup := by
    have hperm := (order.perm_sortedPairs documents).map (·.2)
    rw [List.zipIdx_map_snd] at hperm
    exact hperm.nodup_iff.2 List.nodup_range'
  intro i j hij
  have hi : i.val < ((order.sortedPairs documents).map (·.2)).length := by simp
  have hj : j.val < ((order.sortedPairs documents).map (·.2)).length := by simp
  have hplaces : ((order.sortedPairs documents).map (·.2)).get ⟨i, hi⟩ =
      ((order.sortedPairs documents).map (·.2)).get ⟨j, hj⟩ := by
    rw [List.get_eq_getElem, List.get_eq_getElem, List.getElem_map, List.getElem_map]
    exact congrArg Fin.val hij
  have hindex := hnodup.injective_get hplaces
  exact Fin.ext (Fin.mk.inj hindex)

/-- The arrangement of the documents in the sorted pairs. -/
noncomputable def arrangement : Equiv.Perm (Fin documents.length) :=
  .ofBijective (order.place documents) (Finite.injective_iff_bijective.1 (order.place_injective _))

theorem getElem_arrangement (i : Fin documents.length) :
    documents[order.arrangement documents i] = (order.sortedPair documents i).1 :=
  (List.getElem?_eq_some_iff.1 (order.getElem?_sortedPair documents i)).2

theorem stablySorts_arrangement : order.StablySorts documents (order.arrangement documents) := by
  have hle (i j : Fin documents.length) (hij : i < j) :
      order.pairLE (order.sortedPair documents i) (order.sortedPair documents j) = true :=
    List.pairwise_iff_getElem.1 (order.pairwise_sortedPairs documents) i j (by simp) (by simp) hij
  constructor
  · intro i j hij
    rw [getElem_arrangement, getElem_arrangement]
    exact (order.pairLE_iff.1 (hle i j hij)).1
  · intro i j hij hkeys
    rw [getElem_arrangement, getElem_arrangement] at hkeys
    have hne : order.arrangement documents i ≠ order.arrangement documents j :=
      fun h => hij.ne (order.place_injective documents h)
    exact lt_of_le_of_ne ((order.pairLE_iff.1 (hle i j hij)).2 hkeys) hne

/-! ## The sort -/

/-- Sorting is the unique stable sort of a total preorder. Documents are compared by their keys in
the direction of the sort, which is total, transitive and antisymmetric up to equal keys; exactly
one permutation of the places of a list puts its documents in order and keeps those with equal keys
as they were, and the sort gives the documents at these places; and a list that is sorted once is
not changed by sorting it again. -/
theorem sort_stably_sorts :
    (∀ a b : Json, order.compare a b =
      match order.direction with
      | .ascending => Ord.compare (order.sortKey a) (order.sortKey b)
      | .descending => Ord.compare (order.sortKey b) (order.sortKey a)) ∧
    (∀ a b : Json, (order.compare a b).isLE = true ∨ (order.compare b a).isLE = true) ∧
    (∀ a b c : Json, (order.compare a b).isLE = true → (order.compare b c).isLE = true →
      (order.compare a c).isLE = true) ∧
    (∀ a b : Json, (order.compare a b).isLE = true → (order.compare b a).isLE = true →
      order.sortKey a = order.sortKey b) ∧
    ∀ documents : List Json,
      (∃ places : Equiv.Perm (Fin documents.length),
        (∀ other, order.StablySorts documents other ↔ other = places) ∧
        order.sort documents = List.ofFn fun i => documents[places i]) ∧
      order.sort (order.sort documents) = order.sort documents := by
  refine ⟨order.compare_eq, fun a b => Bool.or_eq_true_iff.1 (order.isLE_total a b),
    order.isLE_trans, fun a b => order.isLE_antisymm, fun documents => ⟨?_, ?_⟩⟩
  · have hstable := order.stablySorts_arrangement documents
    refine ⟨order.arrangement documents, fun other => ⟨hstable.unique, ?_⟩, hstable.sort_eq⟩
    rintro rfl
    exact hstable
  · exact order.sort_of_pairwise (order.pairwise_sort documents)

/-- A descending sort by age of a text, a number and a document without one, and of two integers
that are one double. -/
theorem ages_stably_sorted :
    (SortOrder.compare ⟨"age", .descending⟩ (.entry "age" (.str "old"))
      (.entry "age" (.int 41))).isLE = true ∧
    (SortOrder.compare ⟨"age", .descending⟩ (.entry "age" (.int 41)) (.obj [])).isLE = true ∧
    (SortOrder.compare ⟨"age", .descending⟩ (.entry "age" (.str "old")) (.obj [])).isLE = true ∧
    (SortOrder.compare ⟨"age", .descending⟩ (.entry "age" (.int 9007199254740993))
      (.entry "age" (.int 9007199254740992))).isLE = true ∧
    (SortOrder.compare ⟨"age", .descending⟩ (.entry "age" (.int 9007199254740992))
      (.entry "age" (.int 9007199254740993))).isLE = true ∧
    SortOrder.sortKey ⟨"age", .descending⟩ (.entry "age" (.int 9007199254740993)) =
      SortOrder.sortKey ⟨"age", .descending⟩ (.entry "age" (.int 9007199254740992)) := by
  have htext : (SortOrder.compare ⟨"age", .descending⟩ (.entry "age" (.str "old"))
    (.entry "age" (.int 41))).isLE = true := by decide +kernel
  have hnumber : (SortOrder.compare ⟨"age", .descending⟩ (.entry "age" (.int 41))
    (.obj [])).isLE = true := by decide +kernel
  have hlong : (SortOrder.compare ⟨"age", .descending⟩ (.entry "age" (.int 9007199254740993))
    (.entry "age" (.int 9007199254740992))).isLE = true := by decide +kernel
  have hshort : (SortOrder.compare ⟨"age", .descending⟩ (.entry "age" (.int 9007199254740992))
    (.entry "age" (.int 9007199254740993))).isLE = true := by decide +kernel
  obtain ⟨-, -, htrans, hantisymm, -⟩ := sort_stably_sorts ⟨"age", .descending⟩
  exact ⟨htext, hnumber, htrans _ _ _ htext hnumber, hlong, hshort, hantisymm _ _ hlong hshort⟩

end SortOrder

end SchemaQuery
