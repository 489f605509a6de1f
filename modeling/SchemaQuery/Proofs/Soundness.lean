import SchemaQuery.Proofs.Parts

/-!
# No entry is lost

Where a compiled filter holds of a document, none of the entries outside of alternatives is refuted
by the document, and neither are those of one alternative (`holds_refutes_no_entry`). The reason is
that each fragment lies within a clause, and that a clause which holds refutes nothing that lies
within it (`clauseHolds_ne_false_of_within`).
-/

namespace SchemaQuery

/-! ## What a clause says of its parts -/

namespace Matching

open Constraint (Emitted Inside Within)

/-- An operator that holds with a longer operand is not refuted with the shorter one. Only the empty
list under `$all`, which no value has, asks more than a longer list. -/
theorem verdict_ne_false_of_inside {values : List Json} {key : String} {value other : Json}
    (hi : Inside key value other) (hall : key = "$all" → value ≠ .arr [])
    (hbody : key = elemMatchKey → ∀ body, value = .obj body ∨ other = .obj body → Conditions body)
    (h : verdict values (key, other) = .ok true) : verdict values (key, value) ≠ .ok false := by
  cases hi with
  | same =>
    rw [h]
    exact fun hf => nomatch hf
  | @list items others hk hsub =>
    have hmem : ∀ item ∈ items, item ∈ others := fun item hm => hsub.subset hm
    rcases List.mem_cons.1 hk with rfl | hk
    · exact verdict_all_ne_false (fun hnil => hall rfl (congrArg Json.arr hnil)) hmem h
    · rw [List.mem_singleton] at hk
      subst hk
      rw [verdict_nin_of_subset hmem h]
      exact fun hf => nomatch hf
  | body hk hsub =>
    subst hk
    exact verdict_elemMatch_ne_false (hbody rfl _ (.inr rfl)) (hbody rfl _ (.inl rfl)) hsub h

/-- A clause that holds refutes nothing that lies within it. -/
theorem clauseHolds_ne_false_of_within {document : Json} {path : String} {part whole : Constraint}
    (hp : Emitted part) (hw : Emitted whole) (hwithin : Within part whole)
    (hall : Entries.get? part "$all" ≠ some (.arr []))
    (h : clauseHolds document ⟨path, whole⟩ = .ok true) :
    clauseHolds document ⟨path, part⟩ ≠ .ok false := by
  have hpath : isOperatorKey path = false := by
    rw [← Bool.not_eq_true]
    intro hk
    obtain ⟨error, he⟩ := holds_clause_of_operatorKey document whole hk
    rw [h] at he
    cases he
  rw [holds_clause hpath hw.conditions, Outcome.all_eq_true_iff] at h
  rw [holds_clause hpath hp.conditions]
  refine Outcome.all_ne_false fun ⟨key, value⟩ hm => ?_
  have hv : Entries.get? part key = some value := Entries.get?_eq_some_of_mem hp.nodup hm
  obtain ⟨other, ho, hi⟩ := hwithin key value hv
  refine verdict_ne_false_of_inside hi ?_ ?_ (h (key, other) (Entries.mem_of_get?_eq_some ho))
  · rintro rfl rfl
    exact hall hv
  · rintro rfl body (rfl | rfl)
    · obtain ⟨_, hb, hcond, -⟩ := hp.body _ hv
      cases hb
      exact hcond
    · obtain ⟨_, hb, hcond, -⟩ := hw.body _ ho
      cases hb
      exact hcond

end Matching

namespace Query

open Constraint (Emitted Within)
open Matching (clauseHolds Outcome)

/-- The entry that asks a list for all of no elements. -/
def containsAllOfNothing : String × Json := (Operator.containsAll.name, .arr [])

variable {format : Format} {query document : Json} {filter : Filter}

/-- Entries whose constraints lie within clauses that hold are not refuted. -/
theorem alone_ne_false_of_clauses {path : String} {category : Category}
    (hp : (TypeMap.ofFormat format).get? path = some category) {entries : List (String × Json)}
    {conjuncts : List Constraint} (hc : Constraint.compile path category entries = .ok conjuncts)
    (hwhole : ∀ constraint ∈ conjuncts, ∃ whole, Within constraint whole ∧ Emitted whole ∧
      clauseHolds document ⟨path, whole⟩ = .ok true)
    (hne : containsAllOfNothing ∉ entries) :
    ∀ entry ∈ entries, Alone (· ≠ .ok false) format document path entry := by
  intro entry hentry
  obtain ⟨lists, hm, rfl⟩ := Constraint.compile_eq_ok_iff.1 hc
  obtain ⟨fragments, hf, hok⟩ := Results.exists_mem_of_mapM hm hentry
  have hemitted := Constraint.emitted_of_mapM hm
  rw [alone_iff hp hok, Outcome.all_map]
  refine Outcome.all_ne_false fun fragment hfragment => ?_
  have hflat : fragment ∈ lists.flatten := List.mem_flatten_of_mem hf hfragment
  obtain ⟨constraint, hcon, hin⟩ := Constraint.exists_within_foldAll
    (fun other ho => (hemitted other ho).regular) [] hflat
  obtain ⟨whole, hin', hw, hholds⟩ := hwhole constraint hcon
  refine Matching.clauseHolds_ne_false_of_within (hemitted fragment hflat) hw (hin.trans hin') ?_
    hholds
  intro hall
  obtain rfl := Constraint.eq_containsAll_of_get?_all hok hfragment hall
  exact hne hentry

/-- Compilation loses no constraint: where the filter holds, no entry outside of alternatives would
fail alone, and if there are alternatives, no entry of some item among them would. The list that has
all of no elements is left out, as no list has. -/
theorem holds_refutes_no_entry (h : compileFor format query = .ok filter)
    (hne : ∀ node ∈ terminalNodes (.ofFormat format) query,
      containsAllOfNothing ∉ node.ownEntries ∧
        ∀ item ∈ node.items, containsAllOfNothing ∉ item.2)
    (hm : Matching.holds document filter.toDocument = .ok true) :
    EachRequired (· ≠ .ok false) format query document ∧
      (filter.any ≠ [] → SomeAlternative (· ≠ .ok false) format query document) := by
  rw [compileFor] at h
  rw [Matching.holds_toDocument document (ne_nil_of_mem_any h), Outcome.and_eq_true_iff,
    Outcome.all_eq_true_iff] at hm
  obtain ⟨hall, hany⟩ := hm
  refine ⟨fun node hn => ?_, fun hex => ?_⟩
  · obtain ⟨hbound, ⟨constraints, hown⟩, hitems⟩ := exists_compile_of_mem h hn
    refine ⟨?_, fun entries hi => ?_⟩
    · refine alone_ne_false_of_clauses hbound.category hown (fun constraint hc => ?_)
        (hne node hn).1
      obtain ⟨whole, hin, hw, hmem⟩ :=
        exists_clause_of_pushes h ⟨node, hn, rfl, constraints, hown, hc⟩
      exact ⟨whole, hin, hw, hall _ hmem⟩
    · obtain ⟨conjuncts, hconj⟩ := hitems _ hi
      have hoists : Hoists (.ofFormat format) query .and node.path conjuncts :=
        ⟨node, hn, rfl, entries, hi, hconj⟩
      refine alone_ne_false_of_clauses hbound.category hconj (fun constraint hc => ?_)
        ((hne node hn).2 _ hi)
      exact ⟨constraint, Within.refl _, hoists.emitted constraint hc,
        hall _ (mem_all_of_hoists h hoists hc)⟩
  · rw [Matching.alternativesHold, if_neg (by simpa using hex)] at hany
    obtain ⟨alternative, hmem, htrue⟩ := Outcome.exists_of_any_eq_true hany
    obtain ⟨combinator, path, conjuncts, hd, hnil, hoists, rfl⟩ := (mem_any_iff h).1 hmem
    obtain ⟨node, hn, rfl, entries, hi, hconj⟩ := id hoists
    obtain ⟨hbound, -, -⟩ := exists_compile_of_mem h hn
    refine ⟨node, hn, combinator, entries, conjuncts, hi, hd, hconj, hnil, ?_⟩
    rw [Outcome.all_map, Outcome.all_eq_true_iff] at htrue
    refine alone_ne_false_of_clauses hbound.category hconj (fun constraint hc => ?_)
      ((hne node hn).2 _ hi)
    exact ⟨constraint, Within.refl _, hoists.emitted constraint hc, htrue constraint hc⟩

theorem tagQuery_refutes_no_entry :
    EachRequired (· ≠ .ok false) tagFormat tagQuery tagDocument ∧
      SomeAlternative (· ≠ .ok false) tagFormat tagQuery tagDocument := by
  have hne : ∀ node ∈ terminalNodes (.ofFormat tagFormat) tagQuery,
      containsAllOfNothing ∉ node.ownEntries ∧
        ∀ item ∈ node.items, containsAllOfNothing ∉ item.2 := by
    rw [forall_terminalNodes_tagQuery, forall_items_tagNode, ownEntries_tagNode]
    simp [containsAllOfNothing, Operator.name]
  have hholds : Matching.holds tagDocument tagFilter.toDocument = .ok true := by cbv
  have h := holds_refutes_no_entry compileFor_tagQuery hne hholds
  exact ⟨h.1, h.2 (by simp [tagFilter])⟩

end Query

end SchemaQuery
