import SchemaQuery.Proofs.Envelopes

/-!
# No requirement is added

Where the entries of a query hold one by one, the compiled filter holds of the document
(`holds_of_entries_alone`), as long as every path reaches one value at most and the entries that are
merged do not ask for two elements: these would have to be the same element after merging. Merging
keeps what the operators say of the values (`mergeClosed_settled`), and as the envelopes of one
entry stay in order, so does the first error that an alternative could raise
(`evaluates_of_settled`).
-/

namespace SchemaQuery

open Matching (Outcome verdict clauseHolds)

namespace Constraint

variable {values : List Json}

/-! ## Settled constraints -/

/-- The operators other than the envelope have outcomes with the property, and the body of the
envelope is one of those that are expected. -/
structure Settled (Q : Outcome → Prop) (values : List Json) (expected : Json → Prop)
    (constraint : Constraint) : Prop where
  emitted : Emitted constraint
  plain : ∀ key value, key ≠ elemMatchKey → Entries.get? constraint key = some value →
    Q (verdict values (key, value))
  envelope : ∀ value, constraint.envelope? = some value → expected value

/-- Merging settled constraints is settled, if the expected envelopes reject each other. -/
theorem mergeClosed_settled {Q : Outcome → Prop} (hQ : Outcome.Conjunctive Q)
    (hv : values.length ≤ 1) {expected : Json → Prop}
    (hr : ∀ value other, expected value → expected other →
      collides elemMatchKey (some value) other = true) :
    MergeClosed (Settled Q values expected) := by
  intro target fragment merged ht hf h
  have hreg := hf.emitted.regular
  refine ⟨mergeClosed_emitted ht.emitted hf.emitted h, fun key value hk hget => ?_,
    fun value hget => ?_⟩
  · rcases get?_merge?_cases hreg h hget with hget | hget | ⟨existing, incoming, he, hi, hc, rfl⟩
    · exact ht.plain key value hk hget
    · exact hf.plain key value hk hget
    · have hx := ht.plain key existing hk he
      have hy := hf.plain key incoming hk hi
      rcases collides_some_eq_false_iff.1 hc with ⟨hkey, -⟩ | ⟨hl, items, others, rfl, rfl⟩
      · exact absurd hkey hk
      · rcases List.mem_cons.1 hl with rfl | hl
        · exact hQ.verdict_all_append hv hx hy
        · rw [List.mem_singleton] at hl
          subst hl
          exact hQ.verdict_nin_append hx hy
  · rcases get?_merge?_cases hreg h hget with hget | hget | ⟨existing, incoming, he, hi, hc, -⟩
    · exact ht.envelope value hget
    · exact hf.envelope value hget
    · rw [hr existing incoming (ht.envelope existing he) (hf.envelope incoming hi)] at hc
      cases hc

variable {expected : Json → Prop} {constraint : Constraint}

/-- A settled constraint has the property if its envelope has. -/
theorem Settled.all {Q : Outcome → Prop} (hQ : Outcome.Conjunctive Q)
    (h : Settled Q values expected constraint)
    (he : ∀ value, constraint.envelope? = some value → Q (verdict values (elemMatchKey, value))) :
    Q (Outcome.all (verdict values) constraint) := by
  refine hQ.all fun ⟨key, value⟩ hm => ?_
  have hget : Entries.get? constraint key = some value :=
    Entries.get?_eq_some_of_mem h.emitted.nodup hm
  by_cases hk : key = elemMatchKey
  · subst hk
    exact he value hget
  · exact h.plain key value hk hget

/-- Settled constraints can be evaluated one after the other if their envelopes can. -/
theorem evaluates_of_settled {conjuncts : List Constraint}
    (h : ∀ constraint ∈ conjuncts, Settled Outcome.Evaluates values expected constraint)
    (he : Outcome.Evaluates (Outcome.all (fun value => verdict values (elemMatchKey, value))
      (conjuncts.filterMap envelope?))) :
    Outcome.Evaluates (Outcome.all (Outcome.all (verdict values)) conjuncts) := by
  have hQ := Outcome.conjunctive_evaluates
  induction conjuncts with
  | nil => exact Outcome.evaluates_ok true
  | cons constraint rest ih =>
    rw [List.forall_mem_cons] at h
    rw [Outcome.all_cons]
    cases henv : constraint.envelope? with
    | none =>
      rw [List.filterMap_cons_none henv] at he
      have hfirst := h.1.all hQ fun value hval => by rw [henv] at hval; cases hval
      exact hQ.and hfirst (ih h.2 he)
    | some body =>
      rw [List.filterMap_cons_some henv, Outcome.all_cons] at he
      cases hb : verdict values (elemMatchKey, body) with
      | error error =>
        rw [hb] at he
        exact absurd he (Outcome.not_evaluates_error error)
      | ok holds =>
        obtain ⟨whole, hwhole⟩ := h.1.all hQ fun value hval => by
          rw [henv] at hval
          cases hval
          exact ⟨holds, hb⟩
        rw [hwhole]
        cases whole with
        | false => exact Outcome.evaluates_ok false
        | true =>
          -- A clause that holds has an envelope that holds, so the next ones are reached.
          have hmem := Entries.mem_of_get?_eq_some henv
          rw [Outcome.all_eq_true_iff.1 hwhole _ hmem] at he
          exact ih h.2 he

end Constraint

namespace Query

open Constraint (envelope? Settled fragmentsOf)

/-! ## Entries that have outcomes alone -/

variable {format : Format} {query document : Json} {path : String} {category : Category}

/-- What an entry alone says of the operators that it stands for. -/
theorem Alone.cases {Q : Outcome → Prop} {entry : String × Json}
    (h : Alone Q format document path entry)
    (hp : (TypeMap.ofFormat format).get? path = some category)
    (hpath : isOperatorKey path = false) {fragments : List Constraint}
    (hok : fragmentsOf path category entry = .ok fragments) :
    (∃ key value, key ≠ elemMatchKey ∧ fragments = [[(key, value)]] ∧
      Q (verdict (Path.resolve document path) (key, value))) ∨
    (∃ bodies : List Json, fragments = bodies.map (fun body => [(elemMatchKey, body)])) ∧
      Q (Outcome.all (fun body => verdict (Path.resolve document path) (elemMatchKey, body))
        (fragments.filterMap envelope?)) := by
  have hall : Q (Outcome.all (Outcome.all (verdict (Path.resolve document path))) fragments) := by
    rw [alone_iff hp hok, Outcome.all_map] at h
    rw [Outcome.all_congr fun fragment hf => Matching.holds_clause hpath
      (Constraint.emitted_fragmentsOf hok fragment hf).conditions] at h
    exact h
  rcases Constraint.fragmentsOf_cases hok with ⟨key, value, hk, rfl⟩ | ⟨bodies, rfl⟩
  · simp only [Outcome.all_singleton] at hall
    exact .inl ⟨key, value, hk, rfl, hall⟩
  · refine .inr ⟨⟨bodies, rfl⟩, ?_⟩
    simp only [Outcome.all_map, Outcome.all_singleton] at hall
    rw [Constraint.filterMap_envelope?_map]
    exact hall

/-- On a path that reads as an operator, only entries that ask nothing can be evaluated. -/
theorem compile_eq_nil_of_operatorKey {Q : Outcome → Prop} (hQ : ∀ error, ¬ Q (.error error))
    (hp : (TypeMap.ofFormat format).get? path = some category)
    (hpath : isOperatorKey path = true) {entries : List (String × Json)}
    {conjuncts : List Constraint} (hc : Constraint.compile path category entries = .ok conjuncts)
    (h : ∀ entry ∈ entries, Alone Q format document path entry) : conjuncts = [] := by
  obtain ⟨lists, hm, rfl⟩ := Constraint.compile_eq_ok_iff.1 hc
  have hnil : lists.flatten = [] := by
    rw [List.flatten_eq_nil_iff]
    intro fragments hf
    obtain ⟨entry, he, hok⟩ := Results.exists_mem_of_mem_mapM hm hf
    have halone := h entry he
    rw [alone_iff hp hok] at halone
    cases fragments with
    | nil => rfl
    | cons fragment rest =>
      obtain ⟨error, herror⟩ :=
        Matching.holds_clause_of_operatorKey document fragment hpath
      rw [List.map_cons, Outcome.all_cons, herror] at halone
      exact absurd halone (hQ error)
  rw [hnil]
  rfl

/-- The bodies of the envelopes that entries ask for. -/
def EnvelopeOf (path : String) (category : Category) (entries : List (String × Json))
    (value : Json) : Prop :=
  ∃ entry ∈ entries, ∃ fragments, fragmentsOf path category entry = .ok fragments ∧
    value ∈ fragments.filterMap envelope?

theorem EnvelopeOf.collides (hp : (TypeMap.ofFormat format).get? path = some category)
    {entries : List (String × Json)} (hcount : entries.countP (asksEnvelope format path) ≤ 1)
    {value other : Json} (h : EnvelopeOf path category entries value)
    (h' : EnvelopeOf path category entries other) :
    Constraint.collides elemMatchKey (some value) other = true := by
  obtain ⟨entry, he, fragments, hok, hv⟩ := h
  obtain ⟨entry', he', fragments', hok', hv'⟩ := h'
  have hasks := (asksEnvelope_iff hp hok).2 (List.ne_nil_of_mem hv)
  have hasks' := (asksEnvelope_iff hp hok').2 (List.ne_nil_of_mem hv')
  obtain rfl := eq_of_countP_le_one hcount he he' hasks hasks'
  rw [hok] at hok'
  cases hok'
  obtain ⟨first, h₁, hfirst⟩ := List.mem_filterMap.1 hv
  obtain ⟨second, h₂, hsecond⟩ := List.mem_filterMap.1 hv'
  exact Constraint.envelopes_collide hok h₁ h₂ hfirst hsecond

theorem EnvelopeOf.holds (hp : (TypeMap.ofFormat format).get? path = some category)
    (hpath : isOperatorKey path = false) {entries : List (String × Json)}
    (h : ∀ entry ∈ entries, Alone (· = .ok true) format document path entry) {value : Json}
    (hv : EnvelopeOf path category entries value) :
    verdict (Path.resolve document path) (elemMatchKey, value) = .ok true := by
  obtain ⟨entry, he, fragments, hok, hmem⟩ := hv
  rcases (h entry he).cases hp hpath hok with ⟨key, other, hk, rfl, -⟩ | ⟨-, hall⟩
  · obtain ⟨fragment, hf, hsome⟩ := List.mem_filterMap.1 hmem
    rw [List.mem_singleton] at hf
    subst hf
    have hnone : envelope? [(key, other)] = none := if_neg hk
    rw [hnone] at hsome
    cases hsome
  · exact Outcome.all_eq_true_iff.1 hall value hmem

theorem mergeClosed_envelopeOf {Q : Outcome → Prop} (hQ : Outcome.Conjunctive Q)
    (hp : (TypeMap.ofFormat format).get? path = some category)
    (hv : (Path.resolve document path).length ≤ 1) {entries : List (String × Json)}
    (hcount : entries.countP (asksEnvelope format path) ≤ 1) :
    Constraint.MergeClosed
      (Settled Q (Path.resolve document path) (EnvelopeOf path category entries)) :=
  Constraint.mergeClosed_settled hQ hv fun _ _ hx hy => hx.collides hp hcount hy

/-- Entries that have outcomes alone compile to settled constraints. -/
theorem settled_of_compile {Q : Outcome → Prop} (hQ : Outcome.Conjunctive Q)
    (hp : (TypeMap.ofFormat format).get? path = some category)
    (hpath : isOperatorKey path = false) (hv : (Path.resolve document path).length ≤ 1)
    {entries siblings : List (String × Json)} (hsub : ∀ entry ∈ entries, entry ∈ siblings)
    (hcount : siblings.countP (asksEnvelope format path) ≤ 1) {conjuncts : List Constraint}
    (hc : Constraint.compile path category entries = .ok conjuncts)
    (h : ∀ entry ∈ entries, Alone Q format document path entry) :
    ∀ constraint ∈ conjuncts,
      Settled Q (Path.resolve document path) (EnvelopeOf path category siblings) constraint := by
  obtain ⟨lists, hm, rfl⟩ := Constraint.compile_eq_ok_iff.1 hc
  refine (mergeClosed_envelopeOf hQ hp hv hcount).foldAll_nil fun fragment hfragment => ?_
  obtain ⟨entry, he, fragments, hok, hf⟩ := Constraint.exists_entry_of_mem_flatten hm hfragment
  refine ⟨Constraint.emitted_fragmentsOf hok fragment hf, fun key value hk hget => ?_,
    fun value hget => ⟨entry, hsub entry he, fragments, hok, ?_⟩⟩
  · rcases (h entry he).cases hp hpath hok with ⟨other, operand, -, rfl, hq⟩ | ⟨⟨bodies, rfl⟩, -⟩
    · rw [List.mem_singleton] at hf
      subst hf
      have hmem := Entries.mem_of_get?_eq_some hget
      rw [List.mem_singleton] at hmem
      cases hmem
      exact hq
    · obtain ⟨body, -, rfl⟩ := List.mem_map.1 hf
      have hmem := Entries.mem_of_get?_eq_some hget
      rw [List.mem_singleton] at hmem
      cases hmem
      exact absurd rfl hk
  · exact List.mem_filterMap.2 ⟨fragment, hf, hget⟩

/-- An item whose entries can be evaluated alone can be evaluated. -/
theorem evaluates_item (hp : (TypeMap.ofFormat format).get? path = some category)
    (hv : (Path.resolve document path).length ≤ 1) {entries : List (String × Json)}
    (hcount : entries.countP (asksEnvelope format path) ≤ 1) {conjuncts : List Constraint}
    (hc : Constraint.compile path category entries = .ok conjuncts)
    (h : ∀ entry ∈ entries, Alone Outcome.Evaluates format document path entry) :
    Outcome.Evaluates (Outcome.all (clauseHolds document) (conjuncts.map (Clause.mk path))) := by
  cases hpath : isOperatorKey path with
  | true =>
    rw [compile_eq_nil_of_operatorKey Outcome.not_evaluates_error hp hpath hc h]
    exact Outcome.evaluates_ok true
  | false =>
    have hsettled := settled_of_compile Outcome.conjunctive_evaluates hp hpath hv
      (fun _ he => he) hcount hc h
    rw [Outcome.all_map, Outcome.all_congr fun constraint hcon =>
      Matching.holds_clause hpath (hsettled constraint hcon).emitted.conditions]
    refine Constraint.evaluates_of_settled hsettled ?_
    obtain ⟨lists, hm, rfl⟩ := Constraint.compile_eq_ok_iff.1 hc
    have hcases := filterMap_envelope?_eq hp hm hcount
    have hrej : Constraint.Rejecting (lists.flatten.filterMap envelope?) := by
      rcases hcases with hnil | ⟨entry, -, fragments, hok, heq⟩
      · rw [hnil]
        exact List.Pairwise.nil
      · rw [heq]
        exact Constraint.rejecting_fragmentsOf hok
    rw [Constraint.filterMap_envelope?_compile hm hrej]
    rcases hcases with hnil | ⟨entry, he, fragments, hok, heq⟩
    · rw [hnil]
      exact Outcome.evaluates_ok true
    · rw [heq]
      rcases (h entry he).cases hp hpath hok with ⟨key, value, hk, rfl, -⟩ | ⟨-, hall⟩
      · have hnone : [[(key, value)]].filterMap envelope? = [] :=
          List.filterMap_cons_none (if_neg hk)
        rw [hnone]
        exact Outcome.evaluates_ok true
      · exact hall

/-! ## The whole filter -/

theorem clauseHolds_of_settled {path : String} {category : Category}
    (hp : (TypeMap.ofFormat format).get? path = some category)
    (hpath : isOperatorKey path = false) {entries : List (String × Json)}
    (h : ∀ entry ∈ entries, Alone (· = .ok true) format document path entry)
    {constraint : Constraint}
    (hs : Settled (· = .ok true) (Path.resolve document path) (EnvelopeOf path category entries)
      constraint) :
    clauseHolds document ⟨path, constraint⟩ = .ok true := by
  rw [Matching.holds_clause hpath hs.emitted.conditions]
  refine hs.all Outcome.conjunctive_eq_true fun value hval => ?_
  exact (hs.envelope value hval).holds hp hpath h

/-- An item whose entries hold alone holds. -/
theorem item_holds (hp : (TypeMap.ofFormat format).get? path = some category)
    (hv : (Path.resolve document path).length ≤ 1) {entries : List (String × Json)}
    (hcount : entries.countP (asksEnvelope format path) ≤ 1) {conjuncts : List Constraint}
    (hc : Constraint.compile path category entries = .ok conjuncts)
    (h : ∀ entry ∈ entries, Alone (· = .ok true) format document path entry) :
    ∀ constraint ∈ conjuncts, clauseHolds document ⟨path, constraint⟩ = .ok true := by
  intro constraint hcon
  cases hpath : isOperatorKey path with
  | true =>
    rw [compile_eq_nil_of_operatorKey (fun _ hq => nomatch hq) hp hpath hc h] at hcon
    cases hcon
  | false =>
    exact clauseHolds_of_settled hp hpath h
      (settled_of_compile Outcome.conjunctive_eq_true hp hpath hv (fun _ he => he) hcount hc h
        constraint hcon)

/-- The own entries of all nodes on a path. -/
def entriesAt (types : TypeMap) (query : Json) (path : String) : List (String × Json) :=
  ((terminalNodes types query).filter (·.path = path)).flatMap QueryNode.ownEntries

theorem mem_entriesAt {types : TypeMap} {path : String} {entry : String × Json} :
    entry ∈ entriesAt types query path ↔
      ∃ node ∈ terminalNodes types query, node.path = path ∧ entry ∈ node.ownEntries := by
  simp [entriesAt, and_assoc]

/-- On every path at most one of the entries outside of combinators, and within every item at most
one of its entries, asks for an element that satisfies conditions. -/
def SingleEnvelopes (format : Format) (query : Json) : Prop :=
  ∀ node ∈ terminalNodes (.ofFormat format) query,
    (entriesAt (.ofFormat format) query node.path).countP (asksEnvelope format node.path) ≤ 1 ∧
    ∀ item ∈ node.items, item.2.countP (asksEnvelope format node.path) ≤ 1

/-- Nodes on one path have one category. -/
theorem category_eq {types : TypeMap} {node other : QueryNode} (h : node.Bound types)
    (h' : other.Bound types) (hpath : other.path = node.path) : other.category = node.category := by
  have hget := h'.category
  rw [hpath, h.category] at hget
  exact (Option.some.inj hget).symm

/-- What is pushed on the path of a node is settled if the entries on the path hold alone. -/
theorem settled_of_pushes {filter : Filter} (h : compile (.ofFormat format) query = .ok filter)
    (hrequired : EachRequired (· = .ok true) format query document) {node : QueryNode}
    (hn : node ∈ terminalNodes (.ofFormat format) query)
    (hpath : isOperatorKey node.path = false)
    (hsingle : (Path.resolve document node.path).length ≤ 1)
    (hcount : (entriesAt (.ofFormat format) query node.path).countP
      (asksEnvelope format node.path) ≤ 1)
    {constraint : Constraint} (hc : Pushes (.ofFormat format) query node.path constraint) :
    Settled (· = .ok true) (Path.resolve document node.path)
      (EnvelopeOf node.path node.category (entriesAt (.ofFormat format) query node.path))
      constraint := by
  obtain ⟨other, ho, hpeq, constraints, hok, hm⟩ := hc
  obtain ⟨hbound, -, -⟩ := exists_compile_of_mem h hn
  obtain ⟨hother, -, -⟩ := exists_compile_of_mem h ho
  rw [hpeq, category_eq hbound hother hpeq] at hok
  have hsub : ∀ entry ∈ other.ownEntries,
      entry ∈ entriesAt (.ofFormat format) query node.path :=
    fun entry he => mem_entriesAt.2 ⟨other, ho, hpeq, he⟩
  have halone : ∀ entry ∈ other.ownEntries,
      Alone (· = .ok true) format document node.path entry := by
    rw [← hpeq]
    exact (hrequired other ho).1
  exact settled_of_compile Outcome.conjunctive_eq_true hbound.category hpath hsingle hsub hcount
    hok halone constraint hm

/-- What is pushed on a path holds after merging if the entries on the path hold alone. -/
theorem pushed_holds {filter : Filter} (h : compile (.ofFormat format) query = .ok filter)
    (hsingle : ∀ node ∈ terminalNodes (.ofFormat format) query,
      (Path.resolve document node.path).length ≤ 1)
    (henvelope : SingleEnvelopes format query)
    (hrequired : EachRequired (· = .ok true) format query document) {path : String}
    {pushed : List Constraint}
    (hpushed : ∀ constraint ∈ pushed, Pushes (.ofFormat format) query path constraint) :
    ∀ constraint ∈ Constraint.foldAll [] pushed,
      clauseHolds document ⟨path, constraint⟩ = .ok true := by
  cases pushed with
  | nil => exact fun _ hc => nomatch hc
  | cons first rest =>
    obtain ⟨node, hn, rfl, constraints, hok, hm⟩ := hpushed first List.mem_cons_self
    obtain ⟨hbound, -, -⟩ := exists_compile_of_mem h hn
    have hpath : isOperatorKey node.path = false := by
      rw [← Bool.not_eq_true]
      intro hk
      rw [compile_eq_nil_of_operatorKey (fun _ hq => nomatch hq) hbound.category hk hok
        (hrequired node hn).1] at hm
      cases hm
    have hall : ∀ entry ∈ entriesAt (.ofFormat format) query node.path,
        Alone (· = .ok true) format document node.path entry := by
      intro entry he
      obtain ⟨other, ho, hpeq, hmem⟩ := mem_entriesAt.1 he
      exact hpeq ▸ (hrequired other ho).1 entry hmem
    have hclosed := mergeClosed_envelopeOf Outcome.conjunctive_eq_true hbound.category
      (hsingle node hn) (henvelope node hn).1
    have hsettled := hclosed.foldAll_nil fun constraint hc => settled_of_pushes h hrequired hn hpath
      (hsingle node hn) (henvelope node hn).1 (hpushed constraint hc)
    exact fun constraint hc =>
      clauseHolds_of_settled hbound.category hpath hall (hsettled constraint hc)

/-- Compilation adds no requirement: if the entries outside of alternatives hold alone, and those of
some alternative do if there is one, then the filter holds. Every path that is used is to reach one
value at most, no entry of an item may raise an error alone, and entries that are merged must not
each ask for an element of their own. -/
theorem holds_of_entries_alone {filter : Filter} (h : compileFor format query = .ok filter)
    (hsingle : ∀ node ∈ terminalNodes (.ofFormat format) query,
      (Path.resolve document node.path).length ≤ 1)
    (henvelope : SingleEnvelopes format query)
    (hevaluates : ∀ node ∈ terminalNodes (.ofFormat format) query, ∀ item ∈ node.items,
      ∀ entry ∈ item.2, Alone Outcome.Evaluates format document node.path entry)
    (hrequired : EachRequired (· = .ok true) format query document)
    (hany : filter.any = [] ∨ SomeAlternative (· = .ok true) format query document) :
    Matching.holds document filter.toDocument = .ok true := by
  rw [compileFor] at h
  rw [Matching.holds_toDocument document (ne_nil_of_mem_any h), Outcome.and_eq_true_iff,
    Outcome.all_eq_true_iff]
  constructor
  · rintro ⟨path, constraint⟩ hm
    rcases mem_all_cases h hm with ⟨conjuncts, hh, hc⟩ | ⟨pushed, hpushed, hc⟩
    · obtain ⟨node, hn, rfl, entries, hi, hok⟩ := hh
      obtain ⟨hbound, -, -⟩ := exists_compile_of_mem h hn
      exact item_holds hbound.category (hsingle node hn) ((henvelope node hn).2 _ hi) hok
        ((hrequired node hn).2 entries hi) constraint hc
    · exact pushed_holds h hsingle henvelope hrequired hpushed constraint hc
  · rw [Matching.alternativesHold]
    rcases hany with hnil | ⟨node, hn, combinator, entries, conjuncts, hi, hd, hok, hne, halone⟩
    · rw [hnil]
      rfl
    · obtain ⟨hbound, -, -⟩ := exists_compile_of_mem h hn
      have hmem : conjuncts.map (Clause.mk node.path) ∈ filter.any :=
        (mem_any_iff h).2 ⟨combinator, node.path, conjuncts, hd, hne,
          ⟨node, hn, rfl, entries, hi, hok⟩, rfl⟩
      rw [if_neg (by simpa using List.ne_nil_of_mem hmem)]
      refine (Outcome.any_eq_true_iff fun alternative ha => ?_).2 ⟨_, hmem, ?_⟩
      · obtain ⟨_, _, others, -, -, ⟨other, ho, rfl, items, hitem, hconj⟩, rfl⟩ :=
          (mem_any_iff h).1 ha
        obtain ⟨hother, -, -⟩ := exists_compile_of_mem h ho
        exact evaluates_item hother.category (hsingle other ho) ((henvelope other ho).2 _ hitem)
          hconj (hevaluates other ho _ hitem)
      · rw [Outcome.all_map, Outcome.all_eq_true_iff]
        exact item_holds hbound.category (hsingle node hn) ((henvelope node hn).2 _ hi) hok halone

theorem tagFilter_holds_of_entries_alone :
    Matching.holds tagDocument tagFilter.toDocument = .ok true := by
  refine holds_of_entries_alone compileFor_tagQuery ?_ ?_ ?_ ?_ (.inr ?_)
  · rw [forall_terminalNodes_tagQuery]
    cbv
  · rw [SingleEnvelopes, forall_terminalNodes_tagQuery, forall_items_tagNode]
    exact ⟨by cbv, by cbv, by cbv⟩
  · rw [forall_terminalNodes_tagQuery, forall_items_tagNode, List.forall_mem_singleton,
      List.forall_mem_singleton]
    exact ⟨⟨_, by cbv, _, by cbv⟩, ⟨_, by cbv, _, by cbv⟩⟩
  · rw [EachRequired, forall_terminalNodes_tagQuery, ownEntries_tagNode, List.forall_mem_cons,
      List.forall_mem_singleton]
    refine ⟨⟨⟨_, by cbv, by cbv⟩, ⟨_, by cbv, by cbv⟩⟩, fun entries hi => ?_⟩
    simp [items_tagNode] at hi
  · refine ⟨tagNode, by simp [terminalNodes_tagQuery], .or, [("not_contains", .str "z")],
      [[("$nin", .arr [.str "z"])]], by simp [items_tagNode], rfl, by cbv, by simp, ?_⟩
    rw [List.forall_mem_singleton]
    exact ⟨_, by cbv, by cbv⟩

end Query

end SchemaQuery
