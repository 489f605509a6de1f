import Mathlib
import SchemaQuery.Proofs.Compilation
import SchemaQuery.Proofs.Evaluation

/-!
# The parts of a compiled query

The clauses of a compiled filter come from the own entries of the nodes, merged path by path, and
from the items of combinators (`exists_clause_of_pushes`, `mem_all_cases`, `mem_any_iff`). An entry
that is compiled alone gives its fragments as clauses (`alone_iff`).
-/

namespace SchemaQuery.Query

open Assembly (Step)
open Constraint (Within Emitted)
open Matching (Outcome)

/-! ## Pushes and hoists -/

/-- A constraint that the own entries of the nodes on a path ask for. -/
def Pushes (types : TypeMap) (query : Json) (path : String) (constraint : Constraint) : Prop :=
  ∃ node ∈ terminalNodes types query, node.path = path ∧ ∃ constraints,
    Constraint.compile node.path node.category node.ownEntries = .ok constraints ∧
      constraint ∈ constraints

/-- What an item under a combinator on a path asks for. -/
def Hoists (types : TypeMap) (query : Json) (combinator : Combinator) (path : String)
    (conjuncts : List Constraint) : Prop :=
  ∃ node ∈ terminalNodes types query, node.path = path ∧ ∃ entries,
    (combinator, entries) ∈ node.items ∧
      Constraint.compile node.path node.category entries = .ok conjuncts

/-- A compiled query is a run whose pushes and hoists are those of the nodes. -/
theorem exists_steps {types : TypeMap} {query : Json} {filter : Filter}
    (h : compile types query = .ok filter) :
    ∃ steps : List Step, filter = (Assembly.empty.run steps).finish ∧
      (∀ path constraint, .push path constraint ∈ steps ↔ Pushes types query path constraint) ∧
      ∀ combinator path conjuncts, .hoist combinator path conjuncts ∈ steps ↔
        Hoists types query combinator path conjuncts := by
  obtain ⟨found, lists, hn, hm, rfl⟩ := compile_eq_ok_iff.1 h
  have ht := terminalNodes_eq hn
  refine ⟨lists.flatten, rfl, fun path constraint => ⟨fun hs => ?_, ?_⟩,
    fun combinator path conjuncts => ⟨fun hs => ?_, ?_⟩⟩
  · obtain ⟨list, hl, hs⟩ := List.mem_flatten.1 hs
    obtain ⟨node, hnode, hok⟩ := Results.exists_mem_of_mem_mapM hm hl
    rcases mem_nodeSteps_cases hok hs with ⟨_, _, _, _, _, he⟩ | ⟨constraints, _, hc, hm, he⟩
    · cases he
    · cases he
      exact ⟨node, ht ▸ hnode, rfl, constraints, hc, hm⟩
  · rintro ⟨node, hnode, rfl, constraints, hc, hmem⟩
    obtain ⟨list, hl, hok⟩ := Results.exists_mem_of_mapM hm (ht ▸ hnode)
    obtain ⟨hoists, others, -, ho, rfl⟩ := nodeSteps_eq_ok_iff.1 hok
    rw [hc] at ho
    cases ho
    exact List.mem_flatten_of_mem hl (List.mem_append_right _ (List.mem_map_of_mem hmem))
  · obtain ⟨list, hl, hs⟩ := List.mem_flatten.1 hs
    obtain ⟨node, hnode, hok⟩ := Results.exists_mem_of_mem_mapM hm hl
    rcases mem_nodeSteps_cases hok hs with ⟨_, entries, _, hi, hc, he⟩ | ⟨_, _, _, _, he⟩
    · cases he
      exact ⟨node, ht ▸ hnode, rfl, entries, hi, hc⟩
    · cases he
  · rintro ⟨node, hnode, rfl, entries, hi, hc⟩
    obtain ⟨list, hl, hok⟩ := Results.exists_mem_of_mapM hm (ht ▸ hnode)
    obtain ⟨others, ho, hmem⟩ := exists_compile_item hok hi
    rw [hc] at ho
    cases ho
    exact List.mem_flatten_of_mem hl hmem

/-- What the nodes push is well formed. -/
theorem Pushes.emitted {types : TypeMap} {query : Json} {path : String} {constraint : Constraint}
    (h : Pushes types query path constraint) : Emitted constraint := by
  obtain ⟨node, -, -, constraints, hc, hm⟩ := h
  exact Constraint.emitted_of_compile hc constraint hm

theorem Hoists.emitted {types : TypeMap} {query : Json} {combinator : Combinator} {path : String}
    {conjuncts : List Constraint} (h : Hoists types query combinator path conjuncts) :
    ∀ constraint ∈ conjuncts, Emitted constraint := by
  obtain ⟨node, -, -, entries, -, hc⟩ := h
  exact Constraint.emitted_of_compile hc

variable {types : TypeMap} {query : Json} {filter : Filter}

/-- A clause that must hold comes from an item under `$and`, or is one of the objects into which the
constraints pushed on its path are folded. -/
theorem mem_all_cases (h : compile types query = .ok filter) {clause : Clause}
    (hm : clause ∈ filter.all) :
    (∃ conjuncts, Hoists types query .and clause.path conjuncts ∧
      clause.constraint ∈ conjuncts) ∨
    ∃ pushed, (∀ constraint ∈ pushed, Pushes types query clause.path constraint) ∧
      clause.constraint ∈ Constraint.foldAll [] pushed := by
  obtain ⟨steps, rfl, hpush, hhoist⟩ := exists_steps h
  rcases Assembly.mem_all_finish.1 hm with hm | hm
  · right
    rw [Assembly.plainAt_run] at hm
    exact ⟨_, fun constraint hc => (hpush _ _).1 (Assembly.mem_pushed_iff.1 hc), hm⟩
  · left
    rw [Assembly.hoisted_run, Assembly.hoisted, Assembly.empty, List.filterMap_nil,
      List.nil_append, List.mem_flatMap] at hm
    obtain ⟨step, hs, hstep⟩ := hm
    cases step with
    | push => cases hstep
    | hoist combinator path conjuncts =>
      rw [Step.hoistedClauses] at hstep
      split at hstep
      · cases hstep
      · rename_i hd
        obtain ⟨constraint, hc, rfl⟩ := List.mem_map.1 hstep
        cases combinator with
        | and => exact ⟨conjuncts, (hhoist _ _ _).1 hs, hc⟩
        | _ => exact absurd rfl hd

/-- What the nodes push on a path lies within a clause that must hold. -/
theorem exists_clause_of_pushes (h : compile types query = .ok filter) {path : String}
    {constraint : Constraint} (hp : Pushes types query path constraint) :
    ∃ whole, Within constraint whole ∧ Emitted whole ∧ ⟨path, whole⟩ ∈ filter.all := by
  obtain ⟨steps, rfl, hpush, -⟩ := exists_steps h
  have hpushed : ∀ other ∈ steps.filterMap (Step.pushedAt path), Emitted other :=
    fun other ho => ((hpush _ _).1 (Assembly.mem_pushed_iff.1 ho)).emitted
  have hmem : constraint ∈ steps.filterMap (Step.pushedAt path) :=
    Assembly.mem_pushed_iff.2 ((hpush _ _).2 hp)
  obtain ⟨whole, hw, hwithin⟩ :=
    Constraint.exists_within_foldAll (fun other ho => (hpushed other ho).regular) [] hmem
  refine ⟨whole, hwithin, Constraint.mergeClosed_emitted.foldAll_nil hpushed whole hw, ?_⟩
  refine Assembly.mem_all_finish.2 (.inl ?_)
  rw [Assembly.plainAt_run]
  exact hw

/-- The constraints of an item under `$and` are clauses that must hold. -/
theorem mem_all_of_hoists (h : compile types query = .ok filter) {path : String}
    {conjuncts : List Constraint} (hh : Hoists types query .and path conjuncts)
    {constraint : Constraint} (hc : constraint ∈ conjuncts) : ⟨path, constraint⟩ ∈ filter.all := by
  obtain ⟨steps, rfl, -, hhoist⟩ := exists_steps h
  refine Assembly.mem_all_finish.2 (.inr ?_)
  rw [Assembly.hoisted_run, List.mem_append, List.mem_flatMap]
  exact .inr ⟨_, (hhoist _ _ _).2 hh, List.mem_map_of_mem hc⟩

/-- The alternatives are the items under `$or` and `$either` that ask for something. -/
theorem mem_any_iff (h : compile types query = .ok filter) {alternative : List Clause} :
    alternative ∈ filter.any ↔
      ∃ combinator path conjuncts, combinator.isDisjunction = true ∧ conjuncts ≠ [] ∧
        Hoists types query combinator path conjuncts ∧
        alternative = conjuncts.map (Clause.mk path) := by
  obtain ⟨steps, rfl, -, hhoist⟩ := exists_steps h
  rw [Assembly.finish, Assembly.any_run, Assembly.empty, List.nil_append, List.mem_filterMap]
  constructor
  · rintro ⟨step, hs, hstep⟩
    cases step with
    | push => cases hstep
    | hoist combinator path conjuncts =>
      rw [Step.alternative?] at hstep
      split at hstep
      · rename_i hd
        rw [Bool.and_eq_true] at hd
        cases hstep
        exact ⟨combinator, path, conjuncts, hd.1, by simpa using hd.2, (hhoist _ _ _).1 hs, rfl⟩
      · cases hstep
  · rintro ⟨combinator, path, conjuncts, hd, hne, hh, rfl⟩
    refine ⟨_, (hhoist _ _ _).2 hh, ?_⟩
    rw [Step.alternative?, if_pos (by simpa [hd] using hne)]

theorem ne_nil_of_mem_any (h : compile types query = .ok filter) :
    ∀ alternative ∈ filter.any, alternative ≠ [] := by
  intro alternative hm
  obtain ⟨_, _, conjuncts, -, hne, -, rfl⟩ := (mem_any_iff h).1 hm
  simpa using hne

/-! ## Properties of all clauses -/

/-- An entry of a node on the path stands for the fragment, in an item or outside of combinators. -/
def Asks (types : TypeMap) (query : Json) (path : String) (fragment : Constraint) : Prop :=
  ∃ node ∈ terminalNodes types query, node.path = path ∧ ∃ entry,
    (entry ∈ node.ownEntries ∨ ∃ item ∈ node.items, entry ∈ item.2) ∧ ∃ fragments,
    Constraint.fragmentsOf node.path node.category entry = .ok fragments ∧ fragment ∈ fragments

/-- What merges keep of the fragments that a query asks for, all clauses of its filter have. -/
theorem forall_clauses (h : compile types query = .ok filter) {P : String → Constraint → Prop}
    (hP : ∀ path, Constraint.MergeClosed (P path))
    (hfragments : ∀ path fragment, Asks types query path fragment → P path fragment) :
    (∀ clause ∈ filter.all, P clause.path clause.constraint) ∧
      ∀ alternative ∈ filter.any, ∀ clause ∈ alternative, P clause.path clause.constraint := by
  have hcompile : ∀ node ∈ terminalNodes types query, ∀ entries : List (String × Json),
      (∀ entry ∈ entries, entry ∈ node.ownEntries ∨ ∃ item ∈ node.items, entry ∈ item.2) →
      ∀ conjuncts, Constraint.compile node.path node.category entries = .ok conjuncts →
      ∀ constraint ∈ conjuncts, P node.path constraint := by
    intro node hn entries he conjuncts hc
    refine (hP node.path).compile (fun entry hm fragments hok fragment hf => ?_) hc
    exact hfragments _ _ ⟨node, hn, rfl, entry, he entry hm, fragments, hok, hf⟩
  have hpushes : ∀ {path constraint}, Pushes types query path constraint → P path constraint := by
    rintro _ constraint ⟨node, hn, rfl, constraints, hc, hm⟩
    exact hcompile node hn _ (fun _ he => .inl he) constraints hc constraint hm
  have hhoists : ∀ {combinator path conjuncts}, Hoists types query combinator path conjuncts →
      ∀ constraint ∈ conjuncts, P path constraint := by
    rintro _ _ conjuncts ⟨node, hn, rfl, entries, hi, hc⟩
    exact hcompile node hn entries (fun _ he => .inr ⟨_, hi, he⟩) conjuncts hc
  constructor
  · intro clause hm
    rcases mem_all_cases h hm with ⟨conjuncts, hh, hc⟩ | ⟨pushed, hp, hc⟩
    · exact hhoists hh _ hc
    · exact (hP clause.path).foldAll_nil (fun constraint hm => hpushes (hp constraint hm)) _ hc
  · intro alternative hm
    obtain ⟨_, path, conjuncts, -, -, hh, rfl⟩ := (mem_any_iff h).1 hm
    rw [List.forall_mem_map]
    exact hhoists hh

/-! ## Entries alone -/

/-- The filter of an entry that is compiled alone at a path. -/
def compileAlone (format : Format) (path : String) (entry : String × Json) :
    Except QueryError Filter :=
  compileFor format (.entry path (.entry entry.1 entry.2))

theorem ofKey?_eq_none_of_fragmentsOf {path : String} {category : Category}
    {entry : String × Json} {fragments : List Constraint}
    (h : Constraint.fragmentsOf path category entry = .ok fragments) :
    Combinator.ofKey? entry.1 = none := by
  rw [Constraint.fragmentsOf] at h
  split at h
  · rename_i hk _
    rw [of_decide_eq_true hk]
    rfl
  · cases h
  · obtain ⟨operator, ho, -⟩ := Constraint.ofOperator_eq_ok_iff.1 h
    rw [← Operator.ofName?_eq_some_iff.1 ho]
    cases operator <;> decide

/-- Alone, an entry compiles to its fragments as clauses. -/
theorem compileAlone_eq_ok {format : Format} {path : String} {category : Category}
    (hp : (TypeMap.ofFormat format).get? path = some category) {entry : String × Json}
    {fragments : List Constraint}
    (h : Constraint.fragmentsOf path category entry = .ok fragments) :
    compileAlone format path entry = .ok ⟨fragments.map (Clause.mk path), []⟩ := by
  rw [compileAlone, compileFor, Json.entry, Json.entry, ← Json.entry,
    compile_entry hp (by simpa using ofKey?_eq_none_of_fragmentsOf h),
    Constraint.compile_singleton, h]
  rfl

/-- Compiled alone at its path, the entry has an outcome with the property on the document. -/
def Alone (Q : Outcome → Prop) (format : Format) (document : Json) (path : String)
    (entry : String × Json) : Prop :=
  ∃ filter, compileAlone format path entry = .ok filter ∧
    Q (Matching.holds document filter.toDocument)

theorem alone_iff {Q : Outcome → Prop} {format : Format} {document : Json} {path : String}
    {category : Category} (hp : (TypeMap.ofFormat format).get? path = some category)
    {entry : String × Json} {fragments : List Constraint}
    (h : Constraint.fragmentsOf path category entry = .ok fragments) :
    Alone Q format document path entry ↔
      Q (Outcome.all (Matching.clauseHolds document) (fragments.map (Clause.mk path))) := by
  rw [Alone, compileAlone_eq_ok hp h, ← Matching.holds_required]
  constructor
  · rintro ⟨_, he, hq⟩
    cases he
    exact hq
  · exact fun hq => ⟨_, rfl, hq⟩

/-- Compiled alone, the entries outside of combinators and those of the items under `$and` have
outcomes with the property. -/
def EachRequired (Q : Outcome → Prop) (format : Format) (query document : Json) : Prop :=
  ∀ node ∈ terminalNodes (.ofFormat format) query,
    (∀ entry ∈ node.ownEntries, Alone Q format document node.path entry) ∧
    ∀ entries, (.and, entries) ∈ node.items →
      ∀ entry ∈ entries, Alone Q format document node.path entry

/-- Some item under `$or` or `$either` asks for something, and compiled alone, all its entries have
outcomes with the property. -/
def SomeAlternative (Q : Outcome → Prop) (format : Format) (query document : Json) : Prop :=
  ∃ node ∈ terminalNodes (.ofFormat format) query, ∃ combinator entries conjuncts,
    (combinator, entries) ∈ node.items ∧ combinator.isDisjunction = true ∧
    Constraint.compile node.path node.category entries = .ok conjuncts ∧ conjuncts ≠ [] ∧
    ∀ entry ∈ entries, Alone Q format document node.path entry

/-! ## A query on a list -/

/-- A list of strings. -/
def tagFormat : Format := [("tags", .arrayOf .string)]

/-- A node that asks for `x` and for one of two strings, and for a size or that `z` is missing. -/
def tagNode : QueryNode where
  path := "tags"
  category := .stringArray
  body := [("contains", .str "x"), ("contains_one_of", .arr [.str "y", .str "z"]),
    ("$or", .arr [.obj [("size", .int 3)], .obj [("not_contains", .str "z")]])]
  onElement := false

def tagQuery : Json := .entry "tags" (.obj tagNode.body)

def tagFilter : Filter where
  all := [⟨"tags", [("$all", .arr [.str "x"]),
    (elemMatchKey, .entry "$in" (.arr [.str "y", .str "z"]))]⟩]
  any := [[⟨"tags", [("$size", .int 3)]⟩], [⟨"tags", [("$nin", .arr [.str "z"])]⟩]]

def tagDocument : Json := .entry "tags" (.arr [.str "x", .str "y"])

theorem compileFor_tagQuery : compileFor tagFormat tagQuery = .ok tagFilter := by cbv

theorem terminalNodes_tagQuery : terminalNodes (.ofFormat tagFormat) tagQuery = [tagNode] := by
  cbv

theorem ownEntries_tagNode : tagNode.ownEntries =
    [("contains", .str "x"), ("contains_one_of", .arr [.str "y", .str "z"])] := rfl

theorem items_tagNode : tagNode.items =
    [(.or, [("size", .int 3)]), (.or, [("not_contains", .str "z")])] := rfl

theorem forall_terminalNodes_tagQuery {P : QueryNode → Prop} :
    (∀ node ∈ terminalNodes (.ofFormat tagFormat) tagQuery, P node) ↔ P tagNode := by
  rw [terminalNodes_tagQuery, List.forall_mem_singleton]

theorem forall_items_tagNode {P : Combinator × List (String × Json) → Prop} :
    (∀ item ∈ tagNode.items, P item) ↔
      P (.or, [("size", .int 3)]) ∧ P (.or, [("not_contains", .str "z")]) := by
  rw [items_tagNode, List.forall_mem_cons, List.forall_mem_singleton]

end SchemaQuery.Query
