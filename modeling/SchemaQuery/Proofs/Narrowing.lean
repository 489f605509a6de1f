import SchemaQuery.Proofs.Parts

/-!
# Constraining one more field

An entry that is added to a query adds steps to its run. On paths that the query does not use they
leave all its clauses in place (`mem_all_of_insert`), so a document that the extended query matches
satisfies all that the query requires. The alternatives of all fields are one group, though: an
added alternative can stand in for those of the query (`added_alternative_widens`), and this is the
only way in which a document is gained (`holds_or_of_extended`).
-/

namespace SchemaQuery

/-! ## Steps on other paths -/

namespace Assembly

/-- Steps that push nothing on the paths of a run leave its clauses in place. -/
theorem mem_all_of_insert {first middle last : List Step}
    (hfresh : ∀ path constraint other, .push path constraint ∈ first ++ last →
      .push path other ∉ middle)
    {clause : Clause} (h : clause ∈ (empty.run (first ++ last)).finish.all) :
    clause ∈ (empty.run (first ++ (middle ++ last))).finish.all := by
  rw [mem_all_finish, plainAt_run, hoisted_run] at h ⊢
  rcases h with h | h
  · left
    by_cases hm : middle.filterMap (Step.pushedAt clause.path) = []
    · rw [List.filterMap_append] at h
      rw [List.filterMap_append, List.filterMap_append, hm, List.nil_append]
      exact h
    · -- The added steps push on the path of the clause, so the run pushes nothing there.
      obtain ⟨other, ho⟩ := List.exists_mem_of_ne_nil _ hm
      have hnil : (first ++ last).filterMap (Step.pushedAt clause.path) = [] := by
        refine List.eq_nil_iff_forall_not_mem.2 fun constraint hc => ?_
        exact hfresh clause.path constraint other (mem_pushed_iff.1 hc) (mem_pushed_iff.1 ho)
      rw [hnil] at h
      cases h
  · right
    rw [List.flatMap_append] at h
    rw [List.flatMap_append, List.flatMap_append]
    rcases List.mem_append.1 h with h | h
    · exact List.mem_append_left _ h
    · refine List.mem_append_right _ ?_
      rcases List.mem_append.1 h with h | h
      · exact List.mem_append_left _ h
      · exact List.mem_append_right _ (List.mem_append_right _ h)

end Assembly

namespace Query

open Assembly (Step)
open Matching (Outcome clauseHolds)

/-! ## One entry more -/

variable {types : TypeMap} {front back : List (String × Json)} {key : String} {value : Json}

/-- The run of an extended query is that of the query with the steps of the new entry in it. -/
theorem exists_steps_of_extended {extended : Filter}
    (h : compile types (.obj (front ++ (key, value) :: back)) = .ok extended) :
    ∃ first middle last : List Step,
      extended = (Assembly.empty.run (first ++ (middle ++ last))).finish ∧
      compile types (.obj (front ++ back)) = .ok (Assembly.empty.run (first ++ last)).finish ∧
      compile types (.entry key value) = .ok (Assembly.empty.run middle).finish ∧
      (∀ path constraint, .push path constraint ∈ first ++ last →
        ∃ node ∈ terminalNodes types (.obj (front ++ back)), node.path = path) ∧
      ∀ path constraint, .push path constraint ∈ middle →
        ∃ node ∈ terminalNodes types (.entry key value), node.path = path := by
  obtain ⟨found, lists, hn, hm, rfl⟩ := compile_eq_ok_iff.1 h
  obtain ⟨before, others, hb, ho, rfl⟩ := nodesOfEntries_append_eq_ok_iff.1 hn
  rw [← List.singleton_append, nodesOfEntries_append_eq_ok_iff] at ho
  obtain ⟨added, after, ha, hf, rfl⟩ := ho
  obtain ⟨first, rest, h₁, hrest, rfl⟩ := Results.mapM_append_eq_ok_iff.1 hm
  obtain ⟨middle, last, h₂, h₃, rfl⟩ := Results.mapM_append_eq_ok_iff.1 hrest
  have hnodes : nodes types (.obj (front ++ back)) = .ok (before ++ after) :=
    nodesOfEntries_append_eq_ok_iff.2 ⟨before, after, hb, hf, rfl⟩
  have hsteps : (before ++ after).mapM nodeSteps = .ok (first ++ last) :=
    Results.mapM_append_eq_ok_iff.2 ⟨first, last, h₁, h₃, rfl⟩
  refine ⟨first.flatten, middle.flatten, last.flatten, ?_, ?_, ?_, fun path constraint hs => ?_,
    fun path constraint hs => ?_⟩
  · rw [List.flatten_append, List.flatten_append]
  · exact compile_eq_ok_iff.2 ⟨_, _, hnodes, hsteps, by rw [List.flatten_append]⟩
  · exact compile_eq_ok_iff.2 ⟨_, _, ha, h₂, rfl⟩
  · rw [terminalNodes_eq hnodes]
    rw [← List.flatten_append] at hs
    exact exists_node_of_push hsteps hs
  · have hadded : terminalNodes types (.entry key value) = added := terminalNodes_eq ha
    rw [hadded]
    exact exists_node_of_push h₂ hs

/-- Alternatives that hold with others among them hold without these, or the others hold. -/
theorem alternativesHold_middle {document : Json} {first middle last : List (List Clause)}
    (h : Matching.alternativesHold document (first ++ (middle ++ last)) = .ok true) :
    Matching.alternativesHold document (first ++ last) = .ok true ∨
      first ++ last ≠ [] ∧ middle ≠ [] ∧ Matching.alternativesHold document middle = .ok true := by
  by_cases hm : middle = []
  · rw [hm, List.nil_append] at h
    exact .inl h
  by_cases ho : first ++ last = []
  · rw [ho]
    exact .inl rfl
  have hne : first ++ (middle ++ last) ≠ [] := by simp [hm]
  rw [Matching.alternativesHold, if_neg (by simpa using hne), Outcome.any_append,
    Outcome.or_eq_true_iff, Outcome.any_append, Outcome.or_eq_true_iff] at h
  rw [Matching.alternativesHold, if_neg (by simpa using ho), Outcome.any_append,
    Outcome.or_eq_true_iff, Matching.alternativesHold, if_neg (by simpa using hm)]
  rcases h with hf | ⟨hf, hmid | ⟨-, hl⟩⟩
  · exact .inl (.inl hf)
  · exact .inr ⟨ho, hm, hmid⟩
  · exact .inl (.inr ⟨hf, hl⟩)

/-- Constraining one more field widens a query only by alternatives. A document that the extended
query matches is matched by the query itself, or else both the query and the new entry have
alternatives, the document satisfies all other clauses of the query, and it satisfies an alternative
of the new entry. -/
theorem holds_or_of_extended {format : Format} {document : Json} {filter extended : Filter}
    (hq : compileFor format (.obj (front ++ back)) = .ok filter)
    (he : compileFor format (.obj (front ++ (key, value) :: back)) = .ok extended)
    (hpaths : ∀ node ∈ terminalNodes (.ofFormat format) (.entry key value),
      ∀ other ∈ terminalNodes (.ofFormat format) (.obj (front ++ back)), node.path ≠ other.path)
    (hm : Matching.holds document extended.toDocument = .ok true) :
    ∃ added, compileFor format (.entry key value) = .ok added ∧
      (Matching.holds document filter.toDocument = .ok true ∨
        filter.any ≠ [] ∧ added.any ≠ [] ∧
          Matching.holds document (Filter.toDocument ⟨filter.all, []⟩) = .ok true ∧
          Matching.holds document (Filter.toDocument ⟨[], added.any⟩) = .ok true) := by
  rw [compileFor] at hq he
  obtain ⟨first, middle, last, rfl, hq', ha, hold, hnew⟩ := exists_steps_of_extended he
  rw [hq] at hq'
  cases hq'
  refine ⟨_, ha, ?_⟩
  rw [Matching.holds_toDocument document (ne_nil_of_mem_any he), Outcome.and_eq_true_iff] at hm
  obtain ⟨hall, hany⟩ := hm
  have hrequired : Outcome.all (clauseHolds document)
      (Assembly.empty.run (first ++ last)).finish.all = .ok true := by
    rw [Outcome.all_eq_true_iff] at hall ⊢
    refine fun clause hc => hall clause (Assembly.mem_all_of_insert ?_ hc)
    intro path constraint other hpush hother
    obtain ⟨node, hn, hpath⟩ := hnew path other hother
    obtain ⟨sibling, hs, hpath'⟩ := hold path constraint hpush
    exact hpaths node hn sibling hs (hpath.trans hpath'.symm)
  rw [Matching.holds_required, Matching.holds_alternatives document (ne_nil_of_mem_any ha),
    Matching.holds_toDocument document (ne_nil_of_mem_any hq), Outcome.and_eq_true_iff]
  have hruns (steps : List Step) : (Assembly.empty.run steps).finish.any =
      steps.filterMap Step.alternative? := Assembly.any_run Assembly.empty steps
  rw [hruns, List.filterMap_append, List.filterMap_append] at hany
  rw [hruns, hruns, List.filterMap_append]
  rcases alternativesHold_middle hany with hquery | ⟨hne, hadded, hmiddle⟩
  · exact .inl ⟨hrequired, hquery⟩
  · exact .inr ⟨hne, hadded, hrequired, hmiddle⟩

/-! ### Two fields with one alternative each -/

def twoFields : Format := [("a", .plain .string false), ("b", .plain .string false)]

/-- The only alternative of a field is a text. -/
def onlyText (key text : String) : String × Json :=
  (key, .entry "$or" (.arr [.entry "equal_to" (.str text)]))

/-- One of the fields has a text. -/
def someText (texts : List (String × String)) : Filter where
  all := []
  any := texts.map fun (key, text) => [⟨key, [("$eq", .str text)]⟩]

def twoTexts : Json := .obj [("a", .str "z"), ("b", .str "y")]

theorem someText_holds_or_of_extended :
    ∃ added, compileFor twoFields (.entry "b" (onlyText "b" "y").2) = .ok added ∧
      (Matching.holds twoTexts (someText [("a", "x")]).toDocument = .ok true ∨
        (someText [("a", "x")]).any ≠ [] ∧ added.any ≠ [] ∧
          Matching.holds twoTexts (Filter.toDocument ⟨[], []⟩) = .ok true ∧
          Matching.holds twoTexts (Filter.toDocument ⟨[], added.any⟩) = .ok true) := by
  have hq : compileFor twoFields (.obj ([onlyText "a" "x"] ++ [])) =
      .ok (someText [("a", "x")]) := by cbv
  have he : compileFor twoFields (.obj ([onlyText "a" "x"] ++ [onlyText "b" "y"])) =
      .ok (someText [("a", "x"), ("b", "y")]) := by cbv
  refine holds_or_of_extended hq he ?_ (by cbv)
  have hnew : (terminalNodes (.ofFormat twoFields) (.obj [onlyText "b" "y"])).map (·.path) =
      ["b"] := by cbv
  have hold : (terminalNodes (.ofFormat twoFields) (.obj [onlyText "a" "x"])).map (·.path) =
      ["a"] := by cbv
  intro node hn other ho hpath
  have hb := hnew ▸ List.mem_map_of_mem hn
  have ha := hold ▸ List.mem_map_of_mem ho
  rw [List.mem_singleton] at ha hb
  rw [hb, ha] at hpath
  exact absurd hpath (by decide)

/-- Adding a field with an alternative can widen a query with an alternative: the two fields are
different, and only the extended query matches. -/
theorem added_alternative_widens :
    (terminalNodes (.ofFormat twoFields) (.obj [onlyText "a" "x"])).map (·.path) = ["a"] ∧
    (terminalNodes (.ofFormat twoFields) (.obj [onlyText "b" "y"])).map (·.path) = ["b"] ∧
    ∃ filter extended, compileFor twoFields (.obj [onlyText "a" "x"]) = .ok filter ∧
      compileFor twoFields (.obj [onlyText "a" "x", onlyText "b" "y"]) = .ok extended ∧
      Matching.holds twoTexts extended.toDocument = .ok true ∧
      Matching.holds twoTexts filter.toDocument = .ok false :=
  ⟨by cbv, by cbv, someText [("a", "x")], someText [("a", "x"), ("b", "y")], by cbv, by cbv,
    by cbv, by cbv⟩

end Query

end SchemaQuery
