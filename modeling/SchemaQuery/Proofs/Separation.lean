import Mathlib
import SchemaQuery.Proofs.Compilation

/-!
# Queries on disjoint paths

A push looks only at plain clauses on its own path, so a run leaves alone what was collected on
other paths and adds behind it what it collects by itself (`run_append_of_fresh`). Hence a query
whose entries fall into two parts without a common path compiles to the filters of the two parts,
one behind the other (`compileFor_append_eq_ok_iff`).
-/

namespace SchemaQuery

namespace Assembly

/-! ## Runs behind what is already collected -/

/-- What the second assembly has collected behind what the first one has. -/
def append (first second : Assembly) : Assembly :=
  ⟨first.all ++ second.all, first.any ++ second.any⟩

theorem append_empty (assembly : Assembly) : assembly.append empty = assembly := by
  simp [append, empty]

theorem finish_append (first second : Assembly) :
    (first.append second).finish =
      ⟨first.finish.all ++ second.finish.all, first.finish.any ++ second.finish.any⟩ := by
  simp [append, finish]

variable {first : Assembly} {path : String}

theorem place_append_of_fresh {xs : List (Origin × Clause)} (constraint : Constraint)
    (ys : List (Origin × Clause)) (h : ∀ entry ∈ xs, ¬(entry.1 = .plain ∧ entry.2.path = path)) :
    place path constraint (xs ++ ys) = xs ++ place path constraint ys := by
  induction xs with
  | nil => rfl
  | cons entry rest ih =>
    rw [List.forall_mem_cons] at h
    rw [List.cons_append, place, if_neg h.1, ih h.2, List.cons_append]

theorem not_plain_of_plainAt_eq_nil (h : first.plainAt path = []) :
    ∀ entry ∈ first.all, ¬(entry.1 = .plain ∧ entry.2.path = path) := by
  rintro ⟨origin, clause⟩ hm ⟨rfl, rfl⟩
  have hc : clause.constraint ∈ first.plainAt clause.path := mem_plainAt_iff.2 hm
  simp [h] at hc

/-- On a path where nothing plain is collected yet, a step adds behind what is there. -/
theorem apply_append_of_fresh (second : Assembly) (step : Step)
    (h : ∀ path constraint, step = .push path constraint → first.plainAt path = []) :
    (first.append second).apply step = first.append (second.apply step) := by
  cases step with
  | push path constraint =>
    have hfresh := not_plain_of_plainAt_eq_nil (h path constraint rfl)
    simp only [apply, pushPlain, append, place_append_of_fresh constraint second.all hfresh]
  | hoist combinator path conjuncts =>
    simp only [apply, hoist]
    split
    · rfl
    split <;> simp [append]

theorem run_append_of_fresh (second : Assembly) (steps : List Step)
    (h : ∀ path constraint, .push path constraint ∈ steps → first.plainAt path = []) :
    (first.append second).run steps = first.append (second.run steps) := by
  induction steps generalizing second with
  | nil => rfl
  | cons step rest ih =>
    have hstep := apply_append_of_fresh second step fun path constraint he =>
      h path constraint (he ▸ List.mem_cons_self)
    calc (first.append second).run (step :: rest)
        = ((first.append second).apply step).run rest := rfl
      _ = (first.append (second.apply step)).run rest := by rw [hstep]
      _ = first.append ((second.apply step).run rest) :=
          ih _ fun path constraint hm => h path constraint (List.mem_cons_of_mem _ hm)

/-- Runs that push on different paths can be done one by one. -/
theorem run_append_of_disjoint {steps more : List Step}
    (h : ∀ path constraint other, .push path constraint ∈ steps → .push path other ∉ more) :
    empty.run (steps ++ more) = (empty.run steps).append (empty.run more) := by
  have hfresh : ∀ path other, .push path other ∈ more → (empty.run steps).plainAt path = [] := by
    intro path other ho
    have hnone : steps.filterMap (Step.pushedAt path) = [] :=
      List.eq_nil_iff_forall_not_mem.2 fun constraint hc =>
        h path constraint other (mem_pushed_iff.1 hc) ho
    rw [plainAt_run, hnone]
    rfl
  rw [run_append, ← run_append_of_fresh empty more hfresh, append_empty]

end Assembly

namespace Query

open Assembly (Step)

theorem terminalNodes_obj {types : TypeMap} {entries : List (String × Json)}
    {found : List QueryNode} (h : nodesOfEntries types none entries = .ok found) :
    terminalNodes types (.obj entries) = found :=
  terminalNodes_eq h

/-- The run of nodes followed by that of nodes on other paths. -/
theorem run_steps_append {found others : List QueryNode} {lists more : List (List Step)}
    (hl : found.mapM nodeSteps = .ok lists) (hm : others.mapM nodeSteps = .ok more)
    (h : ∀ node ∈ found, ∀ other ∈ others, node.path ≠ other.path) :
    Assembly.empty.run (lists ++ more).flatten =
      (Assembly.empty.run lists.flatten).append (Assembly.empty.run more.flatten) := by
  rw [List.flatten_append]
  refine Assembly.run_append_of_disjoint fun path constraint other hpush hother => ?_
  obtain ⟨node, hn, hpath⟩ := exists_node_of_push hl hpush
  obtain ⟨sibling, hs, hpath'⟩ := exists_node_of_push hm hother
  exact h node hn sibling hs (hpath.trans hpath'.symm)

/-- Compiling distributes over the parts of a query that have no path in common. They compile
together exactly when each of them compiles, and then to the filter of the first followed by that of
the second. The query on an element of a list counts as one on the path of the list. -/
theorem compileFor_append_eq_ok_iff {format : Format} {first second : List (String × Json)}
    (h : ∀ node ∈ terminalNodes (.ofFormat format) (.obj first),
      ∀ other ∈ terminalNodes (.ofFormat format) (.obj second), node.path ≠ other.path)
    {filter : Filter} :
    compileFor format (.obj (first ++ second)) = .ok filter ↔
      ∃ front back, compileFor format (.obj first) = .ok front ∧
        compileFor format (.obj second) = .ok back ∧
        filter = ⟨front.all ++ back.all, front.any ++ back.any⟩ := by
  constructor
  · intro hc
    obtain ⟨found, steps, hn, hs, rfl⟩ := compile_eq_ok_iff.1 hc
    obtain ⟨before, after, hb, ha, rfl⟩ := nodesOfEntries_append_eq_ok_iff.1 hn
    obtain ⟨lists, more, hl, hm, rfl⟩ := Results.mapM_append_eq_ok_iff.1 hs
    refine ⟨_, _, compile_eq_ok_iff.2 ⟨before, lists, hb, hl, rfl⟩,
      compile_eq_ok_iff.2 ⟨after, more, ha, hm, rfl⟩, ?_⟩
    rw [terminalNodes_obj hb, terminalNodes_obj ha] at h
    rw [run_steps_append hl hm h, Assembly.finish_append]
  · rintro ⟨front, back, hfront, hback, rfl⟩
    obtain ⟨before, lists, hb, hl, rfl⟩ := compile_eq_ok_iff.1 hfront
    obtain ⟨after, more, ha, hm, rfl⟩ := compile_eq_ok_iff.1 hback
    refine compile_eq_ok_iff.2 ⟨before ++ after, lists ++ more,
      nodesOfEntries_append_eq_ok_iff.2 ⟨before, after, hb, ha, rfl⟩,
      Results.mapM_append_eq_ok_iff.2 ⟨lists, more, hl, hm, rfl⟩, ?_⟩
    rw [terminalNodes_obj hb, terminalNodes_obj ha] at h
    rw [run_steps_append hl hm h, Assembly.finish_append]

/-! ### An age and tags -/

def ageAndTags : Format := [("age", .plain .number false), ("tags", .arrayOf .string)]

/-- Plain operators, required items and alternatives on a scalar. -/
def ageQuery : List (String × Json) :=
  [("age", .obj [("$and", .arr [.entry "less_than" (.int 9)]), ("greater_than", .int 1),
    ("$or", .arr [.entry "equal_to" (.int 5), .entry "equal_to" (.int 7)])])]

/-- The query on an element and the list itself, which share a clause. -/
def tagsQuery : List (String × Json) :=
  [(elementPath "tags", .entry "equal_to" (.str "x")),
    ("tags", .obj [("size", .int 3), ("$either", .arr [.entry "contains" (.str "y")])])]

def ageFilter : Filter where
  all := [⟨"age", [("$lt", .int 9)]⟩, ⟨"age", [("$gt", .int 1)]⟩]
  any := [[⟨"age", [("$eq", .int 5)]⟩], [⟨"age", [("$eq", .int 7)]⟩]]

def tagsFilter : Filter where
  all := [⟨"tags", [(elemMatchKey, .entry "$eq" (.str "x")), ("$size", .int 3)]⟩]
  any := [[⟨"tags", [("$all", .arr [.str "y"])]⟩]]

theorem ageAndTags_compile :
    compileFor ageAndTags (.obj (ageQuery ++ tagsQuery)) =
      .ok ⟨ageFilter.all ++ tagsFilter.all, ageFilter.any ++ tagsFilter.any⟩ := by
  have hage : (terminalNodes (.ofFormat ageAndTags) (.obj ageQuery)).map (·.path) = ["age"] := by
    cbv
  have htags : (terminalNodes (.ofFormat ageAndTags) (.obj tagsQuery)).map (·.path) =
      ["tags", "tags"] := by cbv
  refine (compileFor_append_eq_ok_iff ?_).2 ⟨ageFilter, tagsFilter, by cbv, by cbv, rfl⟩
  intro node hn other ho hpath
  have ha := hage ▸ List.mem_map_of_mem hn
  have ht := htags ▸ List.mem_map_of_mem ho
  rw [hpath] at ha
  simp only [List.mem_cons, List.not_mem_nil, or_false, or_self] at ha ht
  rw [ht] at ha
  exact absurd ha (by decide)

end Query

end SchemaQuery
