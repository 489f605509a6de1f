import SchemaQuery.Filter
import SchemaQuery.Proofs.Merging

/-!
# Assemblies

An assembly is what has been collected for a filter when each clause carries its origin with it,
instead of the positions that an assembler keeps. It is a run of pushes and hoists. What a run
leaves on a path (`plainAt_run`) is the fold of the constraints pushed on that path; the items of
combinators come out unchanged and in order (`hoisted_run`, `any_run`), and the clauses of the
finished filter are these and no others (`mem_all_finish`).
-/

namespace SchemaQuery

/-- How a clause came into an assembly. -/
inductive Origin where
  /-- From operators outside of combinators; more of them may be merged in. -/
  | plain
  /-- From an item of a combinator. -/
  | hoisted
  deriving DecidableEq, Repr

/-- The clauses collected so far, each with its origin. -/
structure Assembly where
  all : List (Origin × Clause)
  any : List (List Clause)

namespace Assembly

/-- Nothing collected yet. -/
def empty : Assembly := ⟨[], []⟩

/-- Merges constraints into the first plain clause on the path that takes them, or appends them as
a further plain clause. -/
def place (path : String) (constraint : Constraint) :
    List (Origin × Clause) → List (Origin × Clause)
  | [] => [(.plain, ⟨path, constraint⟩)]
  | (origin, clause) :: rest =>
    if origin = .plain ∧ clause.path = path then
      match clause.constraint.merge? constraint with
      | some merged => (.plain, ⟨path, merged⟩) :: rest
      | none => (origin, clause) :: place path constraint rest
    else (origin, clause) :: place path constraint rest

/-- Adds plain constraints on a path. -/
def pushPlain (assembly : Assembly) (path : String) (constraint : Constraint) : Assembly :=
  { assembly with all := place path constraint assembly.all }

/-- Adds an item of a combinator; an item that asks nothing is dropped. -/
def hoist (assembly : Assembly) (combinator : Combinator) (path : String)
    (conjuncts : List Constraint) : Assembly :=
  let clauses := conjuncts.map (Clause.mk path)
  if conjuncts.isEmpty then assembly
  else if combinator.isDisjunction then { assembly with any := assembly.any ++ [clauses] }
  else { assembly with all := assembly.all ++ clauses.map fun clause => (.hoisted, clause) }

/-- The filter of all clauses collected. -/
def finish (assembly : Assembly) : Filter := ⟨assembly.all.map (·.2), assembly.any⟩

/-! ## Steps -/

/-- One addition to an assembly. -/
inductive Step where
  /-- Plain constraints on a path. -/
  | push (path : String) (constraint : Constraint)
  /-- An item of a combinator. -/
  | hoist (combinator : Combinator) (path : String) (conjuncts : List Constraint)

/-- The assembly after an addition. -/
def apply (assembly : Assembly) : Step → Assembly
  | .push path constraint => assembly.pushPlain path constraint
  | .hoist combinator path conjuncts => assembly.hoist combinator path conjuncts

/-- The assembly after additions one after the other. -/
def run (assembly : Assembly) (steps : List Step) : Assembly := steps.foldl apply assembly

/-- The constraint that a step pushes on a path. -/
def Step.pushedAt (path : String) : Step → Option Constraint
  | .push other constraint => if other = path then some constraint else none
  | .hoist .. => none

theorem Step.pushedAt_eq_some_iff {path : String} {step : Step} {constraint : Constraint} :
    step.pushedAt path = some constraint ↔ step = .push path constraint := by
  cases step with
  | push other found =>
    simp only [pushedAt, Option.ite_none_right_eq_some, Option.some.injEq, push.injEq]
  | hoist => exact iff_of_false (fun h => nomatch h) fun h => nomatch h

theorem mem_pushed_iff {path : String} {steps : List Step} {constraint : Constraint} :
    constraint ∈ steps.filterMap (Step.pushedAt path) ↔ .push path constraint ∈ steps := by
  rw [List.mem_filterMap]
  constructor
  · rintro ⟨step, hs, hstep⟩
    exact Step.pushedAt_eq_some_iff.1 hstep ▸ hs
  · exact fun h => ⟨_, h, Step.pushedAt_eq_some_iff.2 rfl⟩

/-- The clauses that a step adds as they are. -/
def Step.hoistedClauses : Step → List Clause
  | .push .. => []
  | .hoist combinator path conjuncts =>
    if combinator.isDisjunction then [] else conjuncts.map (Clause.mk path)

/-- The alternative that a step adds. -/
def Step.alternative? : Step → Option (List Clause)
  | .push .. => none
  | .hoist combinator path conjuncts =>
    if combinator.isDisjunction && !conjuncts.isEmpty then some (conjuncts.map (Clause.mk path))
    else none

/-- The constraint of a plain clause on a path. -/
def plainConstraint? (path : String) (entry : Origin × Clause) : Option Constraint :=
  if entry.1 = .plain ∧ entry.2.path = path then some entry.2.constraint else none

/-- The clause, if it came from an item of a combinator. -/
def hoistedClause? (entry : Origin × Clause) : Option Clause :=
  if entry.1 = .hoisted then some entry.2 else none

/-- The plain constraints on a path, in order. -/
def plainAt (assembly : Assembly) (path : String) : List Constraint :=
  assembly.all.filterMap (plainConstraint? path)

/-- The clauses that came from items of combinators, in order. -/
def hoisted (assembly : Assembly) : List Clause := assembly.all.filterMap hoistedClause?

/-! ## One step -/

/-- On its path a push is a fold; the plain clauses of other paths stay. -/
theorem plainConstraints_place (path other : String) (constraint : Constraint)
    (all : List (Origin × Clause)) :
    (place path constraint all).filterMap (plainConstraint? other) =
      if path = other then Constraint.fold (all.filterMap (plainConstraint? other)) constraint
      else all.filterMap (plainConstraint? other) := by
  induction all with
  | nil =>
    by_cases h : path = other <;> simp [place, plainConstraint?, h, Constraint.fold]
  | cons entry rest ih =>
    obtain ⟨origin, clause⟩ := entry
    rw [place]
    by_cases hp : origin = .plain ∧ clause.path = path
    · rw [if_pos hp]
      obtain ⟨rfl, rfl⟩ := hp
      by_cases h : clause.path = other
      · rw [if_pos h] at ih ⊢
        have hc : plainConstraint? other (.plain, clause) = some clause.constraint := by
          simp [plainConstraint?, h]
        rw [List.filterMap_cons_some hc]
        cases hm : clause.constraint.merge? constraint with
        | some merged =>
          have hn : plainConstraint? other (.plain, ⟨clause.path, merged⟩) = some merged := by
            simp [plainConstraint?, h]
          rw [Constraint.fold_cons_of_merge? _ hm]
          exact List.filterMap_cons_some hn
        | none =>
          rw [Constraint.fold_cons_of_rejected _ hm, ← ih]
          exact List.filterMap_cons_some hc
      · rw [if_neg h] at ih ⊢
        have hc (constraint : Constraint) :
            plainConstraint? other (.plain, ⟨clause.path, constraint⟩) = none := by
          simp [plainConstraint?, h]
        cases clause.constraint.merge? constraint with
        | some merged =>
          exact (List.filterMap_cons_none (hc merged)).trans
            (List.filterMap_cons_none (hc clause.constraint)).symm
        | none =>
          calc _ = (place clause.path constraint rest).filterMap (plainConstraint? other) :=
                List.filterMap_cons_none (hc clause.constraint)
            _ = _ := ih.trans (List.filterMap_cons_none (hc clause.constraint)).symm
    · rw [if_neg hp]
      by_cases h : path = other
      · subst h
        rw [if_pos rfl] at ih ⊢
        have hc : plainConstraint? path (origin, clause) = none := if_neg hp
        rw [List.filterMap_cons_none hc, List.filterMap_cons_none hc, ih]
      · rw [if_neg h] at ih ⊢
        rw [List.filterMap_cons, List.filterMap_cons, ih]

theorem hoistedClauses_place (path : String) (constraint : Constraint)
    (all : List (Origin × Clause)) :
    (place path constraint all).filterMap hoistedClause? = all.filterMap hoistedClause? := by
  induction all with
  | nil => rfl
  | cons entry rest ih =>
    obtain ⟨origin, clause⟩ := entry
    rw [place]
    split
    · rename_i hp
      obtain ⟨rfl, rfl⟩ := hp
      split
      · rfl
      · exact ih
    · rw [List.filterMap_cons, List.filterMap_cons, ih]

theorem plainAt_apply (assembly : Assembly) (step : Step) (path : String) :
    (assembly.apply step).plainAt path =
      (step.pushedAt path).elim (assembly.plainAt path)
        (Constraint.fold (assembly.plainAt path)) := by
  cases step with
  | push other constraint =>
    refine (plainConstraints_place other path constraint assembly.all).trans ?_
    rw [Step.pushedAt]
    split <;> rfl
  | hoist combinator other conjuncts =>
    have hnone :
        (conjuncts.map fun conjunct => (Origin.hoisted, Clause.mk other conjunct)).filterMap
          (plainConstraint? path) = [] := by
      rw [List.filterMap_eq_nil_iff, List.forall_mem_map]
      exact fun _ _ => rfl
    rw [apply, hoist]
    split
    · rfl
    split
    · rfl
    · simp only [plainAt, List.filterMap_append, List.map_map]
      exact (congrArg (assembly.plainAt path ++ ·) hnone).trans (List.append_nil _)

theorem hoisted_apply (assembly : Assembly) (step : Step) :
    (assembly.apply step).hoisted = assembly.hoisted ++ step.hoistedClauses := by
  cases step with
  | push path constraint =>
    refine (hoistedClauses_place path constraint assembly.all).trans ?_
    exact (List.append_nil _).symm
  | hoist combinator path conjuncts =>
    rw [apply, hoist, Step.hoistedClauses]
    cases hd : combinator.isDisjunction with
    | true => split <;> exact (List.append_nil _).symm
    | false =>
      have hall :
          (conjuncts.map fun conjunct => (Origin.hoisted, Clause.mk path conjunct)).filterMap
            hoistedClause? = conjuncts.map (Clause.mk path) := by
        rw [List.filterMap_map, ← List.filterMap_eq_map]
        rfl
      split
      · rename_i h
        rw [List.isEmpty_iff.1 h]
        exact (List.append_nil _).symm
      · simp only [hoisted, Bool.false_eq_true, if_false, List.filterMap_append, List.map_map]
        exact congrArg (assembly.hoisted ++ ·) hall

theorem any_apply (assembly : Assembly) (step : Step) :
    (assembly.apply step).any = assembly.any ++ step.alternative?.toList := by
  cases step with
  | push path constraint => exact (List.append_nil _).symm
  | hoist combinator path conjuncts =>
    rw [apply, hoist, Step.alternative?]
    cases conjuncts with
    | nil => simp
    | cons => cases combinator.isDisjunction <;> simp

/-! ## Runs -/

theorem run_append (assembly : Assembly) (steps more : List Step) :
    assembly.run (steps ++ more) = (assembly.run steps).run more :=
  List.foldl_append

/-- What a run leaves on a path is the fold of what it pushes there. -/
theorem plainAt_run (assembly : Assembly) (steps : List Step) (path : String) :
    (assembly.run steps).plainAt path =
      Constraint.foldAll (assembly.plainAt path) (steps.filterMap (Step.pushedAt path)) := by
  induction steps generalizing assembly with
  | nil => rfl
  | cons step rest ih =>
    refine (ih (assembly.apply step)).trans ?_
    rw [plainAt_apply, List.filterMap_cons]
    cases step.pushedAt path <;> rfl

theorem hoisted_run (assembly : Assembly) (steps : List Step) :
    (assembly.run steps).hoisted = assembly.hoisted ++ steps.flatMap Step.hoistedClauses := by
  induction steps generalizing assembly with
  | nil => exact (List.append_nil _).symm
  | cons step rest ih =>
    refine (ih (assembly.apply step)).trans ?_
    rw [hoisted_apply, List.flatMap_cons, List.append_assoc]

theorem any_run (assembly : Assembly) (steps : List Step) :
    (assembly.run steps).any = assembly.any ++ steps.filterMap Step.alternative? := by
  induction steps generalizing assembly with
  | nil => exact (List.append_nil _).symm
  | cons step rest ih =>
    refine (ih (assembly.apply step)).trans ?_
    rw [any_apply, List.append_assoc, List.filterMap_cons]
    cases step.alternative? <;> rfl

theorem mem_hoisted_iff {assembly : Assembly} {clause : Clause} :
    clause ∈ assembly.hoisted ↔ (.hoisted, clause) ∈ assembly.all := by
  rw [hoisted, List.mem_filterMap]
  constructor
  · rintro ⟨⟨origin, other⟩, hm, h⟩
    simp only [hoistedClause?, Option.ite_none_right_eq_some, Option.some.injEq] at h
    obtain ⟨rfl, rfl⟩ := h
    exact hm
  · exact fun h => ⟨_, h, rfl⟩

theorem mem_plainAt_iff {assembly : Assembly} {path : String} {constraint : Constraint} :
    constraint ∈ assembly.plainAt path ↔ (.plain, ⟨path, constraint⟩) ∈ assembly.all := by
  rw [plainAt, List.mem_filterMap]
  constructor
  · rintro ⟨⟨origin, clause⟩, hm, h⟩
    simp only [plainConstraint?, Option.ite_none_right_eq_some, Option.some.injEq] at h
    obtain ⟨⟨rfl, rfl⟩, rfl⟩ := h
    exact hm
  · exact fun h => ⟨_, h, if_pos ⟨rfl, rfl⟩⟩

/-- The clauses of a finished filter that must all hold. -/
theorem mem_all_finish {assembly : Assembly} {clause : Clause} :
    clause ∈ assembly.finish.all ↔
      clause.constraint ∈ assembly.plainAt clause.path ∨ clause ∈ assembly.hoisted := by
  rw [finish, List.mem_map, mem_plainAt_iff, mem_hoisted_iff]
  constructor
  · rintro ⟨⟨origin, other⟩, hm, rfl⟩
    cases origin with
    | plain => exact .inl hm
    | hoisted => exact .inr hm
  · rintro (h | h)
    · exact ⟨_, h, rfl⟩
    · exact ⟨_, h, rfl⟩

/-! ## Runs on a single path -/

/-- A plain clause on a path. -/
def plainClause (path : String) (constraint : Constraint) : Origin × Clause :=
  (.plain, ⟨path, constraint⟩)

theorem place_plain (path : String) (constraint : Constraint) (found : List Constraint) :
    place path constraint (found.map (plainClause path)) =
      (Constraint.fold found constraint).map (plainClause path) := by
  induction found with
  | nil => rfl
  | cons target rest ih =>
    rw [List.map_cons, plainClause, place, if_pos ⟨rfl, rfl⟩, Constraint.fold]
    cases target.merge? constraint with
    | some merged => rfl
    | none => exact congrArg (plainClause path target :: ·) ih

theorem run_push (path : String) (constraints : List Constraint) :
    empty.run (constraints.map (Step.push path)) =
      ⟨(Constraint.foldAll [] constraints).map (plainClause path), []⟩ := by
  have hrun : ∀ found : List Constraint,
      run ⟨found.map (plainClause path), []⟩ (constraints.map (Step.push path)) =
        ⟨(Constraint.foldAll found constraints).map (plainClause path), []⟩ := by
    induction constraints with
    | nil => exact fun _ => rfl
    | cons constraint rest ih =>
      intro found
      refine Eq.trans ?_ (ih (Constraint.fold found constraint))
      exact congrArg (fun all => run ⟨all, []⟩ (rest.map (Step.push path)))
        (place_plain path constraint found)
  exact hrun []

end Assembly

end SchemaQuery
