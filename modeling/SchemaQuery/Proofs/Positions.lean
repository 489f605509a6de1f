import Mathlib.Data.List.Basic
import SchemaQuery.Proofs.Assembling

/-!
# Positions of plain clauses

An assembler does not know the origin of a clause; it keeps, for each path, the positions of the
plain clauses. After every run these are the positions at which an assembly has them (`Tracks.run`),
so assembler and assembly end with the same filter (`finish_run`), no position is out of range, and
nothing is ever merged into the item of a combinator (`run_keeps_origins_apart`).
-/

namespace SchemaQuery

namespace Assembly

/-! ## What an assembler can see of an assembly -/

/-- The origin of the clauses that a step appends. -/
def Step.origin : Step → Origin
  | .push .. => .plain
  | .hoist .. => .hoisted

/-- The origin of a clause and its path. -/
def mark (entry : Origin × Clause) : Origin × String := (entry.1, entry.2.path)

/-- The clauses after constraints were merged into the first plain clause on the path that takes
them, found by its position; none if there is no such clause. -/
def mergePlain? (path : String) (constraint : Constraint) (all : List (Origin × Clause)) :
    Option (List Clause) :=
  ((all.map mark).idxsOf (.plain, path)).findSome?
    (Assembler.mergeAt? (all.map Prod.snd) constraint)

theorem mergeAt?_cons_zero (clause : Clause) (rest : List Clause) (constraint : Constraint) :
    Assembler.mergeAt? (clause :: rest) constraint 0 =
      (clause.constraint.merge? constraint).map fun merged => ⟨clause.path, merged⟩ :: rest :=
  rfl

theorem mergeAt?_cons_succ (clause : Clause) (rest : List Clause) (constraint : Constraint)
    (position : Nat) :
    Assembler.mergeAt? (clause :: rest) constraint (position + 1) =
      (Assembler.mergeAt? rest constraint position).map (clause :: ·) := by
  unfold Assembler.mergeAt?
  rw [List.getElem?_cons_succ]
  cases rest[position]? with
  | none => rfl
  | some found => cases h : found.constraint.merge? constraint <;> simp [h]

variable {path : String} {constraint : Constraint}

theorem findSome?_mergeAt?_cons (entry : Origin × Clause) (rest : List (Origin × Clause)) :
    ((rest.map mark).idxsOf (.plain, path) 1).findSome?
        (Assembler.mergeAt? ((entry :: rest).map Prod.snd) constraint) =
      (mergePlain? path constraint rest).map (entry.2 :: ·) := by
  have hsucc : (rest.map mark).idxsOf (.plain, path) 1 =
      ((rest.map mark).idxsOf (.plain, path)).map (· + 1) := List.idxsOf_start
  rw [hsucc, List.findSome?_map, mergePlain?, List.map_findSome?]
  refine congrArg (List.findSome? · _) (funext fun position => ?_)
  exact mergeAt?_cons_succ entry.2 (rest.map Prod.snd) constraint position

theorem mergePlain?_cons_of_plain {clause : Clause} (rest : List (Origin × Clause))
    (h : clause.path = path) :
    mergePlain? path constraint ((.plain, clause) :: rest) =
      match clause.constraint.merge? constraint with
      | some merged => some (⟨path, merged⟩ :: rest.map Prod.snd)
      | none => (mergePlain? path constraint rest).map (clause :: ·) := by
  subst h
  rw [mergePlain?, List.map_cons, List.map_cons, List.idxsOf_cons, if_pos (by simp [mark]),
    List.findSome?_cons, mergeAt?_cons_zero]
  cases clause.constraint.merge? constraint with
  | some merged => rfl
  | none => exact findSome?_mergeAt?_cons (.plain, clause) rest

theorem mergePlain?_cons_of_ne {entry : Origin × Clause} (rest : List (Origin × Clause))
    (h : ¬(entry.1 = .plain ∧ entry.2.path = path)) :
    mergePlain? path constraint (entry :: rest) =
      (mergePlain? path constraint rest).map (entry.2 :: ·) := by
  have hmark : ¬(mark entry == (.plain, path)) = true := by simpa [mark] using h
  rw [mergePlain?, List.map_cons, List.map_cons, List.idxsOf_cons, if_neg hmark]
  exact findSome?_mergeAt?_cons entry rest

/-- A place that is found by searching the origins is the one found by position. -/
theorem map_snd_place (path : String) (constraint : Constraint) (all : List (Origin × Clause)) :
    (place path constraint all).map Prod.snd =
      (mergePlain? path constraint all).getD (all.map Prod.snd ++ [⟨path, constraint⟩]) := by
  induction all with
  | nil => rfl
  | cons entry rest ih =>
    obtain ⟨origin, clause⟩ := entry
    rw [place]
    split
    · rename_i hp
      obtain ⟨rfl, hpath⟩ := hp
      rw [mergePlain?_cons_of_plain rest hpath]
      cases clause.constraint.merge? constraint with
      | some merged => rfl
      | none =>
        rw [List.map_cons, ih]
        exact (Option.getD_map (clause :: ·) _ _).symm
    · rename_i hp
      rw [mergePlain?_cons_of_ne rest hp, List.map_cons, ih]
      exact (Option.getD_map (clause :: ·) _ _).symm

/-- The origins and paths stay, and a further plain clause comes in at the end if nothing takes the
constraints. -/
theorem map_mark_place (path : String) (constraint : Constraint) (all : List (Origin × Clause)) :
    (place path constraint all).map mark =
      all.map mark ++
        if (mergePlain? path constraint all).isSome then [] else [(.plain, path)] := by
  induction all with
  | nil => rfl
  | cons entry rest ih =>
    obtain ⟨origin, clause⟩ := entry
    rw [place]
    split
    · rename_i hp
      obtain ⟨rfl, hpath⟩ := hp
      rw [mergePlain?_cons_of_plain rest hpath]
      cases clause.constraint.merge? constraint with
      | some merged => simp [mark, hpath]
      | none => simp [ih]
    · rename_i hp
      rw [mergePlain?_cons_of_ne rest hp]
      simp [ih]

end Assembly

namespace Assembler

open Assembly (Step mark)

/-- The assembler after an addition. -/
def apply (assembler : Assembler) : Step → Assembler
  | .push path constraint => assembler.pushPlain path constraint
  | .hoist combinator path conjuncts => assembler.hoist combinator path conjuncts

/-- The assembler after additions one after the other. -/
def run (assembler : Assembler) (steps : List Step) : Assembler := steps.foldl apply assembler

theorem run_append (assembler : Assembler) (steps more : List Step) :
    assembler.run (steps ++ more) = (assembler.run steps).run more :=
  List.foldl_append

/-- An assembler has collected the same as an assembly, and its index holds the positions of the
plain clauses. -/
structure Tracks (assembler : Assembler) (assembly : Assembly) : Prop where
  all : assembler.all = assembly.all.map Prod.snd
  any : assembler.any = assembly.any
  positions : ∀ path, assembler.positions path = (assembly.all.map mark).idxsOf (.plain, path)

variable {assembler : Assembler} {assembly : Assembly}

theorem tracks_empty : Tracks empty Assembly.empty := ⟨rfl, rfl, fun _ => rfl⟩

theorem Tracks.pushPlain (h : Tracks assembler assembly) (path : String)
    (constraint : Constraint) :
    Tracks (assembler.pushPlain path constraint) (assembly.pushPlain path constraint) := by
  have hfound : (assembler.positions path).findSome? (mergeAt? assembler.all constraint) =
      Assembly.mergePlain? path constraint assembly.all := by
    rw [h.positions, h.all]
    rfl
  have hclauses := Assembly.map_snd_place path constraint assembly.all
  have hmarks := Assembly.map_mark_place path constraint assembly.all
  rw [Assembler.pushPlain]
  simp only [hfound]
  cases hmerge : Assembly.mergePlain? path constraint assembly.all with
  | some all =>
    rw [hmerge] at hclauses hmarks
    refine ⟨hclauses.symm, h.any, fun other => ?_⟩
    change assembler.positions other = ((Assembly.place _ _ _).map mark).idxsOf _
    rw [hmarks, h.positions]
    simp
  | none =>
    rw [hmerge] at hclauses hmarks
    refine ⟨?_, h.any, fun other => ?_⟩
    · change assembler.all ++ _ = (Assembly.place _ _ _).map Prod.snd
      rw [hclauses, h.all]
      rfl
    · have hlength : 0 + (assembly.all.map mark).length = assembler.all.length := by simp [h.all]
      change (Entries.get? (Entries.insert assembler.index path _) other).getD [] =
        ((Assembly.place _ _ _).map mark).idxsOf _
      rw [hmarks, Entries.get?_insert, List.idxsOf_append, hlength, ← h.positions other]
      by_cases ho : path = other
      · subst ho
        simp
      · simp [ho, Assembler.positions]

theorem Tracks.hoist (h : Tracks assembler assembly) (combinator : Combinator) (path : String)
    (conjuncts : List Constraint) :
    Tracks (assembler.hoist combinator path conjuncts)
      (assembly.hoist combinator path conjuncts) := by
  rw [Assembler.hoist, Assembly.hoist]
  split
  · exact h
  split
  · exact ⟨h.all, congrArg (· ++ [_]) h.any, h.positions⟩
  · refine ⟨by simp [h.all], h.any, fun other => ?_⟩
    have hnone : ((conjuncts.map fun conjunct => (Origin.hoisted, Clause.mk path conjunct)).map
        mark).idxsOf (.plain, other) (0 + (assembly.all.map mark).length) = [] := by
      rw [List.idxsOf_eq_nil_iff]
      simp [mark]
    simp only [List.map_append, List.map_map] at hnone ⊢
    rw [List.idxsOf_append]
    exact (h.positions other).trans (by simpa using hnone)

theorem Tracks.apply (h : Tracks assembler assembly) (step : Step) :
    Tracks (assembler.apply step) (assembly.apply step) := by
  cases step with
  | push path constraint => exact h.pushPlain path constraint
  | hoist combinator path conjuncts => exact h.hoist combinator path conjuncts

/-- Whatever the additions, the index keeps the positions of the plain clauses. -/
theorem Tracks.run (h : Tracks assembler assembly) (steps : List Step) :
    Tracks (assembler.run steps) (assembly.run steps) := by
  induction steps generalizing assembler assembly with
  | nil => exact h
  | cons step rest ih => exact ih (h.apply step)

/-- Positions and origins lead to the same filter. -/
theorem finish_run (steps : List Step) :
    (empty.run steps).finish = (Assembly.empty.run steps).finish := by
  have h := tracks_empty.run steps
  rw [finish, Assembly.finish, h.all, h.any]

/-! ## The origin of each clause -/

/-- The origins of the clauses that steps append one after the other. A step is the origin of the
clauses by which it lengthens those that must all hold. -/
def origins : Assembler → List Step → List Origin
  | _, [] => []
  | assembler, step :: rest =>
    List.replicate ((assembler.apply step).all.length - assembler.all.length) step.origin ++
      origins (assembler.apply step) rest

/-- The clauses after a run from nothing, each with its origin. -/
def collected (steps : List Step) : List (Origin × Clause) :=
  (origins empty steps).zip (empty.run steps).all

theorem exists_map_fst_apply (assembly : Assembly) (step : Step) :
    ∃ count, (assembly.apply step).all.map Prod.fst =
      assembly.all.map Prod.fst ++ List.replicate count step.origin := by
  cases step with
  | push path constraint =>
    have hmarks := congrArg (List.map Prod.fst)
      (Assembly.map_mark_place path constraint assembly.all)
    have horigin : Prod.fst ∘ mark = Prod.fst := rfl
    rw [List.map_append, List.map_map, List.map_map, horigin] at hmarks
    change ∃ count, (Assembly.place path constraint assembly.all).map Prod.fst = _
    rw [hmarks]
    split
    · exact ⟨0, rfl⟩
    · exact ⟨1, rfl⟩
  | hoist combinator path conjuncts =>
    rw [Assembly.apply, Assembly.hoist]
    split
    · exact ⟨0, (List.append_nil _).symm⟩
    split
    · exact ⟨0, (List.append_nil _).symm⟩
    · refine ⟨conjuncts.length, ?_⟩
      simp [Assembly.Step.origin, Function.comp_def]

theorem Tracks.map_fst_apply (h : Tracks assembler assembly) (step : Step) :
    (assembly.apply step).all.map Prod.fst = assembly.all.map Prod.fst ++
      List.replicate ((assembler.apply step).all.length - assembler.all.length) step.origin := by
  obtain ⟨count, hcount⟩ := exists_map_fst_apply assembly step
  have hlength := congrArg List.length hcount
  simp only [List.length_map, List.length_append, List.length_replicate] at hlength
  have hgrown : (assembler.apply step).all.length - assembler.all.length = count := by
    rw [(h.apply step).all, h.all, List.length_map, List.length_map]
    omega
  rw [hgrown, hcount]

theorem Tracks.map_fst_run (h : Tracks assembler assembly) (steps : List Step) :
    (assembly.run steps).all.map Prod.fst =
      assembly.all.map Prod.fst ++ origins assembler steps := by
  induction steps generalizing assembler assembly with
  | nil => exact (List.append_nil _).symm
  | cons step rest ih =>
    refine (ih (h.apply step)).trans ?_
    rw [h.map_fst_apply step, List.append_assoc, origins]

theorem origins_empty (steps : List Step) :
    origins empty steps = (Assembly.empty.run steps).all.map Prod.fst :=
  (tracks_empty.map_fst_run steps).symm

/-- With the origins that its history gives to the clauses, an assembler has collected what an
assembly has. -/
theorem collected_eq (steps : List Step) : collected steps = (Assembly.empty.run steps).all := by
  rw [collected, origins_empty, (tracks_empty.run steps).all, List.zip_map']
  exact List.map_id _

/-- An assembler keeps plain and hoisted clauses apart in every run from nothing. Its positions are
in range, and they are those of the plain clauses on the path. Every clause has its origin. The
plain clauses on a path are the fold of the constraints pushed there in the order of the calls; the
hoisted clauses and the alternatives come out unchanged and in the order of the calls, but for those
that ask nothing. -/
theorem run_keeps_origins_apart (steps : List Step) :
    (∀ path, ∀ position ∈ (empty.run steps).positions path,
      position < (empty.run steps).all.length) ∧
    (∀ path position, position ∈ (empty.run steps).positions path ↔
      ∃ clause, (collected steps)[position]? = some (.plain, clause) ∧ clause.path = path) ∧
    (collected steps).map Prod.snd = (empty.run steps).all ∧
    (∀ path, (collected steps).filterMap (Assembly.plainConstraint? path) =
      Constraint.foldAll [] (steps.filterMap (Step.pushedAt path))) ∧
    (collected steps).filterMap Assembly.hoistedClause? = steps.flatMap Step.hoistedClauses ∧
    (empty.run steps).any = steps.filterMap Step.alternative? := by
  have h := tracks_empty.run steps
  rw [collected_eq]
  have hpositions (path : String) (position : Nat) :
      position ∈ (empty.run steps).positions path ↔
        ∃ clause, (Assembly.empty.run steps).all[position]? = some (.plain, clause) ∧
          clause.path = path := by
    rw [h.positions, List.mem_idxsOf_iff_exists_getElem_pos]
    simp only [List.length_map, List.getElem_map, beq_iff_eq]
    constructor
    · rintro ⟨hlt, hmark⟩
      have horigin : (Assembly.empty.run steps).all[position].1 = .plain :=
        congrArg Prod.fst hmark
      refine ⟨_, ?_, congrArg Prod.snd hmark⟩
      rw [List.getElem?_eq_getElem hlt]
      exact congrArg some (Prod.ext horigin rfl)
    · rintro ⟨clause, hget, rfl⟩
      obtain ⟨hlt, hentry⟩ := List.getElem?_eq_some_iff.1 hget
      exact ⟨hlt, by rw [hentry]; rfl⟩
  refine ⟨fun path position hp => ?_, hpositions, h.all.symm,
    fun path => Assembly.plainAt_run Assembly.empty steps path,
    Assembly.hoisted_run Assembly.empty steps,
    h.any.trans (Assembly.any_run Assembly.empty steps)⟩
  obtain ⟨clause, hget, -⟩ := (hpositions path position).1 hp
  rw [h.all, List.length_map]
  exact (List.getElem?_eq_some_iff.1 hget).1

end Assembler

end SchemaQuery
