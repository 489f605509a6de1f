import Mathlib.Algebra.BigOperators.Group.List.Basic
import Mathlib.Algebra.Order.Group.Multiset
import SchemaQuery.Proofs.Merging

/-!
# Folding conserves what is asked

Taken apart into atoms, a merged constraint asks for what the two constraints ask for, each piece
as often (`atoms_merge?`). A fold puts a fragment into the first conjunct without a clash, or
behind the others (`placed_fold`), and what lies in the conjunct at a place stays in it
(`exists_within_foldAll_at`). Hence folding loses, duplicates and overwrites nothing
(`foldAll_conserves`).
-/

namespace SchemaQuery

namespace Constraint

/-! ## Atoms -/

/-- A piece of what a constraint asks for: a value under a key, an element of a list that may grow,
or a condition in the body of an envelope. -/
inductive Atom
  | value (key : String) (value : Json)
  | item (key : String) (item : Json)
  | inner (entry : String × Json)

/-- The atoms of a value under a key. -/
def atomsUnder (key : String) : Json → Multiset Atom
  | .arr items =>
    if key ∈ listKeys then (items.map (Atom.item key) : List Atom) else {.value key (.arr items)}
  | .obj body =>
    if key = elemMatchKey then (body.map Atom.inner : List Atom) else {.value key (.obj body)}
  | value => {.value key value}

/-- The atoms of a constraint. -/
def atoms (constraint : Constraint) : Multiset Atom :=
  (constraint.map fun entry => atomsUnder entry.1 entry.2).sum

/-- The atoms of several constraints together. -/
def allAtoms (constraints : List Constraint) : Multiset Atom := (constraints.map atoms).sum

theorem atoms_cons (key : String) (value : Json) (rest : Constraint) :
    atoms ((key, value) :: rest) = atomsUnder key value + atoms rest := by
  simp [atoms]

theorem atoms_append (xs ys : Constraint) : atoms (xs ++ ys) = atoms xs + atoms ys := by
  simp [atoms]

@[simp] theorem allAtoms_nil : allAtoms [] = 0 := rfl

@[simp] theorem allAtoms_cons (constraint : Constraint) (rest : List Constraint) :
    allAtoms (constraint :: rest) = atoms constraint + allAtoms rest := by
  simp [allAtoms]

@[simp] theorem allAtoms_append (xs ys : List Constraint) :
    allAtoms (xs ++ ys) = allAtoms xs + allAtoms ys := by
  simp [allAtoms]

theorem atomsUnder_combine {key : String} {existing incoming : Json}
    (hd : DistinctBody key incoming) (h : collides key (some existing) incoming = false) :
    atomsUnder key (combine existing incoming) =
      atomsUnder key existing + atomsUnder key incoming := by
  rcases collides_some_eq_false_iff.1 h with
    ⟨hk, body, other, rfl, rfl, hdisj⟩ | ⟨hk, items, others, rfl, rfl⟩
  · rw [combine, Entries.insertAll_eq_append (hd hk _ rfl) hdisj]
    simp [atomsUnder, hk]
  · simp [combine, atomsUnder, hk]

theorem atoms_insert {entries : Constraint} {key : String} {existing value : Json}
    {more : Multiset Atom} (h : Entries.get? entries key = some existing)
    (hv : atomsUnder key value = atomsUnder key existing + more) :
    atoms (Entries.insert entries key value) = atoms entries + more := by
  induction entries with
  | nil => cases h
  | cons entry rest ih =>
    obtain ⟨k, v⟩ := entry
    rw [Entries.get?] at h
    rw [Entries.insert]
    split at h
    · rename_i hk
      cases h
      rw [if_pos hk, hk, atoms_cons, atoms_cons, hv, add_right_comm]
    · rename_i hk
      rw [if_neg hk, atoms_cons, atoms_cons, ih h, add_assoc]

theorem atoms_add {target : Constraint} {key : String} {incoming : Json}
    (hd : DistinctBody key incoming)
    (h : collides key (Entries.get? target key) incoming = false) :
    atoms (target.add key incoming) = atoms target + atomsUnder key incoming := by
  rw [add]
  cases hg : Entries.get? target key with
  | none => rw [atoms_append]; simp [atoms]
  | some existing =>
    rw [hg] at h
    exact atoms_insert hg (atomsUnder_combine hd h)

/-- The entries of a fragment have different keys, so adding one of them changes nothing for the
clash test of those after it. -/
theorem atoms_foldl_add {fragment target : Constraint} (hn : (Entries.keys fragment).Nodup)
    (hd : ∀ entry ∈ fragment, DistinctBody entry.1 entry.2)
    (h : ∀ entry ∈ fragment, collides entry.1 (Entries.get? target entry.1) entry.2 = false) :
    atoms (fragment.foldl (fun (c : Constraint) entry => c.add entry.1 entry.2) target) =
      atoms target + atoms fragment := by
  induction fragment generalizing target with
  | nil => simp [atoms]
  | cons entry rest ih =>
    obtain ⟨key, incoming⟩ := entry
    rw [Entries.keys_cons, List.nodup_cons] at hn
    rw [List.forall_mem_cons] at hd h
    have hrest : ∀ entry ∈ rest,
        collides entry.1 (Entries.get? (target.add key incoming) entry.1) entry.2 = false := by
      intro entry he
      have hk : key ≠ entry.1 := fun hk => hn.1 (hk ▸ Entries.mem_keys_of_mem he)
      rw [get?_add, if_neg hk]
      exact h.2 entry he
    rw [List.foldl_cons, ih hn.2 hd.2 hrest, atoms_add hd.1 h.1, atoms_cons, add_assoc]

variable {target fragment merged : Constraint}

/-- A merge asks for what the two constraints ask for, each piece as often. -/
theorem atoms_merge? (hf : fragment.Regular) (h : target.merge? fragment = some merged) :
    atoms merged = atoms target + atoms fragment := by
  have hget : ∀ entry ∈ fragment, Entries.get? fragment entry.1 = some entry.2 :=
    fun entry he => Entries.get?_eq_some_of_mem hf.nodup he
  have hc := fun entry he => not_collides_of_merge? h (hget entry he)
  rw [merge?] at h
  split at h
  · cases h
  · cases h
    exact atoms_foldl_add hf.nodup (fun entry he => hf.body _ _ (hget entry he)) hc

/-! ## The place of a fragment -/

/-- Two values under a key can be joined: bodies of envelopes without a common key, or lists that
may be concatenated. -/
inductive Joinable : String → Json → Json → Prop
  | bodies {body other : Constraint} (h : ∀ inner ∈ Entries.keys other, inner ∉ Entries.keys body) :
    Joinable elemMatchKey (.obj body) (.obj other)
  | lists {key : String} {items others : List Json} (hk : key ∈ listKeys) :
    Joinable key (.arr items) (.arr others)

/-- Both constraints have a key whose values cannot be joined. -/
def Clashes (target fragment : Constraint) : Prop :=
  ∃ key existing incoming, Entries.get? target key = some existing ∧ (key, incoming) ∈ fragment ∧
    ¬Joinable key existing incoming

theorem joinable_iff_collides {key : String} {existing incoming : Json} :
    Joinable key existing incoming ↔ collides key (some existing) incoming = false := by
  rw [collides_some_eq_false_iff]
  constructor
  · rintro (⟨h⟩ | ⟨hk⟩)
    · exact .inl ⟨rfl, _, _, rfl, rfl, h⟩
    · exact .inr ⟨hk, _, _, rfl, rfl⟩
  · rintro (⟨rfl, _, _, rfl, rfl, h⟩ | ⟨hk, _, _, rfl, rfl⟩)
    · exact .bodies h
    · exact .lists hk

theorem clashes_iff_merge? : Clashes target fragment ↔ target.merge? fragment = none := by
  rw [merge?_eq_none_iff]
  constructor
  · rintro ⟨key, existing, incoming, hg, hm, hj⟩
    rw [joinable_iff_collides, Bool.not_eq_false] at hj
    exact ⟨_, hm, by rw [hg, hj]⟩
  · rintro ⟨⟨key, incoming⟩, hm, hc⟩
    cases hg : Entries.get? target key with
    | none => rw [hg] at hc; cases hc
    | some existing =>
      rw [hg] at hc
      exact ⟨key, existing, incoming, hg, hm, by rw [joinable_iff_collides, hc]; simp⟩

/-- A fragment gets its place among conjuncts: in the first one with which it does not clash, whose
values all stay, or behind them if it clashes with each. The other conjuncts stay as they are. -/
inductive Placed (fragment : Constraint) : List Constraint → Nat → List Constraint → Prop
  | joined {front : List Constraint} {target merged : Constraint} {back : List Constraint}
    (hfront : ∀ other ∈ front, Clashes other fragment) (h : ¬Clashes target fragment)
    (hm : target.merge? fragment = some merged) (hw : Within target merged) :
    Placed fragment (front ++ target :: back) front.length (front ++ merged :: back)
  | appended {conjuncts : List Constraint} (h : ∀ other ∈ conjuncts, Clashes other fragment) :
    Placed fragment conjuncts conjuncts.length (conjuncts ++ [fragment])

variable {conjuncts result : List Constraint} {place : Nat}

theorem Placed.cons (hc : Clashes target fragment) (h : Placed fragment conjuncts place result) :
    Placed fragment (target :: conjuncts) (place + 1) (target :: result) := by
  cases h with
  | @joined front _ _ _ hfront hn hm hw =>
    exact @Placed.joined _ (target :: front) _ _ _ (List.forall_mem_cons.2 ⟨hc, hfront⟩) hn hm hw
  | appended hall => exact .appended (List.forall_mem_cons.2 ⟨hc, hall⟩)

theorem placed_fold (hf : fragment.Regular) (conjuncts : List Constraint) :
    ∃ place, Placed fragment conjuncts place (fold conjuncts fragment) := by
  induction conjuncts with
  | nil => exact ⟨0, .appended (by simp)⟩
  | cons target rest ih =>
    cases h : target.merge? fragment with
    | none =>
      obtain ⟨place, hp⟩ := ih
      rw [fold_cons_of_rejected _ h]
      exact ⟨place + 1, hp.cons (clashes_iff_merge?.2 h)⟩
    | some merged =>
      rw [fold_cons_of_merge? _ h]
      have hn : ¬Clashes target fragment := by rw [clashes_iff_merge?, h]; simp
      exact ⟨0, @Placed.joined _ [] _ _ _ (by simp) hn h (within_merge?_left hf h)⟩

theorem Placed.allAtoms (hf : fragment.Regular) (h : Placed fragment conjuncts place result) :
    allAtoms result = Constraint.allAtoms conjuncts + atoms fragment := by
  cases h with
  | joined _ _ hm _ =>
    simp only [allAtoms_append, allAtoms_cons, atoms_merge? hf hm]
    ac_rfl
  | appended _ => simp

theorem Placed.exists_within (hf : fragment.Regular) (h : Placed fragment conjuncts place result) :
    ∃ constraint, result[place]? = some constraint ∧ Within fragment constraint := by
  cases h with
  | joined _ _ hm _ => exact ⟨_, by simp, within_merge?_right hf hm⟩
  | appended _ => exact ⟨fragment, by simp, Within.refl fragment⟩

/-! ## Runs of folds -/

variable {fragments : List Constraint}

theorem allAtoms_foldAll (conjuncts : List Constraint)
    (hf : ∀ fragment ∈ fragments, fragment.Regular) :
    allAtoms (foldAll conjuncts fragments) = allAtoms conjuncts + allAtoms fragments := by
  induction fragments generalizing conjuncts with
  | nil => simp [foldAll]
  | cons fragment rest ih =>
    rw [List.forall_mem_cons] at hf
    obtain ⟨place, hp⟩ := placed_fold hf.1 conjuncts
    rw [foldAll_cons, ih _ hf.2, hp.allAtoms hf.1, allAtoms_cons, add_assoc]

/-- Folding loses, duplicates and overwrites nothing: all atoms are kept, each fragment gets its
place at its turn, and from then on it lies within the conjunct there. Fragments repeat no key, as
no object does that is read; the conjuncts at the start may be any. -/
theorem foldAll_conserves (conjuncts fragments : List Constraint)
    (hf : ∀ fragment ∈ fragments, fragment.Regular) :
    allAtoms (foldAll conjuncts fragments) = allAtoms conjuncts + allAtoms fragments ∧
    ∀ before fragment after, fragments = before ++ fragment :: after →
      ∃ place,
        Placed fragment (foldAll conjuncts before) place
          (foldAll conjuncts (before ++ [fragment])) ∧
        ∀ later, later <+: after → ∃ constraint,
          (foldAll conjuncts (before ++ fragment :: later))[place]? = some constraint ∧
            Within fragment constraint := by
  refine ⟨allAtoms_foldAll conjuncts hf, ?_⟩
  rintro before fragment after rfl
  rw [List.forall_mem_append, List.forall_mem_cons] at hf
  obtain ⟨-, hfrag, hafter⟩ := hf
  obtain ⟨place, hp⟩ := placed_fold hfrag (foldAll conjuncts before)
  refine ⟨place, by rw [foldAll_append]; exact hp, fun later hl => ?_⟩
  obtain ⟨first, hfirst, hw⟩ := hp.exists_within hfrag
  obtain ⟨last, hlast, hw'⟩ :=
    exists_within_foldAll_at (fun other ho => hafter other (hl.subset ho)) hfirst
  exact ⟨last, by rw [foldAll_append, foldAll_cons]; exact hlast, hw.trans hw'⟩

/-! ### Lists, bodies and what only looks like them -/

/-- Under `$all`, the second conjunct holds no list. -/
def mixedStart : List Constraint :=
  [[(elemMatchKey, .entry "$gt" (.int 5))], [("$all", .str "x")]]

/-- The first conjunct could take one half of it only. -/
def halfFragment : Constraint := [("$size", .int 2), ("$nin", .arr [.int 4])]

def mixedFragments : List Constraint :=
  [[("$all", .arr [.int 1, .int 2]), (elemMatchKey, .entry "$lt" (.int 9))],
    [("$nin", .int 3), ("$all", .arr [.int 3])],
    halfFragment,
    [("$eq", .int 1), (elemMatchKey, .int 7)],
    [(elemMatchKey, .entry "$gt" (.int 1)), ("$eq", .int 1)]]

def mixedResult : List Constraint :=
  [[(elemMatchKey, .obj [("$gt", .int 5), ("$lt", .int 9)]),
      ("$all", .arr [.int 1, .int 2, .int 3]), ("$nin", .int 3)],
    [("$all", .str "x"), ("$size", .int 2), ("$nin", .arr [.int 4]), ("$eq", .int 1),
      (elemMatchKey, .int 7)],
    [(elemMatchKey, .entry "$gt" (.int 1)), ("$eq", .int 1)]]

theorem mixedFragments_conserved :
    foldAll mixedStart mixedFragments = mixedResult ∧
    allAtoms mixedResult = allAtoms mixedStart + allAtoms mixedFragments ∧
    ∃ place,
      Placed halfFragment (foldAll mixedStart (mixedFragments.take 2)) place
        (foldAll mixedStart (mixedFragments.take 3)) ∧
      ∀ later, later <+: mixedFragments.drop 3 → ∃ constraint,
        (foldAll mixedStart (mixedFragments.take 2 ++ halfFragment :: later))[place]? =
          some constraint ∧ Within halfFragment constraint := by
  have hresult : foldAll mixedStart mixedFragments = mixedResult := rfl
  have hregular : ∀ fragment ∈ mixedFragments, fragment.Regular := by decide
  obtain ⟨hatoms, hplaces⟩ := foldAll_conserves mixedStart mixedFragments hregular
  rw [hresult] at hatoms
  exact ⟨hresult, hatoms,
    hplaces (mixedFragments.take 2) halfFragment (mixedFragments.drop 3) rfl⟩

end Constraint

end SchemaQuery
