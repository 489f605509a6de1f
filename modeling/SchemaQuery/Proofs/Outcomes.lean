import SchemaQuery.Matching.Outcome

/-!
# Joining outcomes

When a chain of conditions holds, fails or can be evaluated, in terms of its members (`all`,
`any`), and the properties of outcomes that a chain of conditions inherits from its members
(`Conjunctive`).
-/

namespace SchemaQuery.Matching

namespace Outcome

variable {α β : Type}

/-- The condition can be evaluated. -/
def Evaluates (outcome : Outcome) : Prop := ∃ holds, outcome = .ok holds

theorem evaluates_ok (holds : Bool) : Evaluates (.ok holds) := ⟨holds, rfl⟩

theorem not_evaluates_error (error : MatchError) : ¬ Evaluates (.error error) := by
  rintro ⟨holds, h⟩
  cases h

theorem Evaluates.eq_true {outcome : Outcome} (h : Evaluates outcome) (hf : outcome ≠ .ok false) :
    outcome = .ok true := by
  obtain ⟨holds, rfl⟩ := h
  cases holds with
  | true => rfl
  | false => exact absurd rfl hf

/-- Conditions that can be evaluated agree if they hold together. -/
theorem Evaluates.eq_of_iff {first second : Outcome} (hf : Evaluates first)
    (hs : Evaluates second) (h : first = .ok true ↔ second = .ok true) : first = second := by
  obtain ⟨holds, rfl⟩ := hf
  obtain ⟨other, rfl⟩ := hs
  cases holds <;> cases other <;> simp_all

/-- A test holds of all values of a list; the first that fails is the last that is looked at. -/
def all (test : α → Outcome) : List α → Outcome
  | [] => .ok true
  | value :: rest => and (test value) fun _ => all test rest

@[simp] theorem all_nil (test : α → Outcome) : all test [] = .ok true := rfl

theorem all_cons (test : α → Outcome) (value : α) (rest : List α) :
    all test (value :: rest) = and (test value) fun _ => all test rest := rfl

/-! ## Two conditions -/

@[simp] theorem and_ok_true (first : Outcome) : (and first fun _ => .ok true) = first := by
  rcases first with _ | _ | _ <;> rfl

theorem and_assoc (first second : Outcome) (third : Unit → Outcome) :
    and (and first fun _ => second) third = and first fun _ => and second third := by
  rcases first with _ | _ | _ <;> rfl

theorem and_eq_true_iff {first : Outcome} {second : Unit → Outcome} :
    and first second = .ok true ↔ first = .ok true ∧ second () = .ok true := by
  rcases first with _ | _ | _ <;> simp

theorem or_eq_false_iff {first : Outcome} {second : Unit → Outcome} :
    or first second = .ok false ↔ first = .ok false ∧ second () = .ok false := by
  rcases first with _ | _ | _ <;> simp

theorem or_eq_true_iff {first : Outcome} {second : Unit → Outcome} :
    or first second = .ok true ↔
      first = .ok true ∨ first = .ok false ∧ second () = .ok true := by
  rcases first with _ | _ | _ <;> simp

theorem not_eq_true_iff {outcome : Outcome} : not outcome = .ok true ↔ outcome = .ok false := by
  rcases outcome with _ | _ | _ <;> simp

@[simp] theorem or_ok_false (first : Outcome) : (or first fun _ => .ok false) = first := by
  rcases first with _ | _ | _ <;> rfl

/-! ## Lists of conditions -/

theorem all_singleton (test : α → Outcome) (x : α) : all test [x] = test x := and_ok_true _

theorem any_singleton (test : α → Outcome) (x : α) : any test [x] = test x := or_ok_false _

/-- A test that raises no error is an ordinary check of all values. -/
theorem all_ok (test : α → Bool) (xs : List α) :
    all (fun x => .ok (test x)) xs = .ok (xs.all test) := by
  induction xs with
  | nil => rfl
  | cons x xs ih =>
    rw [all_cons, ih, List.all_cons]
    cases test x <;> rfl

theorem all_append (test : α → Outcome) (xs ys : List α) :
    all test (xs ++ ys) = and (all test xs) fun _ => all test ys := by
  induction xs with
  | nil => rfl
  | cons x xs ih =>
    rw [List.cons_append, all_cons, all_cons, ih]
    rcases test x with _ | _ | _ <;> rfl

theorem all_flatten (test : α → Outcome) (lists : List (List α)) :
    all test lists.flatten = all (all test) lists := by
  induction lists with
  | nil => rfl
  | cons list rest ih => rw [List.flatten_cons, all_append, ih, all_cons]

theorem all_map (test : β → Outcome) (f : α → β) (xs : List α) :
    all test (xs.map f) = all (fun x => test (f x)) xs := by
  induction xs with
  | nil => rfl
  | cons x xs ih => rw [List.map_cons, all_cons, all_cons, ih]

theorem any_map (test : β → Outcome) (f : α → β) (xs : List α) :
    any test (xs.map f) = any (fun x => test (f x)) xs := by
  induction xs with
  | nil => rfl
  | cons x xs ih => rw [List.map_cons, any_cons, any_cons, ih]

theorem all_congr {test other : α → Outcome} {xs : List α} (h : ∀ x ∈ xs, test x = other x) :
    all test xs = all other xs := by
  induction xs with
  | nil => rfl
  | cons x xs ih =>
    rw [all_cons, all_cons, h x List.mem_cons_self,
      ih fun y hy => h y (List.mem_cons_of_mem _ hy)]

theorem any_congr {test other : α → Outcome} {xs : List α} (h : ∀ x ∈ xs, test x = other x) :
    any test xs = any other xs := by
  induction xs with
  | nil => rfl
  | cons x xs ih =>
    rw [any_cons, any_cons, h x List.mem_cons_self,
      ih fun y hy => h y (List.mem_cons_of_mem _ hy)]

theorem all_eq_true_iff {test : α → Outcome} {xs : List α} :
    all test xs = .ok true ↔ ∀ x ∈ xs, test x = .ok true := by
  induction xs with
  | nil => simp
  | cons x xs ih => rw [all_cons, and_eq_true_iff, ih, List.forall_mem_cons]

theorem any_eq_false_iff {test : α → Outcome} {xs : List α} :
    any test xs = .ok false ↔ ∀ x ∈ xs, test x = .ok false := by
  induction xs with
  | nil => simp
  | cons x xs ih => rw [any_cons, or_eq_false_iff, ih, List.forall_mem_cons]

theorem exists_of_any_eq_true {test : α → Outcome} {xs : List α} (h : any test xs = .ok true) :
    ∃ x ∈ xs, test x = .ok true := by
  induction xs with
  | nil => cases h
  | cons x xs ih =>
    rcases or_eq_true_iff.1 h with hx | ⟨-, hxs⟩
    · exact ⟨x, List.mem_cons_self, hx⟩
    · obtain ⟨y, hy, ht⟩ := ih hxs
      exact ⟨y, List.mem_cons_of_mem _ hy, ht⟩

theorem exists_of_all_eq_false {test : α → Outcome} {xs : List α} (h : all test xs = .ok false) :
    ∃ x ∈ xs, test x = .ok false := by
  induction xs with
  | nil => cases h
  | cons x xs ih =>
    rw [all_cons] at h
    rcases hx : test x with _ | _ | _ <;> rw [hx] at h
    · cases h
    · exact ⟨x, List.mem_cons_self, hx⟩
    · obtain ⟨y, hy, ht⟩ := ih h
      exact ⟨y, List.mem_cons_of_mem _ hy, ht⟩

/-- A list with a value that passes is not refuted, though an error may come first. -/
theorem any_ne_false {test : α → Outcome} {xs : List α} {x : α} (hx : x ∈ xs)
    (ht : test x = .ok true) : any test xs ≠ .ok false := by
  intro h
  have := any_eq_false_iff.1 h x hx
  rw [ht] at this
  cases this

/-- Conditions none of which fails are not refuted together, though one may be an error. -/
theorem all_ne_false {test : α → Outcome} {xs : List α} (h : ∀ x ∈ xs, test x ≠ .ok false) :
    all test xs ≠ .ok false := by
  induction xs with
  | nil => simp
  | cons x xs ih =>
    rw [all_cons]
    have hx := h x List.mem_cons_self
    rcases hv : test x with _ | _ | _
    · simp
    · exact absurd hv hx
    · exact ih fun y hy => h y (List.mem_cons_of_mem _ hy)

theorem any_evaluates {test : α → Outcome} {xs : List α} (h : ∀ x ∈ xs, Evaluates (test x)) :
    Evaluates (any test xs) := by
  induction xs with
  | nil => exact evaluates_ok false
  | cons x xs ih =>
    obtain ⟨holds, hx⟩ := h x List.mem_cons_self
    rw [any_cons, hx]
    cases holds with
    | true => exact evaluates_ok true
    | false => exact ih fun y hy => h y (List.mem_cons_of_mem _ hy)

theorem any_eq_true_iff {test : α → Outcome} {xs : List α} (h : ∀ x ∈ xs, Evaluates (test x)) :
    any test xs = .ok true ↔ ∃ x ∈ xs, test x = .ok true := by
  constructor
  · exact exists_of_any_eq_true
  · rintro ⟨x, hx, ht⟩
    exact (any_evaluates h).eq_true (any_ne_false hx ht)

/-! ## Properties that conjunctions inherit -/

/-- A property of outcomes that a conjunction has as soon as its members have it. -/
structure Conjunctive (Q : Outcome → Prop) : Prop where
  ok_true : Q (.ok true)
  and : ∀ {first second : Outcome}, Q first → Q second → Q (Outcome.and first fun _ => second)

theorem conjunctive_eq_true : Conjunctive (· = .ok true) where
  ok_true := rfl
  and h₁ h₂ := and_eq_true_iff.2 ⟨h₁, h₂⟩

theorem conjunctive_evaluates : Conjunctive Evaluates where
  ok_true := evaluates_ok true
  and := by
    rintro first second ⟨holds, rfl⟩ h
    cases holds with
    | true => exact h
    | false => exact evaluates_ok false

theorem Conjunctive.all {Q : Outcome → Prop} (hQ : Conjunctive Q) {test : α → Outcome}
    {xs : List α} (h : ∀ x ∈ xs, Q (test x)) : Q (all test xs) := by
  induction xs with
  | nil => exact hQ.ok_true
  | cons x xs ih =>
    exact hQ.and (h x List.mem_cons_self) (ih fun y hy => h y (List.mem_cons_of_mem _ hy))

end Outcome

end SchemaQuery.Matching
