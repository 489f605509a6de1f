import SchemaQuery.Matching.Error

/-!
# Outcomes of conditions

A condition holds, fails or cannot be evaluated. Outcomes are joined from left to right, and the
first that decides the whole, an error included, is the last that is looked at.
-/

namespace SchemaQuery.Matching

/-- Whether a condition holds, or why it cannot be told. -/
abbrev Outcome := Except MatchError Bool

namespace Outcome

/-- The opposite outcome; an error stays. -/
def not : Outcome → Outcome
  | .ok holds => .ok (!holds)
  | .error error => .error error

/-- Both conditions hold; the second is looked at only if the first holds. -/
def and (first : Outcome) (second : Unit → Outcome) : Outcome :=
  match first with
  | .ok true => second ()
  | .ok false => .ok false
  | .error error => .error error

/-- One of the conditions holds; the second is looked at only if the first fails. -/
def or (first : Outcome) (second : Unit → Outcome) : Outcome :=
  match first with
  | .ok true => .ok true
  | .ok false => second ()
  | .error error => .error error

/-- A test holds of some value of a list. -/
def any {α : Type} (test : α → Outcome) : List α → Outcome
  | [] => .ok false
  | value :: rest => or (test value) fun _ => any test rest

/-! ## Laws -/

@[simp] theorem not_ok (holds : Bool) : not (.ok holds) = .ok (!holds) := rfl
@[simp] theorem not_error (error : MatchError) : not (.error error) = .error error := rfl

@[simp] theorem and_true (second : Unit → Outcome) : and (.ok true) second = second () := rfl
@[simp] theorem and_false (second : Unit → Outcome) : and (.ok false) second = .ok false := rfl
@[simp] theorem and_error (error : MatchError) (second : Unit → Outcome) :
    and (.error error) second = .error error := rfl

@[simp] theorem or_true (second : Unit → Outcome) : or (.ok true) second = .ok true := rfl
@[simp] theorem or_false (second : Unit → Outcome) : or (.ok false) second = second () := rfl
@[simp] theorem or_error (error : MatchError) (second : Unit → Outcome) :
    or (.error error) second = .error error := rfl

theorem not_or (first : Outcome) (second : Unit → Outcome) :
    not (or first second) = and (not first) fun _ => not (second ()) := by
  rcases first with _ | _ | _ <;> rfl

@[simp] theorem any_nil {α : Type} (test : α → Outcome) : any test [] = .ok false := rfl

theorem any_cons {α : Type} (test : α → Outcome) (value : α) (rest : List α) :
    any test (value :: rest) = or (test value) fun _ => any test rest := rfl

theorem any_append {α : Type} (test : α → Outcome) (xs ys : List α) :
    any test (xs ++ ys) = or (any test xs) fun _ => any test ys := by
  induction xs with
  | nil => rfl
  | cons x xs ih =>
    rw [List.cons_append, any_cons, any_cons, ih]
    rcases test x with _ | _ | _ <;> rfl

/-- A test that raises no error is an ordinary search. -/
theorem any_ok {α : Type} (test : α → Bool) (xs : List α) :
    any (fun x => .ok (test x)) xs = .ok (xs.any test) := by
  induction xs with
  | nil => rfl
  | cons x xs ih => cases h : test x <;> simp [any_cons, h, ih]

end Outcome

end SchemaQuery.Matching
