import SchemaQuery.Filter
import SchemaQuery.Proofs.Verdicts

/-!
# Evaluating compiled filters

A compiled filter holds of a document when all its clauses hold and, if there are alternatives, all
clauses of one of them (`holds_toDocument`). A clause on a path that could be a field is decided by
its operators on the values reached (`holds_clause`); on any other path it is an error
(`holds_clause_of_operatorKey`).
-/

namespace SchemaQuery.Matching

/-! ## Lists of clauses -/

theorem someClause_true (document : Json) (clauses : List Json) :
    someClause document true clauses = Outcome.any (filterHolds document) clauses := by
  induction clauses with
  | nil => rfl
  | cons clause rest ih =>
    rw [someClause, ih, Outcome.any_cons]
    rcases filterHolds document clause with _ | _ | _ <;> rfl

theorem not_someClause_false (document : Json) (clauses : List Json) :
    Outcome.not (someClause document false clauses) =
      Outcome.all (filterHolds document) clauses := by
  induction clauses with
  | nil => rfl
  | cons clause rest ih =>
    rw [someClause, Outcome.not_or, ih, Outcome.all_cons]
    rcases filterHolds document clause with _ | _ | _ <;> rfl

theorem fieldsHold_append (document : Json) (xs ys : List (String × Json)) :
    fieldsHold document (xs ++ ys) =
      Outcome.and (fieldsHold document xs) fun _ => fieldsHold document ys := by
  induction xs with
  | nil => rfl
  | cons entry rest ih =>
    obtain ⟨key, condition⟩ := entry
    rw [List.cons_append, fieldsHold, fieldsHold, ih, Outcome.and_assoc]

theorem fieldsHold_and (document : Json) {clauses : List Json} (h : clauses ≠ []) :
    fieldsHold document [("$and", .arr clauses)] =
      Outcome.all (filterHolds document) clauses := by
  have hk : FilterKey.ofString "$and" = .logical .and := rfl
  rw [fieldsHold, hk, fieldsHold, Outcome.and_ok_true, ← not_someClause_false]
  cases clauses with
  | nil => exact absurd rfl h
  | cons clause rest =>
    simp only [clausesHold, LogicalOperator.decisive]
    rcases someClause document false (clause :: rest) with _ | _ <;> rfl

theorem fieldsHold_or (document : Json) {clauses : List Json} (h : clauses ≠ []) :
    fieldsHold document [("$or", .arr clauses)] =
      Outcome.any (filterHolds document) clauses := by
  have hk : FilterKey.ofString "$or" = .logical .or := rfl
  rw [fieldsHold, hk, fieldsHold, Outcome.and_ok_true, ← someClause_true]
  cases clauses with
  | nil => exact absurd rfl h
  | cons clause rest =>
    simp only [clausesHold, LogicalOperator.decisive]
    rcases someClause document true (clause :: rest) with _ | _ <;> rfl

theorem fieldsHold_nor (document : Json) {clauses : List Json} (h : clauses ≠ []) :
    fieldsHold document [("$nor", .arr clauses)] =
      Outcome.not (Outcome.any (filterHolds document) clauses) := by
  have hk : FilterKey.ofString "$nor" = .logical .nor := rfl
  rw [fieldsHold, hk, fieldsHold, Outcome.and_ok_true, ← someClause_true]
  cases clauses with
  | nil => exact absurd rfl h
  | cons clause rest =>
    simp only [clausesHold, LogicalOperator.decisive]
    rcases someClause document true (clause :: rest) with _ | _ <;> rfl

/-! ## Conditions on a path -/

theorem ofString_of_not_operatorKey {key : String} (h : isOperatorKey key = false) :
    FilterKey.ofString key = .path := by
  have hl : LogicalOperator.ofKey? key = none := by
    rw [LogicalOperator.ofKey?]
    split
    · subst_vars; cases h
    split
    · subst_vars; cases h
    split
    · subst_vars; cases h
    rfl
  rw [FilterKey.ofString, hl]
  simp [h]

/-- A key that could be a field is a path to the values that the condition is about. -/
theorem filterHolds_entry (document : Json) {path : String} (hp : isOperatorKey path = false)
    (condition : Json) :
    filterHolds document (.entry path condition) =
      conditionHolds (Path.resolve document path) condition := by
  rw [Json.entry, filterHolds, fieldsHold, ofString_of_not_operatorKey hp, fieldsHold,
    Outcome.and_ok_true]

theorem filterHolds_operator (document : Json) {path : String} (hp : isOperatorKey path = false)
    {key : String} (hk : isOperatorKey key = true) (operand : Json) :
    filterHolds document (.entry path (.entry key operand)) =
      verdict (Path.resolve document path) (key, operand) := by
  have hoperators : isOperatorObject [(key, operand)] = true := by simp [isOperatorObject, hk]
  rw [filterHolds_entry document hp, Json.entry, conditionHolds, if_pos hoperators, verdict]

/-! ## Clauses -/

/-- The outcome of a clause on a document. -/
def clauseHolds (document : Json) (clause : Clause) : Outcome :=
  filterHolds document clause.toDocument

theorem holds_clause {document : Json} {path : String} {constraint : Constraint}
    (hp : isOperatorKey path = false) (hc : Conditions constraint) :
    clauseHolds document ⟨path, constraint⟩ =
      Outcome.all (verdict (Path.resolve document path)) constraint := by
  rw [clauseHolds, Clause.toDocument, filterHolds_entry document hp, conditionHolds_obj hc]

/-- A path that reads as an operator cannot be asked for. -/
theorem holds_clause_of_operatorKey (document : Json) {path : String} (constraint : Constraint)
    (hp : isOperatorKey path = true) :
    ∃ error, clauseHolds document ⟨path, constraint⟩ = .error error := by
  rw [clauseHolds, Clause.toDocument, Json.entry, filterHolds, fieldsHold, fieldsHold,
    Outcome.and_ok_true]
  cases hk : FilterKey.ofString path with
  | logical operator => exact ⟨_, rfl⟩
  | unknown => exact ⟨_, rfl⟩
  | path =>
    rw [FilterKey.ofString] at hk
    cases hl : LogicalOperator.ofKey? path <;> simp [hl, hp] at hk

/-! ## Filters -/

theorem holds_conjunction (document : Json) {clauses : List Clause} (h : clauses ≠ []) :
    filterHolds document (Filter.conjunction clauses) =
      Outcome.all (clauseHolds document) clauses := by
  rw [Filter.conjunction, Json.entry, filterHolds, fieldsHold_and document (by simpa using h),
    Outcome.all_map]
  rfl

theorem holds_alternative (document : Json) {clauses : List Clause} (h : clauses ≠ []) :
    filterHolds document (Filter.alternative clauses) =
      Outcome.all (clauseHolds document) clauses := by
  rw [Filter.alternative.eq_def]
  split
  · exact (Outcome.and_ok_true _).symm
  · exact holds_conjunction document h

/-- The outcome of the alternatives of a filter; without any, nothing is asked. -/
def alternativesHold (document : Json) (alternatives : List (List Clause)) : Outcome :=
  if alternatives.isEmpty then .ok true
  else Outcome.any (Outcome.all (clauseHolds document)) alternatives

theorem holds_toDocument (document : Json) {filter : Filter}
    (h : ∀ alternative ∈ filter.any, alternative ≠ []) :
    holds document filter.toDocument =
      Outcome.and (Outcome.all (clauseHolds document) filter.all) fun _ =>
        alternativesHold document filter.any := by
  have hall : fieldsHold document (if filter.all.isEmpty then []
      else [("$and", .arr (filter.all.map Clause.toDocument))]) =
        Outcome.all (clauseHolds document) filter.all := by
    cases ha : filter.all with
    | nil => rfl
    | cons clause rest =>
      rw [if_neg (by simp), fieldsHold_and document (by simp), Outcome.all_map]
      rfl
  have hany : fieldsHold document (if filter.any.isEmpty then []
      else [("$or", .arr (filter.any.map Filter.alternative))]) =
        alternativesHold document filter.any := by
    rw [alternativesHold]
    split
    · rfl
    · rename_i hne
      have hne : filter.any ≠ [] := fun h => hne (List.isEmpty_iff.2 h)
      rw [fieldsHold_or document (by simpa using hne), Outcome.any_map]
      exact Outcome.any_congr fun clauses hc => holds_alternative document (h clauses hc)
  rw [holds, Filter.toDocument, filterHolds, fieldsHold_append, hall, hany]

/-- A filter without alternatives holds when its clauses do. -/
theorem holds_required (document : Json) (clauses : List Clause) :
    holds document (Filter.toDocument ⟨clauses, []⟩) =
      Outcome.all (clauseHolds document) clauses := by
  have hnil : ∀ alternative ∈ ([] : List (List Clause)), alternative ≠ [] := by simp
  rw [holds_toDocument document hnil]
  exact Outcome.and_ok_true _

/-- A filter of alternatives only holds when they do. -/
theorem holds_alternatives (document : Json) {alternatives : List (List Clause)}
    (h : ∀ alternative ∈ alternatives, alternative ≠ []) :
    holds document (Filter.toDocument ⟨[], alternatives⟩) =
      alternativesHold document alternatives := by
  rw [holds_toDocument document h]
  rfl

end SchemaQuery.Matching
