import SchemaQuery.Proofs.Readings

/-!
# Compact filters and their expansions

A filter of several keys is the conjunction of its entries, and an object of operators on a path is
the conjunction of the operators one by one, as long as no `$options` is among them
(`fieldsHold_eq_and`, `filterHolds_operators`). Membership in a list is a disjunction of equalities
(`verdict_in_eq_any`). On both sides the same parts are looked at in the same order, so the errors
are the same as well (`holds_expanded`).
-/

namespace SchemaQuery.Matching

variable {document : Json} {path : String}

theorem fieldsHold_eq_and (document : Json) {entries : List (String × Json)} (h : entries ≠ []) :
    fieldsHold document entries =
      fieldsHold document
        [("$and", .arr (entries.map fun entry => .entry entry.1 entry.2))] := by
  rw [fieldsHold_and document (by simpa using h), fieldsHold_eq_all, Outcome.all_map]
  rfl

/-- Without `$options`, the operators on a path can be asked for in clauses of their own. -/
theorem filterHolds_operators (hp : isOperatorKey path = false)
    {operators : List (String × Json)} (ho : isOperatorObject operators = true)
    (hn : "$options" ∉ Entries.keys operators) :
    filterHolds document (.entry path (.obj operators)) =
      Outcome.all (fun entry => filterHolds document (.entry path (.entry entry.1 entry.2)))
        operators := by
  have hkeys := (isOperatorObject_iff.1 ho).2
  have hoptions : ∀ entry ∈ operators, entry.1 ≠ "$options" := by
    rintro entry he heq
    exact hn (heq ▸ Entries.mem_keys_of_mem he)
  rw [filterHolds_entry document hp, conditionHolds, if_pos ho,
    operatorsHold_eq_all _ (Entries.get?_eq_none_iff.2 hn) hoptions]
  refine Outcome.all_congr fun entry he => ?_
  exact (filterHolds_operator document hp (hkeys _ (Entries.mem_keys_of_mem he)) entry.2).symm

/-- Membership tries one equality after the other. -/
theorem verdict_in_eq_any (values list : List Json) :
    verdict values ("$in", .arr list) =
      Outcome.any (fun operand => verdict values ("$eq", operand)) list := by
  rw [verdict_in, inList, equalsSome_eq_any]
  exact Outcome.any_congr fun operand _ => (verdict_eq values operand).symm

theorem verdict_nin_eq_not_in (values list : List Json) :
    verdict values ("$nin", .arr list) = Outcome.not (verdict values ("$in", .arr list)) := by
  rw [verdict_nin, verdict_in, inList, inList]

/-- A path is in a list when one of the equalities holds. -/
theorem any_filterHolds_eq (hp : isOperatorKey path = false) (list : List Json) :
    Outcome.any (filterHolds document)
        (list.map fun operand => .entry path (.entry "$eq" operand)) =
      verdict (Path.resolve document path) ("$in", .arr list) := by
  rw [Outcome.any_map, verdict_in_eq_any]
  exact Outcome.any_congr fun operand _ => filterHolds_operator document hp rfl operand

/-- Compact filters have the same outcome as their expansions, be it an error: a filter is the
conjunction of its entries, an object of operators without `$options` on a path is the conjunction
of the operators, and membership in a list, or in none of it, is a disjunction of equalities, or the
negation of one. -/
theorem holds_expanded (document : Json) :
    (∀ entries : List (String × Json), entries ≠ [] →
      holds document (.obj entries) =
        holds document
          (.entry "$and" (.arr (entries.map fun entry => .entry entry.1 entry.2)))) ∧
    ∀ path : String, isOperatorKey path = false →
      (∀ operators : List (String × Json), isOperatorObject operators = true →
        "$options" ∉ Entries.keys operators →
        holds document (.entry path (.obj operators)) =
          holds document (.entry "$and" (.arr (operators.map fun entry =>
            .entry path (.entry entry.1 entry.2))))) ∧
      ∀ list : List Json, list ≠ [] →
        holds document (.entry path (.entry "$in" (.arr list))) =
          holds document (.entry "$or" (.arr (list.map fun operand =>
            .entry path (.entry "$eq" operand)))) ∧
        holds document (.entry path (.entry "$nin" (.arr list))) =
          holds document (.entry "$nor" (.arr (list.map fun operand =>
            .entry path (.entry "$eq" operand)))) := by
  refine ⟨fun entries hne => fieldsHold_eq_and document hne, fun path hp =>
    ⟨fun operators ho hn => ?_, fun list hne => ⟨?_, ?_⟩⟩⟩
  · have hne : operators ≠ [] := fun hnil => by rw [hnil] at ho; cases ho
    show filterHolds document _ = fieldsHold document [("$and", _)]
    rw [filterHolds_operators hp ho hn, fieldsHold_and document (by simpa using hne),
      Outcome.all_map]
  · show filterHolds document _ = fieldsHold document [("$or", _)]
    rw [filterHolds_operator document hp rfl, fieldsHold_or document (by simpa using hne),
      any_filterHolds_eq hp]
  · show filterHolds document _ = fieldsHold document [("$nor", _)]
    rw [filterHolds_operator document hp rfl, fieldsHold_nor document (by simpa using hne),
      any_filterHolds_eq hp, verdict_nin_eq_not_in]

/-- The value of the only field is an operand that is found, then comes an error: an operator that
filters do not have, one that needs a list, and a malformed envelope. -/
theorem ageFilters_expanded :
    (holds (.entry "age" (.int 3)) (.obj [("age", .int 3), ("$where", .int 1)]) =
        .error (.unknownOperator "$where") ∧
      holds (.entry "age" (.int 3)) (.obj [("age", .int 3), ("$where", .int 1)]) =
        holds (.entry "age" (.int 3))
          (.entry "$and" (.arr [.entry "age" (.int 3), .entry "$where" (.int 1)]))) ∧
    (isOperatorKey "age" = false ∧
      isOperatorObject [("$gt", .int 2), ("$in", .null)] = true ∧
      "$options" ∉ Entries.keys [("$gt", Json.int 2), ("$in", .null)] ∧
      holds (.entry "age" (.int 3)) (.entry "age" (.obj [("$gt", .int 2), ("$in", .null)])) =
        holds (.entry "age" (.int 3)) (.entry "$and" (.arr [.entry "age" (.entry "$gt" (.int 2)),
          .entry "age" (.entry "$in" .null)]))) ∧
    holds (.entry "age" (.int 3)) (.entry "age" (.entry "$nin" (.arr [.int 4, envelope .null]))) =
      holds (.entry "age" (.int 3)) (.entry "$nor" (.arr [.entry "age" (.entry "$eq" (.int 4)),
        .entry "age" (.entry "$eq" (envelope .null))])) := by
  have herror : holds (.entry "age" (.int 3)) (.obj [("age", .int 3), ("$where", .int 1)]) =
      .error (.unknownOperator "$where") := by cbv
  have hpath : isOperatorKey "age" = false := rfl
  have hoperators : isOperatorObject [("$gt", .int 2), ("$in", .null)] = true := by decide
  have hoptions : "$options" ∉ Entries.keys [("$gt", Json.int 2), ("$in", .null)] := by decide
  obtain ⟨hentries, hage⟩ := holds_expanded (.entry "age" (.int 3))
  obtain ⟨hconditions, hlists⟩ := hage "age" hpath
  exact ⟨⟨herror, hentries [("age", .int 3), ("$where", .int 1)] (by simp)⟩,
    ⟨hpath, hoperators, hoptions, hconditions _ hoperators hoptions⟩,
    (hlists [.int 4, envelope .null] (by simp)).2⟩

end SchemaQuery.Matching
