import SchemaQuery.Proofs.Readings

/-!
# Operators that are not supported

An operator is unsupported where it stands if none of the operators of that place has its key
(`Reading.Unsupported`). Matching never guesses what such an operator might ask for: it reports one
of them, or the outcome is what it would be with anything else in their places
(`Replaced.unmoved`). So it fails wherever the outcome depends on them
(`holds_reports_unsupported`). Where it is settled before any of them is reached, they go unnoticed
(`unsupported_unnoticed`).
-/

namespace SchemaQuery.Matching

open Outcome (Congruence)

/-! ## Unsupported operators -/

namespace Reading

/-- The keys of the object are those of operators on values. -/
def readsOperators : Reading → List (String × Json) → Bool
  | .condition, entries => isOperatorObject entries
  | .body, entries => isElementCondition entries
  | _, _ => false

/-- In an object that is read in this way, no operator has the key, though one is asked for. -/
def Unsupported (reading : Reading) (entries : List (String × Json)) (key : String) : Prop :=
  if reading.readsOperators entries then StoreOperator.ofKey? key = none
  else (reading = .filter ∨ reading = .body) ∧ FilterKey.ofString key = .unknown

instance (reading : Reading) (entries : List (String × Json)) (key : String) :
    Decidable (reading.Unsupported entries key) :=
  inferInstanceAs (Decidable (if reading.readsOperators entries then _ else _))

/-- Two objects are alike to their operators: in both, keys are read in the same way, and patterns
have the same flags. -/
structure Alike (reading : Reading) (es fs : List (String × Json)) : Prop where
  operators : reading.readsOperators es = reading.readsOperators fs
  options : reading.readsOperators es = true →
    Entries.get? es "$options" = Entries.get? fs "$options"
  regex : reading.readsOperators es = true →
    Entries.contains es "$regex" = Entries.contains fs "$regex"

end Reading

/-- A part of a filter that is read in this way asks somewhere for an operator with the key, which
is not supported there. -/
inductive HasUnsupported (key : String) : Reading → Json → Prop
  | here {reading : Reading} {entries : List (String × Json)} {value : Json}
    (hm : (key, value) ∈ entries) (h : reading.Unsupported entries key) :
    HasUnsupported key reading (.obj entries)
  | value {reading : Reading} {entries : List (String × Json)} {entry : String × Json}
    (hm : entry ∈ entries) (h : HasUnsupported key (reading.ofKey entries entry.1) entry.2) :
    HasUnsupported key reading (.obj entries)
  | item {reading : Reading} {items : List Json} {item : Json} (hm : item ∈ items)
    (h : HasUnsupported key reading.ofItem item) : HasUnsupported key reading (.arr items)

/-- The second value is the first with other entries in the places of unsupported operators; the
objects in which they stand stay alike. -/
inductive Replaced : Reading → Json → Json → Prop
  | refl (reading : Reading) (value : Json) : Replaced reading value value
  | items {reading : Reading} {xs ys : List Json} (hl : xs.length = ys.length)
    (h : ∀ x y, (x, y) ∈ xs.zip ys → Replaced reading.ofItem x y) :
    Replaced reading (.arr xs) (.arr ys)
  | entries {reading : Reading} {es fs : List (String × Json)} (hl : es.length = fs.length)
    (ha : reading.Alike es fs)
    (hk : ∀ e f, (e, f) ∈ es.zip fs → ¬reading.Unsupported es e.1 → e.1 = f.1)
    (h : ∀ e f, (e, f) ∈ es.zip fs → ¬reading.Unsupported es e.1 →
      Replaced (reading.ofKey es e.1) e.2 f.2) :
    Replaced reading (.obj es) (.obj fs)

/-! ## Outcomes that are reported or kept -/

/-- The first outcome reports an unsupported operator, or the second is the same. -/
def Outcome.Unmoved (P : String → Prop) (first second : Outcome) : Prop :=
  (∃ key, P key ∧ first = .error (.unknownOperator key)) ∨ first = second

theorem unmoved_congruence (P : String → Prop) : Congruence (Outcome.Unmoved P) where
  refl outcome := .inr rfl
  map f h := by
    rcases h with ⟨key, hkey, rfl⟩ | rfl
    · exact .inl ⟨key, hkey, rfl⟩
    · exact .inr rfl
  and := by
    rintro first second next other (⟨key, hkey, rfl⟩ | rfl) ho
    · exact .inl ⟨key, hkey, rfl⟩
    · rcases first with _ | _ | _
      · exact .inr rfl
      · exact .inr rfl
      · exact ho

/-! ## Objects with replaced entries -/

namespace Reading

variable {reading : Reading} {entries : List (String × Json)} {key : String}

theorem unsupported_iff_of_operators (h : reading.readsOperators entries = true) :
    reading.Unsupported entries key ↔ StoreOperator.ofKey? key = none := by
  rw [Unsupported, if_pos h]

theorem unsupported_iff_of_fields (h : reading.readsOperators entries = false) :
    reading.Unsupported entries key ↔
      (reading = .filter ∨ reading = .body) ∧ FilterKey.ofString key = .unknown := by
  rw [Unsupported, if_neg (by simp [h])]

theorem ofKey_of_operators (h : reading.readsOperators entries = true) :
    reading.ofKey entries key = ofOperator key := by
  cases reading with
  | condition => exact if_pos h
  | body => exact if_pos h
  | _ => cases h

end Reading

theorem eq_of_zip {α : Type} {xs ys : List α} (hl : xs.length = ys.length)
    (h : ∀ x y, (x, y) ∈ xs.zip ys → x = y) : xs = ys := by
  rw [← List.forall₂_eq_eq_eq, List.forall₂_iff_zip]
  exact ⟨hl, fun hm => h _ _ hm⟩

/-- Data holds no operators. -/
theorem not_hasUnsupported_data (key : String) (value : Json) :
    ¬HasUnsupported key .data value := by
  intro h
  generalize hr : Reading.data = reading at h
  induction h with
  | here _ hs =>
    subst hr
    rw [Reading.unsupported_iff_of_fields rfl] at hs
    simp at hs
  | value _ _ ih =>
    subst hr
    exact ih rfl
  | item _ _ ih =>
    subst hr
    exact ih rfl

variable {P : String → Prop} {reading : Reading} {es fs : List (String × Json)}

/-- What holds no unsupported operator is not changed. -/
theorem Replaced.eq_of_supported {f g : Json} (h : Replaced reading f g)
    (hs : ∀ key, ¬HasUnsupported key reading f) : f = g := by
  induction h with
  | refl => rfl
  | items hl _ ih =>
    rw [eq_of_zip hl fun x y hm =>
      ih x y hm fun key hkey => hs key (.item (List.of_mem_zip hm).1 hkey)]
  | entries hl _ hk _ ih =>
    refine congrArg Json.obj (eq_of_zip hl fun e f hm => ?_)
    have he := (List.of_mem_zip hm).1
    have hu := fun hu => hs e.1 (.here he hu)
    exact Prod.ext (hk e f hm hu) (ih e f hm hu fun key hkey => hs key (.value he hkey))

/-- An object without unsupported keys whose values are all read as data is not changed. -/
theorem Replaced.eq_of_unread (h : Replaced reading (.obj es) (.obj fs))
    (hu : ∀ key, ¬reading.Unsupported es key) (hdata : ∀ key, reading.ofKey es key = .data) :
    es = fs := by
  refine Json.obj.inj (h.eq_of_supported fun key hs => ?_)
  cases hs with
  | here _ hs => exact hu key hs
  | value _ hs =>
    rw [hdata] at hs
    exact not_hasUnsupported_data _ _ hs

/-- The entries of an object that is read in this way are replaced only where they are not
supported; elsewhere they have the same keys and values with the same outcome. -/
def Reading.EntriesUnmoved (reading : Reading) (P : String → Prop)
    (es fs : List (String × Json)) : Prop :=
  List.Forall₂ (fun e f => reading.Unsupported es e.1 ∧ P e.1 ∨
    e.1 = f.1 ∧ (reading.ofKey es e.1).Related (Outcome.Unmoved P) e.2 f.2) es fs

theorem Reading.EntriesUnmoved.fieldsHold (h : reading.EntriesUnmoved P es fs)
    (hf : reading.readsOperators es = false)
    (hchild : ∀ key, reading.ofKey es key = ofFilterKey key) (document : Json) :
    Outcome.Unmoved P (Matching.fieldsHold document es) (Matching.fieldsHold document fs) := by
  rw [fieldsHold_eq_all, fieldsHold_eq_all document fs]
  refine (unmoved_congruence P).all (h.imp ?_)
  rintro ⟨key, x⟩ ⟨other, y⟩ (⟨hs, hP⟩ | ⟨rfl, hr⟩)
  · refine .inl ⟨key, hP, ?_⟩
    rw [Matching.fieldsHold, ((unsupported_iff_of_fields hf).1 hs).2]
    rfl
  · rw [hchild] at hr
    exact related_field (unmoved_congruence P) hr document

theorem Reading.EntriesUnmoved.operatorsHold (h : reading.EntriesUnmoved P es fs)
    (ha : reading.Alike es fs) (ho : reading.readsOperators es = true) (values : List Json) :
    Outcome.Unmoved P (Matching.operatorsHold values es es)
      (Matching.operatorsHold values fs fs) := by
  rw [operatorsHold_eq_all_singleton, operatorsHold_eq_all_singleton values fs]
  refine (unmoved_congruence P).all (h.imp ?_)
  rintro ⟨key, x⟩ ⟨other, y⟩ (⟨hs, hP⟩ | ⟨rfl, hr⟩)
  · refine .inl ⟨key, hP, ?_⟩
    rw [Matching.operatorsHold, (unsupported_iff_of_operators ho).1 hs]
    rfl
  · rw [ofKey_of_operators ho] at hr
    exact related_operator (unmoved_congruence P) hr (fun text => by rw [ha.options ho])
      (ha.regex ho) values

theorem unmoved_condition (hr : Replaced .condition (.obj es) (.obj fs))
    (ha : Reading.condition.Alike es fs) (h : Reading.condition.EntriesUnmoved P es fs) :
    Reading.condition.Related (Outcome.Unmoved P) (.obj es) (.obj fs) := by
  by_cases ho : isOperatorObject es = true
  · have ho' : isOperatorObject fs = true := ha.operators.symm.trans ho
    refine ⟨rfl, fun values => ?_⟩
    rw [conditionHolds, conditionHolds, if_pos ho, if_pos ho']
    exact h.operatorsHold ha ho values
  · have hf : Reading.condition.readsOperators es = false := Bool.not_eq_true _ ▸ ho
    have hu (key : String) : ¬Reading.condition.Unsupported es key := by
      simp [Reading.unsupported_iff_of_fields hf]
    rw [hr.eq_of_unread hu fun key => if_neg ho]
    exact related_refl (unmoved_congruence P) .condition _

theorem unmoved_operand (hr : Replaced .operand (.obj es) (.obj fs))
    (h : Reading.operand.EntriesUnmoved P es fs) :
    Reading.operand.Related (Outcome.Unmoved P) (.obj es) (.obj fs) := by
  have hu (key : String) : ¬Reading.operand.Unsupported es key := by
    rw [Reading.unsupported_iff_of_fields rfl]
    simp
  by_cases he : Entries.keys es = [elemMatchKey]
  · obtain ⟨x, rfl⟩ := Entries.exists_eq_singleton he
    obtain ⟨⟨key, y⟩, rest, hxy, hrest, rfl⟩ := List.forall₂_cons_left_iff.1 h
    obtain rfl := List.forall₂_nil_left_iff.1 hrest
    rcases hxy with ⟨hs, -⟩ | ⟨rfl, hxy⟩
    · exact absurd hs (hu _)
    · refine ⟨rfl, fun value => ?_⟩
      rw [itemMatches, itemMatches, if_pos rfl, if_pos rfl]
      exact hxy value
  · rw [hr.eq_of_unread hu fun key => if_neg he]
    exact related_refl (unmoved_congruence P) .operand _

theorem unmoved_body (ha : Reading.body.Alike es fs) (h : Reading.body.EntriesUnmoved P es fs) :
    Reading.body.Related (Outcome.Unmoved P) (.obj es) (.obj fs) := by
  have heq : isElementCondition es = isElementCondition fs := ha.operators
  intro element
  rw [elementMatches, elementMatches, ← heq]
  by_cases he : isElementCondition es = true
  · rw [if_pos he, if_pos he]
    exact h.operatorsHold ha he [element]
  · have hf : Reading.body.readsOperators es = false := Bool.not_eq_true _ ▸ he
    rw [if_neg he, if_neg he]
    split
    · exact h.fieldsHold hf (fun _ => if_neg he) element
    · exact .inr rfl

theorem unmoved_entries (hr : Replaced reading (.obj es) (.obj fs)) (ha : reading.Alike es fs)
    (h : reading.EntriesUnmoved P es fs) :
    reading.Related (Outcome.Unmoved P) (.obj es) (.obj fs) := by
  cases reading with
  | filter => exact h.fieldsHold rfl fun _ => rfl
  | condition => exact unmoved_condition hr ha h
  | operand => exact unmoved_operand hr h
  | body => exact unmoved_body ha h
  | clauses => exact fun document key operator => .inr rfl
  | operands => exact ⟨fun values key => .inr rfl, fun values => .inr rfl⟩
  | data =>
    rw [hr.eq_of_supported fun key => not_hasUnsupported_data key _]
    exact .refl (fun _ => rfl) _

/-! ## Filters with replaced operators -/

/-- A part of a filter reports one of its unsupported operators, or its outcome is the same with
anything else in their places. -/
theorem Replaced.unmoved {f g : Json} (h : Replaced reading f g)
    (hP : ∀ key, HasUnsupported key reading f → P key) :
    reading.Related (Outcome.Unmoved P) f g := by
  -- What is unsupported in a part is so in the whole, so the parts may report it as well.
  induction h with
  | refl reading value => exact related_refl (unmoved_congruence P) reading value
  | items hl _ ih =>
    exact related_items (unmoved_congruence P) hl fun x y hm =>
      ih x y hm fun key hs => hP key (.item (List.of_mem_zip hm).1 hs)
  | @entries reading es fs hl ha hk h ih =>
    refine unmoved_entries (.entries hl ha hk h) ha (List.forall₂_iff_zip.2 ⟨hl, ?_⟩)
    intro e f hm
    have he := (List.of_mem_zip hm).1
    by_cases hs : reading.Unsupported es e.1
    · exact .inl ⟨hs, hP e.1 (.here he hs)⟩
    · exact .inr ⟨hk e f hm hs, ih e f hm hs fun key hkey => hP key (.value he hkey)⟩

/-- Where the outcome depends on what stands in the places of unsupported operators, matching
fails, and the error names one of them. -/
theorem holds_reports_unsupported {filter first second document : Json}
    (hf : Replaced .filter filter first) (hs : Replaced .filter filter second)
    (hne : holds document first ≠ holds document second) :
    ∃ key, HasUnsupported key .filter filter ∧
      holds document filter = .error (.unknownOperator key) := by
  have hfirst := hf.unmoved (fun key hkey => hkey) document
  have hsecond := hs.unmoved (fun key hkey => hkey) document
  rcases hfirst with hreport | heq
  · exact hreport
  rcases hsecond with hreport | heq'
  · exact hreport
  exact absurd (heq.symm.trans heq') hne

/-! ### An operator on tags -/

/-- Asks for a tag that satisfies the condition. -/
def someTag (key : String) : Json := .entry "tags" (envelope (.entry key (.int 1)))

/-- Asks for a tag near to a number, for which there is no operator. -/
def nearFilter : Json := someTag "$near"

/-- An alternative that is not supported follows one that is. -/
def whereFilter : Json :=
  .entry "$or" (.arr [.entry "a" (.int 1), .entry "$where" (.int 1)])

theorem hasUnsupported_nearFilter : HasUnsupported "$near" .filter nearFilter := by
  have hu : Reading.body.Unsupported [("$near", .int 1)] "$near" := by decide
  exact .value (List.mem_singleton_self _) (.value (List.mem_singleton_self _)
    (.here (List.mem_singleton_self _) hu))

theorem hasUnsupported_whereFilter : HasUnsupported "$where" .filter whereFilter := by
  have hu : Reading.filter.Unsupported [("$where", .int 1)] "$where" := by decide
  have hm : Json.entry "$where" (.int 1) ∈
      [Json.entry "a" (.int 1), Json.entry "$where" (.int 1)] :=
    List.mem_cons_of_mem _ (List.mem_singleton_self _)
  exact .value (List.mem_singleton_self _) (.item hm (.here (List.mem_singleton_self _) hu))

theorem Replaced.entry {key : String} {x y : Json} (hk : key ≠ "$options")
    (h : Replaced (reading.ofKey [(key, x)] key) x y) :
    Replaced reading (.entry key x) (.entry key y) := by
  have ha : reading.Alike [(key, x)] [(key, y)] :=
    ⟨by cases reading <;> rfl, fun _ => by simp [Entries.get?, hk], fun _ => rfl⟩
  refine .entries rfl ha (fun e f hm _ => ?_) fun e f hm _ => ?_
  · cases List.mem_singleton.1 hm
    rfl
  · cases List.mem_singleton.1 hm
    exact h

theorem replaced_nearFilter {key : String} (h : key = "$gt" ∨ key = "$lt") :
    Replaced .filter nearFilter (someTag key) := by
  have hu : Reading.body.Unsupported [("$near", .int 1)] "$near" := by decide
  have hbody : Replaced .body (.entry "$near" (.int 1)) (.entry key (.int 1)) := by
    refine .entries rfl ?_ (fun e f hm hs => ?_) fun e f hm hs => ?_
    · rcases h with rfl | rfl <;> exact ⟨by decide, fun _ => rfl, fun _ => by decide⟩
    · cases List.mem_singleton.1 hm
      exact absurd hu hs
    · cases List.mem_singleton.1 hm
      exact absurd hu hs
  exact .entry (by decide) (.entry (by decide) hbody)

theorem nearFilter_reported :
    (Replaced .filter nearFilter (someTag "$gt") ∧
      holds (.entry "tags" (.arr [.int 5])) (someTag "$gt") = .ok true) ∧
    (Replaced .filter nearFilter (someTag "$lt") ∧
      holds (.entry "tags" (.arr [.int 5])) (someTag "$lt") = .ok false) ∧
    ∃ key, HasUnsupported key .filter nearFilter ∧
      holds (.entry "tags" (.arr [.int 5])) nearFilter = .error (.unknownOperator key) := by
  have hgt : holds (.entry "tags" (.arr [.int 5])) (someTag "$gt") = .ok true := by cbv
  have hlt : holds (.entry "tags" (.arr [.int 5])) (someTag "$lt") = .ok false := by cbv
  have hf := replaced_nearFilter (.inl rfl)
  have hs := replaced_nearFilter (.inr rfl)
  refine ⟨⟨hf, hgt⟩, ⟨hs, hlt⟩, holds_reports_unsupported hf hs ?_⟩
  rw [hgt, hlt]
  simp

/-- Without a tag, nothing is matched against the operator that is not supported, and after the
first alternative the second is not looked at. Bound to the path itself, the operator is reported
even where there is no tag. -/
theorem unsupported_unnoticed :
    (HasUnsupported "$near" .filter nearFilter ∧ holds (.obj []) nearFilter = .ok false) ∧
    (HasUnsupported "$where" .filter whereFilter ∧
      holds (.entry "a" (.int 1)) whereFilter = .ok true) ∧
    holds (.obj []) (.entry "tags" (.entry "$near" (.int 1))) =
      .error (.unknownOperator "$near") := by
  exact ⟨⟨hasUnsupported_nearFilter, by cbv⟩, ⟨hasUnsupported_whereFilter, by cbv⟩, by cbv⟩

end SchemaQuery.Matching
