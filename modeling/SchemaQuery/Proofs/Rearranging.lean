import SchemaQuery.Proofs.Readings

/-!
# The order of keys and clauses in filters

What a part of a filter is read as decides in which order it may be written: keys may come in any
order, and so may the clauses of a logical operator (`Rearranged`). A changed order can show an
error or hide it, but it never turns one answer into the other (`Rearranged.agree`).
-/

namespace SchemaQuery.Matching

/-! ## Outcomes that do not contradict each other -/

namespace Outcome

variable {α β : Type} {first second : Outcome}

/-- If both conditions can be evaluated, they hold or fail together. -/
def Agree (first second : Outcome) : Prop := ∀ x y, first = .ok x → second = .ok y → x = y

theorem Agree.refl (outcome : Outcome) : Agree outcome outcome := by
  intro x y hx hy
  rw [hx] at hy
  exact Except.ok.inj hy

theorem Agree.symm (h : Agree first second) : Agree second first :=
  fun x y hx hy => (h y x hy hx).symm

theorem agree_of_error_left {error : MatchError} : Agree (.error error) second :=
  fun _ _ hx => nomatch hx

theorem agree_ok_iff {x y : Bool} : Agree (.ok x) (.ok y) ↔ x = y := by
  constructor
  · exact fun h => h x y rfl rfl
  · rintro rfl
    exact .refl _

theorem Agree.map (h : Agree first second) (f : Bool → Bool) :
    Agree (f <$> first) (f <$> second) := by
  cases first with
  | error error => exact agree_of_error_left
  | ok x =>
    cases second with
    | error error => exact agree_of_error_left.symm
    | ok y => exact agree_ok_iff.2 (congrArg f (agree_ok_iff.1 h))

theorem Agree.ne_false (h : Agree first second) (ht : first = .ok true) : second ≠ .ok false := by
  intro hf
  cases h true false ht hf

/-- Outcomes contradict each other only when one holds and the other fails. -/
theorem Agree.of_ne (hl : first = .ok true → second ≠ .ok false)
    (hr : second = .ok true → first ≠ .ok false) : Agree first second := by
  intro x y hx hy
  cases x with
  | true =>
    cases y with
    | true => rfl
    | false => exact absurd hy (hl hx)
  | false =>
    cases y with
    | true => exact absurd hx (hr hy)
    | false => rfl

/-! ### Chains of conditions -/

theorem and_ne_false {next other : Outcome} (h : Agree first second) (ho : Agree next other)
    (ht : (Outcome.and first fun _ => next) = .ok true) :
    (Outcome.and second fun _ => other) ≠ .ok false := by
  obtain ⟨hfirst, hnext⟩ := and_eq_true_iff.1 ht
  rcases hs : second with _ | _ | _
  · simp
  · exact absurd hs (h.ne_false hfirst)
  · exact ho.ne_false hnext

theorem Agree.and {next other : Outcome} (h : Agree first second) (ho : Agree next other) :
    Agree (Outcome.and first fun _ => next) (Outcome.and second fun _ => other) :=
  .of_ne (and_ne_false h ho) (and_ne_false h.symm ho.symm)

theorem agree_congruence : Congruence Agree where
  refl := .refl
  map f h := h.map f
  and h ho := h.and ho

section Lists

variable {test : α → Outcome} {check : β → Outcome} {xs : List α} {ys : List β}

/-- Searches agree when each test of one agrees with some test of the other. -/
theorem agree_any (hxs : ∀ x ∈ xs, ∃ y ∈ ys, Agree (test x) (check y))
    (hys : ∀ y ∈ ys, ∃ x ∈ xs, Agree (test x) (check y)) :
    Agree (any test xs) (any check ys) := by
  apply Agree.of_ne
  · intro ht hf
    obtain ⟨x, hx, hpass⟩ := exists_of_any_eq_true ht
    obtain ⟨y, hy, h⟩ := hxs x hx
    exact h.ne_false hpass (any_eq_false_iff.1 hf y hy)
  · intro ht hf
    obtain ⟨y, hy, hpass⟩ := exists_of_any_eq_true ht
    obtain ⟨x, hx, h⟩ := hys y hy
    exact h.symm.ne_false hpass (any_eq_false_iff.1 hf x hx)

theorem agree_all (hxs : ∀ x ∈ xs, ∃ y ∈ ys, Agree (test x) (check y))
    (hys : ∀ y ∈ ys, ∃ x ∈ xs, Agree (test x) (check y)) :
    Agree (all test xs) (all check ys) := by
  apply Agree.of_ne
  · intro ht
    refine all_ne_false fun y hy => ?_
    obtain ⟨x, hx, h⟩ := hys y hy
    exact h.ne_false (all_eq_true_iff.1 ht x hx)
  · intro ht
    refine all_ne_false fun x hx => ?_
    obtain ⟨y, hy, h⟩ := hxs x hx
    exact h.symm.ne_false (all_eq_true_iff.1 ht y hy)

end Lists

end Outcome

/-! ## Other orders -/

/-- The second value is the first with keys, and with the clauses of logical operators, in another
order. -/
inductive Rearranged : Reading → Json → Json → Prop
  | refl (reading : Reading) (value : Json) : Rearranged reading value value
  | items {reading : Reading} {xs ys : List Json} (hl : xs.length = ys.length)
      (h : ∀ x y, (x, y) ∈ xs.zip ys → Rearranged reading.ofItem x y) :
      Rearranged reading (.arr xs) (.arr ys)
  | clauses {xs ys zs : List Json} (hl : xs.length = ys.length)
      (h : ∀ x y, (x, y) ∈ xs.zip ys → Rearranged .filter x y) (hp : ys.Perm zs) :
      Rearranged .clauses (.arr xs) (.arr zs)
  | entries {reading : Reading} {es fs gs : List (String × Json)}
      (hk : Entries.keys es = Entries.keys fs)
      (h : ∀ e f, (e, f) ∈ es.zip fs → Rearranged (reading.ofKey es e.1) e.2 f.2)
      (hp : fs.Perm gs) : Rearranged reading (.obj es) (.obj gs)

/-! ## Parts that agree -/

/-- Under a reading, two parts never have contradicting outcomes. -/
abbrev Reading.Agree (reading : Reading) : Json → Json → Prop := reading.Related Outcome.Agree

/-- The clauses of a logical operator may be asked in any order. -/
theorem agree_clausesHold {xs ys zs : List Json} (h : List.Forall₂ Reading.filter.Agree xs ys)
    (hp : ys.Perm zs) (document : Json) (key : String) (operator : LogicalOperator) :
    (clausesHold document key operator (.arr xs)).Agree
      (clausesHold document key operator (.arr zs)) := by
  have hsome : (someClause document operator.decisive xs).Agree
      (someClause document operator.decisive zs) := by
    rw [someClause_eq_any, someClause_eq_any]
    refine Outcome.agree_any (fun x hx => ?_) fun z hz => ?_
    · obtain ⟨y, hy, hr⟩ := exists_right_of_forall₂ h hx
      exact ⟨y, hp.mem_iff.1 hy, (hr document).map _⟩
    · obtain ⟨x, hx, hr⟩ := exists_left_of_forall₂ h (hp.mem_iff.2 hz)
      exact ⟨x, hx, (hr document).map _⟩
  cases xs with
  | nil => exact Outcome.agree_of_error_left
  | cons x xs =>
    cases zs with
    | nil => exact Outcome.agree_of_error_left.symm
    | cons z zs =>
      rw [clausesHold, clausesHold]
      exact hsome.map _

/-! ### Objects -/

section Objects

variable {es gs : List (String × Json)}

theorem agree_fieldsHold
    (h : Entries.Counterparts (fun key x y => (Reading.ofFilterKey key).Agree x y) es gs)
    (document : Json) : (fieldsHold document es).Agree (fieldsHold document gs) := by
  rw [fieldsHold_eq_all, fieldsHold_eq_all document gs]
  refine Outcome.agree_all (fun e he => ?_) fun f hf => ?_
  · obtain ⟨y, hy, hr⟩ := h.forward e.1 e.2 he
    exact ⟨_, hy, related_field Outcome.agree_congruence hr document⟩
  · obtain ⟨x, hx, hr⟩ := h.backward f.1 f.2 hf
    exact ⟨_, hx, related_field Outcome.agree_congruence hr document⟩

/-! ### Objects of operators -/

theorem agree_operatorsHold
    (h : Entries.Counterparts (fun key x y => (Reading.ofOperator key).Agree x y) es gs)
    (hn : (Entries.keys es).Nodup) (values : List Json) :
    (operatorsHold values es es).Agree (operatorsHold values gs gs) := by
  have hflags (text : String) : flagsOfOptions? text (Entries.get? es "$options") =
      flagsOfOptions? text (Entries.get? gs "$options") := by
    rcases h.get?_cases hn "$options" with ⟨hes, hgs⟩ | ⟨x, y, hes, hgs, hr⟩
    · rw [hes, hgs]
    · rw [hes, hgs]
      exact flagsOfOptions?_of_same hr text
  have hregex : Entries.contains es "$regex" = Entries.contains gs "$regex" := by
    rw [Bool.eq_iff_iff, Entries.contains_iff_mem_keys, Entries.contains_iff_mem_keys]
    exact h.keys.mem_iff
  rw [operatorsHold_eq_all_singleton, operatorsHold_eq_all_singleton values gs]
  refine Outcome.agree_all (fun e he => ?_) fun f hf => ?_
  · obtain ⟨y, hy, hr⟩ := h.forward e.1 e.2 he
    exact ⟨_, hy, related_operator Outcome.agree_congruence hr hflags hregex values⟩
  · obtain ⟨x, hx, hr⟩ := h.backward f.1 f.2 hf
    exact ⟨_, hx, related_operator Outcome.agree_congruence hr hflags hregex values⟩

/-! ### Whether keys are operators -/

theorem isOperatorObject_of_perm (h : (Entries.keys es).Perm (Entries.keys gs)) :
    isOperatorObject es = isOperatorObject gs := by
  have hnil : Entries.keys es = [] ↔ Entries.keys gs = [] :=
    ⟨fun he => List.perm_nil.1 (he ▸ h.symm), fun hg => List.perm_nil.1 (hg ▸ h)⟩
  rw [Bool.eq_iff_iff, isOperatorObject_iff, isOperatorObject_iff, ne_eq, ne_eq, hnil]
  simp only [h.mem_iff]

theorem isElementCondition_of_perm (h : (Entries.keys es).Perm (Entries.keys gs)) :
    isElementCondition es = isElementCondition gs := by
  rw [Bool.eq_iff_iff, isElementCondition_iff, isElementCondition_iff, isOperatorObject_of_perm h]
  simp only [h.mem_iff]

theorem agree_itemMatches_envelope
    (h : Entries.Counterparts (fun _ x y => Reading.body.Agree x y) es gs)
    (he : Entries.keys es = [elemMatchKey]) (value : Json) :
    (itemMatches value (.obj es)).Agree (itemMatches value (.obj gs)) := by
  have hgs : Entries.keys gs = [elemMatchKey] := List.perm_singleton.1 (he ▸ h.keys.symm)
  obtain ⟨x, rfl⟩ := Entries.exists_eq_singleton he
  obtain ⟨z, rfl⟩ := Entries.exists_eq_singleton hgs
  obtain ⟨y, hy, hr⟩ := h.forward elemMatchKey x (List.mem_singleton_self _)
  cases List.mem_singleton.1 hy
  rw [itemMatches, itemMatches, if_pos rfl, if_pos rfl]
  exact hr value

end Objects

/-! ## Filters that are written in another order -/

theorem agree_entries {reading : Reading} {es fs gs : List (String × Json)}
    (hk : Entries.keys es = Entries.keys fs)
    (h : ∀ e f, (e, f) ∈ es.zip fs → (reading.ofKey es e.1).Agree e.2 f.2) (hp : fs.Perm gs)
    (hd : (Json.obj es).Distinct) : reading.Agree (.obj es) (.obj gs) := by
  have hn : (Entries.keys es).Nodup := (Json.distinct_obj_iff.1 hd).1
  have hperm : (Entries.keys es).Perm (Entries.keys gs) := hk ▸ hp.map _
  have hsame (hdata : ∀ key, reading.ofKey es key = .data) : Json.Same Eq (.obj es) (.obj gs) := by
    refine .obj hk (fun e f hm => ?_) hp
    have hagree := h e f hm
    rw [hdata] at hagree
    exact hagree
  have hc (child : String → Reading) (hchild : ∀ key, reading.ofKey es key = child key) :
      Entries.Counterparts (fun key x y => (child key).Agree x y) es gs := by
    refine Entries.counterparts_of_zip hk (fun e f hm => ?_) hp
    rw [← hchild]
    exact h e f hm
  cases reading with
  | filter => exact agree_fieldsHold (hc _ fun _ => rfl)
  | clauses => exact fun document key operator => .refl _
  | operands => exact ⟨fun values key => .refl _, fun values => .refl _⟩
  | data => exact hsame fun _ => rfl
  | condition =>
    refine ⟨rfl, fun values => ?_⟩
    rw [conditionHolds, conditionHolds, ← isOperatorObject_of_perm hperm]
    by_cases ho : isOperatorObject es = true
    · rw [if_pos ho, if_pos ho]
      exact agree_operatorsHold (hc _ fun _ => if_pos ho) hn values
    · rw [if_neg ho, if_neg ho]
      have hequal := (hsame fun _ => if_neg ho).equal_right hd
      simp only [hequal]
      exact .refl _
  | operand =>
    refine ⟨rfl, fun value => ?_⟩
    by_cases he : Entries.keys es = [elemMatchKey]
    · have hbody (key : String) : Reading.operand.ofKey es key = .body := if_pos he
      exact agree_itemMatches_envelope (hc (fun _ => .body) hbody) he value
    · have he' : Entries.keys gs ≠ [elemMatchKey] := fun hg =>
        he (List.perm_singleton.1 (hg ▸ hperm))
      rw [itemMatches_obj value he, itemMatches_obj value he',
        (hsame fun _ => if_neg he).equal_right hd]
      exact .refl _
  | body =>
    intro element
    rw [elementMatches, elementMatches, ← isElementCondition_of_perm hperm]
    by_cases he : isElementCondition es = true
    · rw [if_pos he, if_pos he]
      exact agree_operatorsHold (hc _ fun _ => if_pos he) hn [element]
    · rw [if_neg he, if_neg he]
      split
      · exact agree_fieldsHold (hc _ fun _ => if_neg he) element
      · exact .refl _

/-- Parts of a filter that only differ in the order of keys and clauses never contradict each
other. -/
theorem Rearranged.agree {reading : Reading} {f g : Json} (h : Rearranged reading f g)
    (hd : f.Distinct) : reading.Agree f g := by
  induction h with
  | refl reading value => exact related_refl Outcome.agree_congruence reading value
  | items hl _ ih =>
    rw [Json.distinct_arr_iff] at hd
    exact related_items Outcome.agree_congruence hl fun x y hm =>
      ih x y hm (hd x (List.of_mem_zip hm).1)
  | clauses hl _ hp ih =>
    rw [Json.distinct_arr_iff] at hd
    have hrel := List.forall₂_iff_zip.2
      ⟨hl, fun {x y} hm => ih x y hm (hd x (List.of_mem_zip hm).1)⟩
    exact agree_clausesHold hrel hp
  | entries hk _ hp ih =>
    have hvalues := (Json.distinct_obj_iff.1 hd).2
    exact agree_entries hk (fun e f hm => ih e f hm (hvalues e (List.of_mem_zip hm).1)) hp hd

/-- The order of keys does not count. Documents that are the same data have the same outcome, errors
included. Filters that only differ in the order of keys and in the order of clauses have the same
answer where both have one. Objects repeat no key, as those of every value that is read. -/
theorem holds_ignores_order :
    (∀ document other, document.Distinct → Json.Same Eq document other →
      ∀ filter, holds document filter = holds other filter) ∧
    ∀ filter other, filter.Distinct → Rearranged .filter filter other →
      ∀ document x y, holds document filter = .ok x → holds document other = .ok y → x = y :=
  ⟨fun _ _ hd hs filter => filterHolds_rekeyed ⟨hs, hd⟩ filter,
    fun _ _ hd hr document => hr.agree hd document⟩

/-! ### A document and a filter -/

def rex : Json := .obj [("name", .str "Rex"), ("age", .int 3)]

def pets : Json := .obj [("owner", .str "Ada"), ("pets", .arr [rex])]

/-- The same pets with all keys in another order. -/
def rekeyedPets : Json :=
  .obj [("pets", .arr [.obj [("age", .int 3), ("name", .str "Rex")]]), ("owner", .str "Ada")]

/-- Asks for some owner. -/
def ownerCondition : Json := .entry "$ne" .null

/-- Asks for a pet for which one of the clauses holds. -/
def petCondition (clauses : List Json) : Json := envelope (.entry "$or" (.arr clauses))

def petFilter : Json :=
  .obj [("owner", ownerCondition),
    ("pets", petCondition [.entry "name" (.str "Tom"), .entry "age" (.int 3)])]

/-- The same filter with its keys and the clauses in another order. -/
def rearrangedPetFilter : Json :=
  .obj [("pets", petCondition [.entry "age" (.int 3), .entry "name" (.str "Tom")]),
    ("owner", ownerCondition)]

theorem Rearranged.entry {reading : Reading} {key : String} {x y : Json}
    (h : Rearranged (reading.ofKey [(key, x)] key) x y) :
    Rearranged reading (.entry key x) (.entry key y) := by
  refine .entries (by rfl) (fun e f hm => ?_) (.refl [(key, y)])
  cases List.mem_singleton.1 hm
  exact h

theorem same_pets : Json.Same Eq pets rekeyedPets := by
  have hrex : Json.Same Eq rex (.obj [("age", .int 3), ("name", .str "Rex")]) :=
    .obj rfl (fun e f hm => (eq_of_mem_zip_self hm).1 ▸ .refl (fun _ => rfl) e.2) (.swap ..)
  have hlist : Json.Same Eq (.arr [rex]) (.arr [.obj [("age", .int 3), ("name", .str "Rex")]]) := by
    refine .arr rfl fun x y hm => ?_
    cases List.mem_singleton.1 hm
    exact hrex
  have hpets : [("owner", Json.str "Ada"),
      ("pets", .arr [.obj [("age", .int 3), ("name", .str "Rex")]])].Perm
        [("pets", .arr [.obj [("age", .int 3), ("name", .str "Rex")]]), ("owner", .str "Ada")] :=
    .swap ..
  refine .obj (by rfl) (fun e f hm => ?_) hpets
  rcases List.mem_cons.1 hm with heq | hm
  · cases heq
    exact .str "Ada"
  · cases List.mem_singleton.1 hm
    exact hlist

theorem rearranged_petFilter : Rearranged .filter petFilter rearrangedPetFilter := by
  have hclauses : Rearranged .clauses
      (.arr [.entry "name" (.str "Tom"), .entry "age" (.int 3)])
      (.arr [.entry "age" (.int 3), .entry "name" (.str "Tom")]) :=
    .clauses rfl (fun x y hm => (eq_of_mem_zip_self hm).1 ▸ .refl _ x) (.swap ..)
  have hbody : Rearranged .body
      (.entry "$or" (.arr [.entry "name" (.str "Tom"), .entry "age" (.int 3)]))
      (.entry "$or" (.arr [.entry "age" (.int 3), .entry "name" (.str "Tom")])) :=
    .entry hclauses
  have hcondition : Rearranged .condition
      (petCondition [.entry "name" (.str "Tom"), .entry "age" (.int 3)])
      (petCondition [.entry "age" (.int 3), .entry "name" (.str "Tom")]) :=
    .entry hbody
  have hfilter : [("owner", ownerCondition),
      ("pets", petCondition [.entry "age" (.int 3), .entry "name" (.str "Tom")])].Perm
        [("pets", petCondition [.entry "age" (.int 3), .entry "name" (.str "Tom")]),
          ("owner", ownerCondition)] :=
    .swap ..
  refine .entries (by rfl) (fun e f hm => ?_) hfilter
  rcases List.mem_cons.1 hm with heq | hm
  · cases heq
    exact .refl _ _
  · cases List.mem_singleton.1 hm
    exact hcondition

theorem pets_ignore_order :
    (pets.Distinct ∧ Json.Same Eq pets rekeyedPets ∧
      holds pets petFilter = holds rekeyedPets petFilter) ∧
    petFilter.Distinct ∧ Rearranged .filter petFilter rearrangedPetFilter ∧
      ∀ x y, holds pets petFilter = .ok x → holds pets rearrangedPetFilter = .ok y → x = y := by
  have hpets : pets.Distinct := by
    simp [pets, rex, Json.int, Json.Distinct, Json.DistinctEntries, Json.DistinctItems]
  have hfilter : petFilter.Distinct := by
    simp [petFilter, ownerCondition, petCondition, envelope, Json.entry, Json.int, Json.Distinct,
      Json.DistinctEntries, Json.DistinctItems]
  exact ⟨⟨hpets, same_pets, holds_ignores_order.1 _ _ hpets same_pets petFilter⟩, hfilter,
    rearranged_petFilter, holds_ignores_order.2 _ _ hfilter rearranged_petFilter pets⟩

end SchemaQuery.Matching
