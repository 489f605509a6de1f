import SchemaQuery.Proofs.Columns
import SchemaQuery.Proofs.Parts

/-!
# Envelopes in compiled constraints

The envelopes of one entry reject each other. A fold therefore never joins them, and gives them to
its objects in the order in which they came (`filterMap_envelope?_compile`), which decides
what an evaluation reaches first. Whether an entry asks for an envelope shows in the filter that it
compiles to alone (`asksEnvelope`).
-/

namespace SchemaQuery

namespace Constraint

/-- The body of the envelope in a constraint. -/
def envelope? (constraint : Constraint) : Option Json := Entries.get? constraint elemMatchKey

/-- Values of which no two can be put into one envelope. -/
def Rejecting (values : List Json) : Prop :=
  values.Pairwise fun value other => collides elemMatchKey (some value) other = true

variable {path : String} {category : Category}

/-- An entry stands for one store operator that is no envelope, or for envelopes only. -/
theorem fragmentsOf_cases {entry : String × Json} {fragments : List Constraint}
    (h : fragmentsOf path category entry = .ok fragments) :
    (∃ key value, key ≠ elemMatchKey ∧ fragments = [[(key, value)]]) ∨
      ∃ values : List Json, fragments = values.map fun value => [(elemMatchKey, value)] := by
  rw [fragmentsOf] at h
  split at h
  · obtain ⟨bodies, -, rfl⟩ := compileElement_eq_ok_iff.1 h
    exact .inr ⟨bodies.map Json.obj, by rw [List.map_map]; rfl⟩
  · cases h
  · obtain ⟨operator, -, -, rfl⟩ := ofOperator_eq_ok_iff.1 h
    by_cases hk : operator.store.key = elemMatchKey
    · exact .inr ⟨[operator.storeOperand category entry.2], by rw [hk]; rfl⟩
    · exact .inl ⟨_, _, hk, rfl⟩

theorem single_of_mapM {entries : List (String × Json)} {lists : List (List Constraint)}
    (h : entries.mapM (fragmentsOf path category) = .ok lists) :
    ∀ fragment ∈ lists.flatten, fragment.Single := by
  intro fragment hf
  obtain ⟨entry, -, fragments, hok, hf⟩ := exists_entry_of_mem_flatten h hf
  rcases fragmentsOf_cases hok with ⟨key, value, -, rfl⟩ | ⟨values, rfl⟩
  · exact ⟨key, value, List.mem_singleton.1 hf⟩
  · obtain ⟨value, -, rfl⟩ := List.mem_map.1 hf
    exact ⟨elemMatchKey, value, rfl⟩

theorem filterMap_envelope?_map (values : List Json) :
    (values.map fun value => [(elemMatchKey, value)]).filterMap envelope? = values := by
  rw [List.filterMap_map]
  exact List.filterMap_some

theorem rejecting_fragmentsOf {entry : String × Json} {fragments : List Constraint}
    (h : fragmentsOf path category entry = .ok fragments) :
    Rejecting (fragments.filterMap envelope?) := by
  refine List.pairwise_of_forall_mem_list fun value hv other ho => ?_
  obtain ⟨first, h₁, hv⟩ := List.mem_filterMap.1 hv
  obtain ⟨second, h₂, ho⟩ := List.mem_filterMap.1 ho
  exact envelopes_collide h h₁ h₂ hv ho

/-! ## The order of envelopes -/

/-- Compilation keeps the order of envelopes that reject each other. -/
theorem filterMap_envelope?_compile {entries : List (String × Json)}
    {lists : List (List Constraint)}
    (h : entries.mapM (fragmentsOf path category) = .ok lists)
    (hr : Rejecting (lists.flatten.filterMap envelope?)) :
    (Constraint.foldAll [] lists.flatten).filterMap envelope? =
      lists.flatten.filterMap envelope? := by
  have hregular := fun fragment hf => (emitted_of_mapM h fragment hf).regular
  calc (Constraint.foldAll [] lists.flatten).filterMap envelope?
      = stackAll elemMatchKey [] (lists.flatten.filterMap envelope?) :=
        column_foldAll hregular (single_of_mapM h) elemMatchKey
    _ = lists.flatten.filterMap envelope? := stackAll_eq_append hr

end Constraint

/-! ## Entries that ask for an envelope -/

namespace Query

open Constraint (envelope? Rejecting)

/-- Compiled alone at its path, the entry asks for a single element that satisfies conditions. -/
def asksEnvelope (format : Format) (path : String) (entry : String × Json) : Bool :=
  match compileAlone format path entry with
  | .ok filter => filter.all.any fun clause => clause.constraint.envelope?.isSome
  | .error _ => false

variable {format : Format} {path : String} {category : Category}

theorem asksEnvelope_iff (hp : (TypeMap.ofFormat format).get? path = some category)
    {entry : String × Json} {fragments : List Constraint}
    (h : Constraint.fragmentsOf path category entry = .ok fragments) :
    asksEnvelope format path entry = true ↔ fragments.filterMap envelope? ≠ [] := by
  rw [asksEnvelope, compileAlone_eq_ok hp h]
  constructor
  · intro h hnil
    obtain ⟨clause, hc, hsome⟩ := List.any_eq_true.1 h
    obtain ⟨fragment, hf, rfl⟩ := List.mem_map.1 hc
    rw [List.filterMap_eq_nil_iff.1 hnil fragment hf] at hsome
    cases hsome
  · intro hne
    obtain ⟨value, hv⟩ := List.exists_mem_of_ne_nil _ hne
    obtain ⟨fragment, hf, hsome⟩ := List.mem_filterMap.1 hv
    refine List.any_eq_true.2 ⟨_, List.mem_map_of_mem hf, ?_⟩
    exact Option.isSome_iff_exists.2 ⟨value, hsome⟩

theorem eq_of_countP_le_one {α : Type} {p : α → Bool} {xs : List α} (h : xs.countP p ≤ 1) {x y : α}
    (hx : x ∈ xs) (hy : y ∈ xs) (hpx : p x = true) (hpy : p y = true) : x = y := by
  induction xs with
  | nil => cases hx
  | cons first rest ih =>
    rw [List.countP_cons] at h
    have hrest : ∀ {z}, z ∈ rest → p z = true → 0 < rest.countP p := fun hz hpz =>
      List.countP_pos_iff.2 ⟨_, hz, hpz⟩
    rcases List.mem_cons.1 hx with hfx | hx <;> rcases List.mem_cons.1 hy with hfy | hy
    · rw [hfx, hfy]
    · rw [← hfx, if_pos hpx] at h
      exact absurd (hrest hy hpy) (by omega)
    · rw [← hfy, if_pos hpy] at h
      exact absurd (hrest hx hpx) (by omega)
    · exact ih (by omega) hx hy

/-- Where at most one entry asks for an envelope, all envelopes are those of one entry. -/
theorem filterMap_envelope?_eq (hp : (TypeMap.ofFormat format).get? path = some category)
    {entries : List (String × Json)} {lists : List (List Constraint)}
    (h : entries.mapM (Constraint.fragmentsOf path category) = .ok lists)
    (hcount : entries.countP (asksEnvelope format path) ≤ 1) :
    lists.flatten.filterMap envelope? = [] ∨
      ∃ entry ∈ entries, ∃ fragments, Constraint.fragmentsOf path category entry = .ok fragments ∧
        lists.flatten.filterMap envelope? = fragments.filterMap envelope? := by
  induction entries generalizing lists with
  | nil =>
    cases h
    exact .inl rfl
  | cons entry rest ih =>
    obtain ⟨fragments, others, hf, ho, rfl⟩ := Results.mapM_cons_eq_ok_iff.1 h
    rw [List.countP_cons] at hcount
    rw [List.flatten_cons, List.filterMap_append]
    by_cases hasks : asksEnvelope format path entry = true
    · have hzero : others.flatten.filterMap envelope? = [] := by
        rw [if_pos hasks] at hcount
        rw [List.filterMap_flatten, List.flatten_eq_nil_iff, List.forall_mem_map]
        intro list hl
        obtain ⟨other, hother, hok⟩ := Results.exists_mem_of_mem_mapM ho hl
        have hrest : rest.countP (asksEnvelope format path) = 0 := by omega
        have hnot := List.countP_eq_zero.1 hrest other hother
        rw [asksEnvelope_iff hp hok] at hnot
        exact Decidable.not_not.1 hnot
      rw [hzero, List.append_nil]
      exact .inr ⟨entry, List.mem_cons_self, fragments, hf, rfl⟩
    · have hnil : fragments.filterMap envelope? = [] :=
        Decidable.not_not.1 fun hne => hasks ((asksEnvelope_iff hp hf).2 hne)
      rw [hnil, List.nil_append]
      rcases ih ho (by omega) with hno | ⟨other, hother, he⟩
      · exact .inl hno
      · exact .inr ⟨other, List.mem_cons_of_mem _ hother, he⟩

end Query

end SchemaQuery
