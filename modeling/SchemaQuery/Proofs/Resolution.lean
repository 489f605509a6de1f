import SchemaQuery.Proofs.Sameness

/-!
# Resolving paths

A descent goes on at parts of a value, with the segments that are left (`Path.turns`); it gives
what the descents from there give, in order (`Path.descend_cons`). Each part is less deep than the
value (`Path.depth_lt_of_mem_turns`), so a descent ends although the step into an array leaves all
segments: it takes no more turns than the document has levels. Further segments only matter where a
descent would end (`Path.turns_append`), hence the values that two joined paths reach are those that
the second reaches from what the first one does (`Path.resolve_joined`).
-/

namespace SchemaQuery

namespace Json

mutual

/-- The number of arrays and objects around the innermost value. -/
def depth : Json → Nat
  | .arr items => depthItems items + 1
  | .obj entries => depthEntries entries + 1
  | _ => 0

/-- The depth of the deepest item. -/
def depthItems : List Json → Nat
  | [] => 0
  | item :: rest => max (depth item) (depthItems rest)

/-- The depth of the deepest value of an entry. -/
def depthEntries : List (String × Json) → Nat
  | [] => 0
  | (_, value) :: rest => max (depth value) (depthEntries rest)

end

theorem depth_lt_of_mem_items {items : List Json} {item : Json} (h : item ∈ items) :
    item.depth < (Json.arr items).depth := by
  rw [depth, Nat.lt_succ_iff]
  induction items with
  | nil => cases h
  | cons first rest ih =>
    rw [depthItems]
    rcases List.mem_cons.1 h with rfl | h
    · exact Nat.le_max_left _ _
    · exact (ih h).trans (Nat.le_max_right _ _)

theorem depth_lt_of_mem_entries {entries : List (String × Json)} {entry : String × Json}
    (h : entry ∈ entries) : entry.2.depth < (Json.obj entries).depth := by
  rw [depth, Nat.lt_succ_iff]
  induction entries with
  | nil => cases h
  | cons first rest ih =>
    rw [depthEntries]
    rcases List.mem_cons.1 h with rfl | h
    · exact Nat.le_max_left _ _
    · exact (ih h).trans (Nat.le_max_right _ _)

end Json

namespace Path

/-- The parts of a value at which a descent goes on, in order, each with the segments that are left:
a field or an item takes a segment, and objects in an array take none. -/
def turns : Json → List String → List (Json × List String)
  | .obj entries, segment :: rest => ((Entries.get? entries segment).map (·, rest)).toList
  | .arr items, segment :: rest =>
    match Text.word? segment with
    | some index => (items[index]?.map (·, rest)).toList
    | none => (items.filter Json.isObject).map (·, segment :: rest)
  | _, _ => []

/-- A descent with segments gives what the descents give that it turns to. -/
theorem descend_cons (value : Json) (segment : String) (rest : List String) :
    descend value (segment :: rest) =
      (turns value (segment :: rest)).flatMap fun turn => descend turn.1 turn.2 := by
  cases value with
  | obj entries =>
    rw [descend, descendField_eq, turns]
    cases Entries.get? entries segment <;> simp
  | arr items =>
    rw [descend, turns]
    cases Text.word? segment with
    | some index =>
      simp only [descendItem_eq]
      cases items[index]? <;> simp
    | none =>
      simp only [descendObjects_eq, List.flatMap_map]
      induction items with
      | nil => rfl
      | cons item items ih =>
        rw [List.flatMap_cons, ih, List.filter_cons]
        cases item.isObject <;> rfl
  | _ => rfl

theorem depth_lt_of_mem_turns {value : Json} {names : List String} {turn : Json × List String}
    (h : turn ∈ turns value names) : turn.1.depth < value.depth := by
  cases names with
  | nil => cases value <;> cases h
  | cons segment rest =>
    cases value with
    | obj entries =>
      rw [turns, Option.mem_toList, Option.map_eq_some_iff] at h
      obtain ⟨field, hfield, rfl⟩ := h
      exact Json.depth_lt_of_mem_entries (Entries.mem_of_get?_eq_some hfield)
    | arr items =>
      rw [turns] at h
      split at h
      · rw [Option.mem_toList, Option.map_eq_some_iff] at h
        obtain ⟨item, hitem, rfl⟩ := h
        exact Json.depth_lt_of_mem_items (List.mem_of_getElem? hitem)
      · obtain ⟨item, hitem, rfl⟩ := List.mem_map.1 h
        exact Json.depth_lt_of_mem_items (List.mem_of_mem_filter hitem)
    | _ => cases h

/-- What a descent does next: it goes on from a part of the value. -/
def TurnsTo (start next : Json × List String) : Prop := next ∈ turns start.1 start.2

/-- No descent goes on for ever. -/
theorem wellFounded_turnsTo : WellFounded fun next start => TurnsTo start next :=
  Subrelation.wf (r := InvImage (· < ·) fun state : Json × List String => state.1.depth)
    depth_lt_of_mem_turns (InvImage.wf _ Nat.lt_wfRel.wf)

/-- A descent takes no more turns than its value has levels. -/
theorem length_le_depth {start : Json × List String} {run : List (Json × List String)}
    (h : (start :: run).IsChain TurnsTo) : run.length ≤ start.1.depth := by
  induction run generalizing start with
  | nil => exact Nat.zero_le _
  | cons next run ih =>
    obtain ⟨hnext, hrun⟩ := List.isChain_cons_cons.1 h
    exact (Nat.succ_le_succ (ih hrun)).trans (depth_lt_of_mem_turns hnext)

/-! ## Joined paths -/

/-- Further segments are left at every turn. -/
theorem turns_append (value : Json) (segment : String) (rest more : List String) :
    turns value (segment :: rest ++ more) =
      (turns value (segment :: rest)).map fun turn => (turn.1, turn.2 ++ more) := by
  cases value with
  | obj entries =>
    simp only [List.cons_append, turns]
    cases Entries.get? entries segment <;> rfl
  | arr items =>
    simp only [List.cons_append, turns]
    cases Text.word? segment with
    | some index =>
      dsimp only
      cases items[index]? <;> rfl
    | none => simp
  | _ => rfl

/-- A descent with further segments goes on from where it would end without them. The induction is
on the turns, as a turn can leave all segments. -/
theorem descend_append (value : Json) (names more : List String) :
    descend value (names ++ more) = (descend value names).flatMap (descend · more) := by
  suffices h : ∀ start : Json × List String,
      descend start.1 (start.2 ++ more) = (descend start.1 start.2).flatMap (descend · more) from
    h (value, names)
  intro start
  induction start using wellFounded_turnsTo.induction with
  | h start ih =>
    obtain ⟨value, _ | ⟨segment, rest⟩⟩ := start
    · simp [descend]
    · have hturns : ∀ turn ∈ turns value (segment :: rest), descend turn.1 (turn.2 ++ more) =
          (descend turn.1 turn.2).flatMap (descend · more) := fun turn hturn => ih turn hturn
      calc descend value (segment :: rest ++ more)
          = (turns value (segment :: rest)).flatMap
              fun turn => descend turn.1 (turn.2 ++ more) := by
            rw [List.cons_append, descend_cons, ← List.cons_append, turns_append, List.flatMap_map]
        _ = (turns value (segment :: rest)).flatMap
              fun turn => (descend turn.1 turn.2).flatMap (descend · more) :=
            List.flatMap_congr hturns
        _ = (descend value (segment :: rest)).flatMap (descend · more) := by
            rw [descend_cons, List.flatMap_assoc]

/-- Path resolution is compositional and always ends. The values that two paths with a dot between
them reach are those that the second path reaches from the values that the first one reaches, in
order. A descent without segments has arrived, and any other gives what the descents give that it
turns to; there is no endless run of turns, and none that is longer than the document is deep. -/
theorem resolve_joined :
    (∀ (document : Json) (p q : String), resolve document (p ++ "." ++ q) =
      (resolve document p).flatMap fun value => resolve value q) ∧
    (∀ value : Json, descend value [] = [value]) ∧
    (∀ (value : Json) (segment : String) (rest : List String), descend value (segment :: rest) =
      (turns value (segment :: rest)).flatMap fun turn => descend turn.1 turn.2) ∧
    (WellFounded fun next start => TurnsTo start next) ∧
    ∀ (document : Json) (path : String) (run : List (Json × List String)),
      ((document, segments path) :: run).IsChain TurnsTo → run.length ≤ document.depth := by
  refine ⟨fun document p q => ?_, fun value => ?_, descend_cons, wellFounded_turnsTo,
    fun document path run h => length_le_depth h⟩
  · rw [resolve, segments_append_dot]
    exact descend_append document (segments p) (segments q)
  · cases value <;> rfl

/-- A document with an object and a text in a list. -/
def kennel : Json := .entry "pets" (.arr [.entry "name" (.str "Rex"), .str "Tom"])

/-- In the list the descent turns to the object and keeps the segment. -/
theorem kennel_resolve_joined :
    resolve kennel ("pets" ++ "." ++ "name") =
      (resolve kennel "pets").flatMap (fun value => resolve value "name") ∧
    [(kennel, segments "pets.name"),
      (.arr [.entry "name" (.str "Rex"), .str "Tom"], ["name"]),
      (.entry "name" (.str "Rex"), ["name"]),
      (.str "Rex", [])].IsChain TurnsTo ∧
    3 ≤ kennel.depth := by
  have hsegments : segments "pets.name" = ["pets", "name"] := by decide
  have hrun : [(kennel, segments "pets.name"),
      (.arr [.entry "name" (.str "Rex"), .str "Tom"], ["name"]),
      (.entry "name" (.str "Rex"), ["name"]),
      (.str "Rex", [])].IsChain TurnsTo := by
    rw [hsegments]
    refine .cons_cons ?_ (.cons_cons ?_ (.cons_cons ?_ (.singleton _)))
    · exact List.mem_singleton_self _
    · exact List.mem_singleton_self _
    · exact List.mem_singleton_self _
  obtain ⟨hjoined, -, -, -, hlength⟩ := resolve_joined
  exact ⟨hjoined kennel "pets" "name", hrun, hlength kennel "pets.name" _ hrun⟩

end Path

end SchemaQuery
