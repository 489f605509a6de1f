import Mathlib
import SchemaQuery.Schema.Registry

/-!
# Registration

A sound registry has every schema under its own identifier (`Registry.Sound`). Registrations and
loads alike add schemas at the end, up to the first failure (`Registry.enroll_addsUpToFailure`): to
load a directory is to enroll what its files give, one file after the other
(`Registry.loadFiles_eq_enroll`). Files with different names have only one order, so it does not
matter in which order a directory is enumerated (`Registry.schemaFiles_eq_of_perm`). Key fields are
added at the end of the formats that lack them, and nothing else changes
(`Registry.forall₂_addIdFields`).
-/

namespace SchemaQuery

namespace Registry

variable {registry : Registry} {directory : String}

/-! ## Keys -/

/-- Every schema is registered under its identifier, and under no other schema's. -/
structure Sound (registry : Registry) : Prop where
  keys : ∀ entry ∈ registry.entries, entry.1 = entry.2.identifier
  distinct : registry.identifiers.Nodup

theorem sound_empty : empty.Sound := ⟨by simp [empty], by simp [empty, identifiers]⟩

theorem identifiers_eq_of_keys (h : ∀ entry ∈ registry.entries, entry.1 = entry.2.identifier) :
    registry.identifiers = registry.schemas.map Schema.identifier := by
  rw [identifiers, Entries.keys, schemas, List.map_map]
  exact List.map_congr_left h

theorem Sound.identifiers_eq (h : registry.Sound) :
    registry.identifiers = registry.schemas.map Schema.identifier :=
  identifiers_eq_of_keys h.keys

/-- The registry with schemas added at the end. -/
def extend (registry : Registry) (added : List Schema) : Registry :=
  ⟨registry.entries ++ added.map fun schema => (schema.identifier, schema)⟩

theorem extend_nil (registry : Registry) : registry.extend [] = registry := by
  rw [extend, List.map_nil, List.append_nil]

theorem extend_extend (registry : Registry) (added more : List Schema) :
    (registry.extend added).extend more = registry.extend (added ++ more) := by
  simp only [extend, List.map_append, List.append_assoc]

theorem schemas_extend (registry : Registry) (added : List Schema) :
    (registry.extend added).schemas = registry.schemas ++ added := by
  simp [extend, schemas, Function.comp_def]

theorem Sound.extend (h : registry.Sound) {added : List Schema}
    (hfresh : ((registry.schemas ++ added).map Schema.identifier).Nodup) :
    (registry.extend added).Sound := by
  have hkeys : ∀ entry ∈ (registry.extend added).entries, entry.1 = entry.2.identifier := by
    intro entry hentry
    rcases List.mem_append.1 hentry with hold | hnew
    · exact h.keys entry hold
    · obtain ⟨schema, -, rfl⟩ := List.mem_map.1 hnew
      rfl
  refine ⟨hkeys, ?_⟩
  rw [identifiers_eq_of_keys hkeys, schemas_extend]
  exact hfresh

theorem Sound.retain (h : registry.Sound) (wanted : List String) :
    (registry.retain wanted).Sound where
  keys entry hentry := h.keys entry (List.mem_of_mem_filter hentry)
  distinct := h.distinct.sublist (List.filter_sublist.map _)

theorem identifier_withIdField (schema : Schema) :
    schema.withIdField.identifier = schema.identifier := by
  rw [Schema.withIdField]
  split <;> rfl

theorem identifiers_addIdFields (registry : Registry) :
    registry.addIdFields.identifiers = registry.identifiers := by
  simp [identifiers, addIdFields, Entries.keys, Entries.mapValues, Function.comp_def]

theorem Sound.addIdFields (h : registry.Sound) : registry.addIdFields.Sound where
  keys := by
    intro entry hentry
    obtain ⟨before, hbefore, rfl⟩ := List.mem_map.1 hentry
    exact (h.keys before hbefore).trans (identifier_withIdField _).symm
  distinct := by
    rw [identifiers_addIdFields]
    exact h.distinct

/-! ## Additions up to the first failure -/

theorem register_of_mem {schema : Schema} (h : schema.identifier ∈ registry.identifiers) :
    registry.register schema = .error (.duplicate schema.identifier) := by
  rw [register, contains, if_pos (Entries.contains_iff_mem_keys.2 h)]

theorem register_of_not_mem {schema : Schema} (h : schema.identifier ∉ registry.identifiers) :
    registry.register schema = .ok (registry.extend [schema]) := by
  rw [register, contains, if_neg (mt Entries.contains_iff_mem_keys.1 h)]
  rfl

/-- Registers what files give, up to the first fault of a file or the first schema that is
refused. -/
def enroll (registry : Registry) : List (Except SchemaError Schema) → Registration
  | [] => ⟨registry, none⟩
  | .error error :: _ => ⟨registry, some error⟩
  | .ok schema :: rest =>
    match registry.register schema with
    | .ok registry => registry.enroll rest
    | .error error => ⟨registry, some error⟩

/-- What cannot be added to schemas, and why: a fault, or a schema whose identifier is taken. -/
inductive Refused (present : List Schema) : Except SchemaError Schema → SchemaError → Prop
  | fault (error : SchemaError) : Refused present (.error error) error
  | taken {schema : Schema} : schema.identifier ∈ present.map Schema.identifier →
    Refused present (.ok schema) (.duplicate schema.identifier)

/-- The outcome adds the schemas before the first failure, in order, and reports that failure; all
schemas are added if there is none. -/
def AddsUpToFailure (registry : Registry) (items : List (Except SchemaError Schema))
    (outcome : Registration) : Prop :=
  ∃ added : List Schema,
    outcome.registry = registry.extend added ∧
    ((registry.schemas ++ added).map Schema.identifier).Nodup ∧
    match outcome.error with
    | none => items = added.map .ok
    | some error => ∃ item rest, items = added.map .ok ++ item :: rest ∧
      Refused (registry.schemas ++ added) item error

theorem Sound.nodup_append_nil (h : registry.Sound) :
    ((registry.schemas ++ []).map Schema.identifier).Nodup := by
  rw [List.append_nil, ← h.identifiers_eq]
  exact h.distinct

theorem addsUpToFailure_nil (h : registry.Sound) : registry.AddsUpToFailure [] ⟨registry, none⟩ :=
  ⟨[], registry.extend_nil.symm, h.nodup_append_nil, rfl⟩

/-- A first item that is refused leaves the registry as it is. -/
theorem addsUpToFailure_of_refused (h : registry.Sound) {item : Except SchemaError Schema}
    {error : SchemaError} (hrefused : Refused registry.schemas item error)
    (rest : List (Except SchemaError Schema)) :
    registry.AddsUpToFailure (item :: rest) ⟨registry, some error⟩ := by
  refine ⟨[], registry.extend_nil.symm, h.nodup_append_nil, item, rest, rfl, ?_⟩
  rw [List.append_nil]
  exact hrefused

/-- A first schema that is added comes before all that are added after it. -/
theorem AddsUpToFailure.cons {schema : Schema} {rest : List (Except SchemaError Schema)}
    {outcome : Registration} (h : (registry.extend [schema]).AddsUpToFailure rest outcome) :
    registry.AddsUpToFailure (.ok schema :: rest) outcome := by
  obtain ⟨added, hregistry, hnodup, herror⟩ := h
  rw [schemas_extend, List.append_assoc] at hnodup herror
  refine ⟨schema :: added, hregistry.trans (registry.extend_extend [schema] added), hnodup, ?_⟩
  split at herror
  · rw [herror]
    rfl
  · obtain ⟨item, others, rfl, hrefused⟩ := herror
    exact ⟨item, others, rfl, hrefused⟩

theorem enroll_addsUpToFailure (h : registry.Sound) (items : List (Except SchemaError Schema)) :
    registry.AddsUpToFailure items (registry.enroll items) := by
  induction items generalizing registry with
  | nil => exact addsUpToFailure_nil h
  | cons item rest ih =>
    cases item with
    | error error => exact addsUpToFailure_of_refused h (.fault error) rest
    | ok schema =>
      rw [enroll]
      by_cases hmem : schema.identifier ∈ registry.identifiers
      · rw [register_of_mem hmem]
        exact addsUpToFailure_of_refused h (.taken (h.identifiers_eq ▸ hmem)) rest
      · rw [register_of_not_mem hmem]
        refine .cons (ih (h.extend ?_))
        rw [List.map_append, ← h.identifiers_eq]
        simpa using h.distinct.concat hmem

/-! ## Files -/

/-- What a file gives: its schemas, or the fault that keeps it from being used. -/
def fileItems (location : String) : Except FileError String → List (Except SchemaError Schema)
  | .error error => [.error (.malformed location (.file error))]
  | .ok text =>
    match (Json.parseRaw Json.nestingLimit text).bind Schema.listOfJson? with
    | some schemas => schemas.map .ok
    | none => [.error (.malformed location .content)]

/-- What the files of a directory give, one after the other. -/
def directoryItems (directory : String) (files : List (String × Except FileError String)) :
    List (Except SchemaError Schema) :=
  files.flatMap fun file => fileItems (Location.join directory file.1) file.2

theorem enroll_append (registry : Registry) (items more : List (Except SchemaError Schema)) :
    registry.enroll (items ++ more) =
      match (registry.enroll items).error with
      | some error => ⟨(registry.enroll items).registry, some error⟩
      | none => (registry.enroll items).registry.enroll more := by
  induction items generalizing registry with
  | nil => rfl
  | cons item rest ih =>
    cases item with
    | error error => rfl
    | ok schema =>
      rw [List.cons_append, enroll, enroll]
      cases registry.register schema with
      | error error => rfl
      | ok registry => exact ih registry

theorem registerAll_eq_enroll (registry : Registry) (schemas : List Schema) :
    registry.registerAll schemas = registry.enroll (schemas.map .ok) := by
  induction schemas generalizing registry with
  | nil => rfl
  | cons schema rest ih =>
    rw [registerAll, List.map_cons, enroll]
    cases registry.register schema with
    | error error => rfl
    | ok registry => exact ih registry

theorem loadFile_eq_enroll (registry : Registry) (location : String)
    (text : Except FileError String) :
    registry.loadFile location text = registry.enroll (fileItems location text) := by
  cases text with
  | error error => rfl
  | ok text =>
    rw [loadFile, fileItems]
    cases (Json.parseRaw Json.nestingLimit text).bind Schema.listOfJson? with
    | none => rfl
    | some schemas => exact registry.registerAll_eq_enroll schemas

theorem loadFiles_eq_enroll (registry : Registry) (directory : String)
    (files : List (String × Except FileError String)) :
    registry.loadFiles directory files = registry.enroll (directoryItems directory files) := by
  induction files generalizing registry with
  | nil => rfl
  | cons file rest ih =>
    obtain ⟨name, text⟩ := file
    rw [loadFiles, directoryItems, List.flatMap_cons, enroll_append, loadFile_eq_enroll]
    dsimp only
    cases (registry.enroll (fileItems (Location.join directory name) text)).error with
    | some error => rfl
    | none => exact ih _

/-! ## Enumeration of a directory -/

section Enumeration

variable {entries others files : List (String × Except FileError String)}

theorem perm_schemaFiles (entries : List (String × Except FileError String)) :
    (schemaFiles entries).Perm
      (entries.filter fun file => Location.extension? file.1 == some "json") :=
  List.mergeSort_perm _ _

/-- Files with different names are in the order of their names. -/
theorem pairwise_schemaFiles (h : (entries.map (·.1)).Nodup) :
    (schemaFiles entries).Pairwise fun a b => a.1 < b.1 := by
  have hle : (schemaFiles entries).Pairwise fun a b => a.1 ≤ b.1 := by
    refine (List.pairwise_mergeSort (fun a b c hab hbc => ?_) (fun a b => ?_) _).imp
      of_decide_eq_true
    · exact decide_eq_true ((of_decide_eq_true hab).trans (of_decide_eq_true hbc))
    · rw [Bool.or_eq_true, decide_eq_true_iff, decide_eq_true_iff]
      exact le_total a.1 b.1
  have hne : (schemaFiles entries).Pairwise fun a b => a.1 ≠ b.1 := by
    have hnames : ((schemaFiles entries).map (·.1)).Nodup :=
      ((perm_schemaFiles entries).map _).nodup_iff.2 (h.sublist (List.filter_sublist.map _))
    exact List.pairwise_map.1 hnames
  exact hle.imp₂ (fun a b => lt_of_le_of_ne) hne

/-- There is only one order of the names. -/
theorem eq_of_perm_of_pairwise (hperm : files.Perm entries)
    (hfiles : files.Pairwise fun a b => a.1 < b.1)
    (hentries : entries.Pairwise fun a b => a.1 < b.1) : files = entries :=
  hperm.eq_of_pairwise (fun _ _ _ _ hab hba => absurd hba hab.asymm) hfiles hentries

theorem schemaFiles_eq_of_perm (hperm : entries.Perm others) (h : (entries.map (·.1)).Nodup) :
    schemaFiles others = schemaFiles entries := by
  have hothers : (others.map (·.1)).Nodup := (hperm.map _).nodup_iff.1 h
  refine eq_of_perm_of_pairwise ?_ (pairwise_schemaFiles hothers) (pairwise_schemaFiles h)
  exact (perm_schemaFiles others).trans
    ((hperm.symm.filter _).trans (perm_schemaFiles entries).symm)

end Enumeration

/-! ## Key fields -/

/-- The entry with the key field: identifier and name stay, and the format gets the field at its end
if it does not have it. -/
def Completed (before after : String × Schema) : Prop :=
  after.1 = before.1 ∧ after.2.identifier = before.2.identifier ∧ after.2.name = before.2.name ∧
    after.2.format =
      if Schema.idField ∈ Entries.keys before.2.format then before.2.format
      else before.2.format ++ [(Schema.idField, .requiredString)]

theorem forall₂_addIdFields (registry : Registry) :
    List.Forall₂ Completed registry.entries registry.addIdFields.entries := by
  refine List.forall₂_map_right_iff.2 (List.forall₂_same.2 fun entry _ => ?_)
  obtain ⟨key, schema⟩ := entry
  by_cases h : Entries.contains schema.format Schema.idField = true
  · have hmem := Entries.contains_iff_mem_keys.1 h
    simp only [Completed, Schema.withIdField, if_pos h, if_pos hmem, and_self]
  · have hmem := mt Entries.contains_iff_mem_keys.2 h
    simp only [Completed, Schema.withIdField, if_neg h, if_neg hmem, and_self]

theorem withIdField_withIdField (schema : Schema) :
    schema.withIdField.withIdField = schema.withIdField := by
  by_cases h : Entries.contains schema.format Schema.idField = true
  · simp only [Schema.withIdField, if_pos h]
  · have hadded : Entries.contains
        (schema.format ++ [(Schema.idField, FieldDef.requiredString)]) Schema.idField = true := by
      simp [Entries.contains]
    simp only [Schema.withIdField, if_neg h, if_pos hadded]

theorem addIdFields_addIdFields (registry : Registry) :
    registry.addIdFields.addIdFields = registry.addIdFields := by
  simp only [addIdFields, Entries.mapValues, List.map_map]
  exact congrArg Registry.mk (List.map_congr_left fun entry _ =>
    congrArg (Prod.mk entry.1) (withIdField_withIdField entry.2))

theorem addIdFields_retain (registry : Registry) (wanted : List String) :
    (registry.retain wanted).addIdFields = registry.addIdFields.retain wanted := by
  simp only [addIdFields, retain, Entries.mapValues, List.filter_map]
  rfl

end Registry

end SchemaQuery
