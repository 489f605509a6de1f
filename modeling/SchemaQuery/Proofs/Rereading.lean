import SchemaQuery.Proofs.Sameness
import SchemaQuery.Schema.Codec
import SchemaQuery.TypeMap

/-!
# Reading what was written

What a field is made of is read in one of several ways, and the last of them takes any value as it
is. A definition is settled when each value that it keeps as it is, at any depth, could not have
been read in another way (`FieldDef.Settled`). Reading gives settled definitions
(`FieldDef.settled_of_distinct`), and a settled definition that is written down is read back as it
was (`FieldDef.Settled.ofJson?_toJson`). Hence all definitions and schemas that are read or built
survive being written (`Schema.written_definitions_read_back`).
-/

namespace SchemaQuery

/-! ## Values without repeated keys -/

theorem Entries.ofList_eq_self {α : Type} {entries : List (String × α)}
    (h : (keys entries).Nodup) : ofList entries = entries :=
  insertAll_eq_append h (by simp)

namespace Json

theorem collapseItems_eq_map (items : List Json) : collapseItems items = items.map collapse := by
  induction items with
  | nil => rfl
  | cons item rest ih => rw [collapseItems, ih, List.map_cons]

theorem collapseEntries_eq_mapValues (entries : List (String × Json)) :
    collapseEntries entries = Entries.mapValues collapse entries := by
  induction entries with
  | nil => rfl
  | cons entry rest ih =>
    rw [collapseEntries, ih]
    rfl

/-- A value that repeats no key is not changed by dropping repetitions. -/
theorem collapse_eq_self {value : Json} (hd : value.Distinct) : value.collapse = value := by
  induction value using Json.induction with
  | arr items ih =>
    rw [distinct_arr_iff] at hd
    have hitems : items.map collapse = items.map id :=
      List.map_congr_left fun item hm => ih item hm (hd item hm)
    rw [collapse, collapseItems_eq_map, hitems, List.map_id]
  | obj entries ih =>
    rw [distinct_obj_iff] at hd
    have hentries : entries.map (fun entry => (entry.1, entry.2.collapse)) = entries.map id :=
      List.map_congr_left fun entry he => congrArg (Prod.mk entry.1) (ih entry he (hd.2 entry he))
    rw [collapse, collapseEntries_eq_mapValues, Entries.mapValues, hentries, List.map_id,
      Entries.ofList_eq_self hd.1]
  | _ => rfl

end Json

/-! ## Settled definitions -/

/-- What the definition is made of has no repeated names, and a value that is kept as it is could
not have been read in another way. -/
inductive FieldDef.Settled : FieldDef → Prop
  | unspecified (type : FieldType) (required : Bool) : Settled (.mk type .unspecified required)
  | named (type : FieldType) (name : String) (required : Bool) :
    Settled (.mk type (.named name) required)
  | fields {type : FieldType} {format : Format} {required : Bool}
    (hn : (Entries.keys format).Nodup) (h : ∀ entry ∈ format, Settled entry.2) :
    Settled (.mk type (.fields format) required)
  | other {type : FieldType} {value : Json} {required : Bool} (hd : value.Distinct)
    (h : Makeup.ofJson value = .other value) : Settled (.mk type (.other value) required)

/-! ### Reading -/

theorem Format.ofEntries?_cons_eq_some_iff {name : String} {value : Json}
    {rest : List (String × Json)} {format : Format} :
    Format.ofEntries? ((name, value) :: rest) = some format ↔
      ∃ definition others, FieldDef.ofJson? value = some definition ∧
        Format.ofEntries? rest = some others ∧ format = (name, definition) :: others := by
  rw [Format.ofEntries?]
  constructor
  · intro h
    obtain ⟨definition, hdef, h⟩ := Option.bind_eq_some_iff.1 h
    obtain ⟨others, hrest, h⟩ := Option.bind_eq_some_iff.1 h
    exact ⟨definition, others, hdef, hrest, (Option.some.inj h).symm⟩
  · rintro ⟨definition, others, hdef, hrest, rfl⟩
    rw [hdef, hrest]
    rfl

theorem Format.keys_ofEntries? {entries : List (String × Json)} {format : Format}
    (h : Format.ofEntries? entries = some format) : Entries.keys format = Entries.keys entries := by
  induction entries generalizing format with
  | nil =>
    rw [Format.ofEntries?] at h
    cases h
    rfl
  | cons entry rest ih =>
    obtain ⟨definition, others, -, hrest, rfl⟩ := Format.ofEntries?_cons_eq_some_iff.1 h
    rw [Entries.keys_cons, ih hrest]
    rfl

/-- Each definition of a format is read from the value of an entry. -/
theorem Format.exists_mem_of_ofEntries? {entries : List (String × Json)} {format : Format}
    (h : Format.ofEntries? entries = some format) {field : String × FieldDef}
    (hf : field ∈ format) : ∃ entry ∈ entries, FieldDef.ofJson? entry.2 = some field.2 := by
  induction entries generalizing format with
  | nil =>
    rw [Format.ofEntries?] at h
    cases h
    cases hf
  | cons entry rest ih =>
    obtain ⟨definition, others, hdef, hrest, rfl⟩ := Format.ofEntries?_cons_eq_some_iff.1 h
    rcases List.mem_cons.1 hf with rfl | hf
    · exact ⟨entry, List.mem_cons_self, hdef⟩
    · obtain ⟨other, ho, hdef⟩ := ih hrest hf
      exact ⟨other, List.mem_cons_of_mem _ ho, hdef⟩

theorem Makeup.ofEntries_eq (entries : List (String × Json)) :
    Makeup.ofEntries entries =
      ((Entries.get? entries "subtype").map Makeup.ofJson).getD .unspecified := by
  induction entries with
  | nil => rfl
  | cons entry rest ih =>
    obtain ⟨key, value⟩ := entry
    rw [Makeup.ofEntries, Entries.get?, ih]
    split <;> rfl

/-- A definition that is read from an object is made of what its entry for that says. -/
theorem FieldDef.ofJson?_obj {entries : List (String × Json)} {definition : FieldDef}
    (h : FieldDef.ofJson? (.obj entries) = some definition) :
    ∃ type required, definition = .mk type (Makeup.ofEntries entries) required := by
  rw [FieldDef.ofJson?] at h
  obtain ⟨_, -, h⟩ := Option.bind_eq_some_iff.1 h
  obtain ⟨type, -, h⟩ := Option.bind_eq_some_iff.1 h
  obtain ⟨_, -, h⟩ := Option.bind_eq_some_iff.1 h
  obtain ⟨_, -, h⟩ := Option.bind_eq_some_iff.1 h
  obtain ⟨required, -, h⟩ := Option.bind_eq_some_iff.1 h
  exact ⟨type, required, (Option.some.inj h).symm⟩

/-- A definition that is read from a list is made of what the second item says, if there is one. -/
theorem FieldDef.ofJson?_arr {items : List Json} {definition : FieldDef}
    (h : FieldDef.ofJson? (.arr items) = some definition) :
    ∃ type required, definition = .mk type .unspecified required ∨
      ∃ item ∈ items, definition = .mk type (Makeup.ofJson item) required := by
  rw [FieldDef.ofJson?.eq_def] at h
  split at h
  · cases ‹Json.arr items = _›
  · cases ‹Json.arr items = _›
    obtain ⟨type, -, h⟩ := Option.bind_eq_some_iff.1 h
    exact ⟨type, false, .inl (Option.some.inj h).symm⟩
  · rename_i first second heq
    cases heq
    obtain ⟨type, -, h⟩ := Option.bind_eq_some_iff.1 h
    exact ⟨type, false, .inr ⟨second, by simp, (Option.some.inj h).symm⟩⟩
  · rename_i first second third heq
    cases heq
    obtain ⟨type, -, h⟩ := Option.bind_eq_some_iff.1 h
    obtain ⟨required, -, h⟩ := Option.bind_eq_some_iff.1 h
    exact ⟨type, required, .inr ⟨second, by simp, (Option.some.inj h).symm⟩⟩
  · cases h

/-- What is read from a value that repeats no key is settled, both as a definition and as what a
field is made of. -/
theorem FieldDef.settled_of_distinct {value : Json} (hd : value.Distinct) :
    (∀ definition, FieldDef.ofJson? value = some definition → definition.Settled) ∧
      ∀ type required, Settled (.mk type (Makeup.ofJson value) required) := by
  induction value using Json.induction with
  | null => exact ⟨fun _ h => (nomatch h), fun type required => .unspecified type required⟩
  | bool | num => exact ⟨fun _ h => (nomatch h), fun _ _ => .other hd rfl⟩
  | str name => exact ⟨fun _ h => (nomatch h), fun type required => .named type name required⟩
  | arr items ih =>
    have hread : Makeup.ofJson (.arr items) = .other (.arr items) :=
      congrArg Makeup.other (Json.collapse_eq_self hd)
    refine ⟨fun definition h => ?_, fun type required => hread ▸ .other hd hread⟩
    obtain ⟨type, required, rfl | ⟨item, hm, rfl⟩⟩ := FieldDef.ofJson?_arr h
    · exact .unspecified type required
    · exact (ih item hm (Json.distinct_arr_iff.1 hd item hm)).2 type required
  | obj entries ih =>
    obtain ⟨hn, hvalues⟩ := Json.distinct_obj_iff.1 hd
    have ih := fun entry he => ih entry he (hvalues entry he)
    constructor
    · intro definition h
      obtain ⟨type, required, rfl⟩ := FieldDef.ofJson?_obj h
      rw [Makeup.ofEntries_eq]
      cases hg : Entries.get? entries "subtype" with
      | none => exact .unspecified type required
      | some makeup => exact (ih _ (Entries.mem_of_get?_eq_some hg)).2 type required
    · intro type required
      cases hf : Format.ofEntries? entries with
      | some format =>
        have hkeys : (Entries.keys format).Nodup := by rwa [Format.keys_ofEntries? hf]
        have hread : Makeup.ofJson (.obj entries) = .fields format := by
          simp only [Makeup.ofJson, hf, Entries.ofList_eq_self hkeys]
        rw [hread]
        refine .fields hkeys fun field hm => ?_
        obtain ⟨entry, he, hdef⟩ := Format.exists_mem_of_ofEntries? hf hm
        exact (ih entry he).1 _ hdef
      | none =>
        have hread : Makeup.ofJson (.obj entries) = .other (.obj entries) := by
          have hcollapse :
              Json.obj (Entries.ofList (Json.collapseEntries entries)) = .obj entries :=
            Json.collapse_eq_self hd
          simp only [Makeup.ofJson, hf, hcollapse]
        exact hread ▸ .other hd hread

/-! ### Writing -/

theorem Format.toEntries_eq_mapValues (format : Format) :
    Format.toEntries format = Entries.mapValues FieldDef.toJson format := by
  induction format with
  | nil => rfl
  | cons field rest ih =>
    rw [Format.toEntries, ih]
    rfl

theorem Format.keys_toEntries (format : Format) :
    Entries.keys (Format.toEntries format) = Entries.keys format := by
  simp [Format.toEntries_eq_mapValues, Entries.keys, Entries.mapValues]

/-- A format whose definitions are read back is read back. -/
theorem Format.ofEntries?_toEntries {format : Format}
    (h : ∀ field ∈ format, FieldDef.ofJson? field.2.toJson = some field.2) :
    Format.ofEntries? (Format.toEntries format) = some format := by
  induction format with
  | nil => rfl
  | cons field rest ih =>
    rw [List.forall_mem_cons] at h
    rw [Format.toEntries]
    exact Format.ofEntries?_cons_eq_some_iff.2 ⟨field.2, rest, h.1, ih h.2, rfl⟩

theorem Format.distinct_obj_toEntries {format : Format} (hn : (Entries.keys format).Nodup)
    (h : ∀ field ∈ format, field.2.toJson.Distinct) :
    (Json.obj (Format.toEntries format)).Distinct := by
  rw [Json.distinct_obj_iff, Format.keys_toEntries, Format.toEntries_eq_mapValues,
    Entries.mapValues, List.forall_mem_map]
  exact ⟨hn, h⟩

namespace FieldDef

variable {type : FieldType} {makeup : Makeup} {required : Bool}

/-- The value that says what a field is made of stands between the type and the last entry. -/
theorem ofJson?_toJson_of_value {value : Json} (hw : makeup.toEntries = [("subtype", value)])
    (hr : Makeup.ofJson value = makeup) :
    ofJson? (mk type makeup required).toJson = some (.mk type makeup required) := by
  rw [toJson, hw]
  simp [ofJson?, Entries.unique?, FieldType.ofJson?, requiredOfJson?, Makeup.ofEntries, hr]

theorem distinct_toJson_of_value {value : Json} (hw : makeup.toEntries = [("subtype", value)])
    (hd : value.Distinct) : (mk type makeup required).toJson.Distinct := by
  rw [toJson, hw]
  simpa [Json.Distinct, Json.DistinctEntries] using hd

theorem Settled.distinct_toJson {definition : FieldDef} (h : definition.Settled) :
    definition.toJson.Distinct := by
  induction h with
  | unspecified => simp [toJson, Makeup.toEntries, Json.Distinct, Json.DistinctEntries]
  | named type name required => exact distinct_toJson_of_value rfl trivial
  | fields hn _ ih =>
    exact distinct_toJson_of_value rfl (Format.distinct_obj_toEntries hn ih)
  | other hd _ => exact distinct_toJson_of_value rfl hd

/-- A settled definition that is written down is read back as it was. -/
theorem Settled.ofJson?_toJson {definition : FieldDef} (h : definition.Settled) :
    ofJson? definition.toJson = some definition := by
  induction h with
  | unspecified type required =>
    simp [toJson, Makeup.toEntries, ofJson?, Entries.unique?, FieldType.ofJson?, requiredOfJson?,
      Makeup.ofEntries]
  | named type name required => exact ofJson?_toJson_of_value rfl rfl
  | @fields type format required hn _ ih =>
    have hr : Makeup.ofJson (.obj (Format.toEntries format)) = .fields format := by
      simp only [Makeup.ofJson, Format.ofEntries?_toEntries ih, Entries.ofList_eq_self hn]
    exact ofJson?_toJson_of_value rfl hr
  | other _ hr => exact ofJson?_toJson_of_value rfl hr

end FieldDef

/-! ## Definitions that are read or built -/

/-- The definitions that a program comes by: those that are read from a value, and those that the
functions for common fields build from such definitions. -/
inductive FieldDef.Obtained : FieldDef → Prop
  | read {value : Json} {definition : FieldDef} (hd : value.Distinct)
    (h : FieldDef.ofJson? value = some definition) : Obtained definition
  | plain (type : FieldType) (required : Bool) : Obtained (.plain type required)
  | object {format : Format} (hn : (Entries.keys format).Nodup)
    (h : ∀ field ∈ format, Obtained field.2) : Obtained (.object format)
  | arrayOf (element : FieldType) : Obtained (.arrayOf element)
  | arrayOfObjects {format : Format} (hn : (Entries.keys format).Nodup)
    (h : ∀ field ∈ format, Obtained field.2) : Obtained (.arrayOfObjects format)

theorem FieldDef.Obtained.settled {definition : FieldDef} (h : definition.Obtained) :
    definition.Settled := by
  induction h with
  | read hd h => exact (settled_of_distinct hd).1 _ h
  | plain type required => exact .unspecified type required
  | object hn _ ih | arrayOfObjects hn _ ih => exact .fields hn ih
  | arrayOf element => exact .named .array element.name false

/-- A format of such definitions, with a name for each. -/
structure Format.Obtained (format : Format) : Prop where
  distinct : (Entries.keys format).Nodup
  fields : ∀ field ∈ format, field.2.Obtained

theorem Format.obtained_of_ofJson? {value : Json} (hd : value.Distinct) {format : Format}
    (h : Format.ofJson? value = some format) : Format.Obtained format := by
  cases value with
  | obj entries =>
    obtain ⟨hn, hvalues⟩ := Json.distinct_obj_iff.1 hd
    obtain ⟨definitions, hread, rfl⟩ := Option.map_eq_some_iff.1 h
    have hkeys : (Entries.keys definitions).Nodup := by rwa [Format.keys_ofEntries? hread]
    rw [Entries.ofList_eq_self hkeys]
    refine ⟨hkeys, fun field hf => ?_⟩
    obtain ⟨entry, he, hdef⟩ := Format.exists_mem_of_ofEntries? hread hf
    exact .read (hvalues entry he) hdef
  | _ => cases h

theorem Format.Obtained.ofJson?_toJson {format : Format} (h : Format.Obtained format) :
    Format.ofJson? (Format.toJson format) = some format := by
  have hread := Format.ofEntries?_toEntries fun field hf =>
    (h.fields field hf).settled.ofJson?_toJson
  rw [Format.toJson, Format.ofJson?, hread, Option.map_some, Entries.ofList_eq_self h.distinct]

theorem Entries.mem_of_unique? {α : Type} {entries : List (String × α)} {key : String} {value : α}
    (h : unique? entries key = some (some value)) : (key, value) ∈ entries := by
  rw [unique?] at h
  split at h
  · cases h
  · rename_i found other heq
    cases h
    have hm : (found, value) ∈ entries.filter (·.1 == key) := heq ▸ List.mem_singleton_self _
    obtain ⟨hm, hk⟩ := List.mem_filter.1 hm
    rw [beq_iff_eq] at hk
    exact hk ▸ hm
  · cases h

namespace Schema

/-- The schemas that a program comes by: those that are read, and those made of such a format. -/
inductive Obtained : Schema → Prop
  | read {value : Json} {schema : Schema} (hd : value.Distinct)
    (h : Schema.ofJson? value = some schema) : Obtained schema
  | made (identifier name : String) {format : Format} (h : Format.Obtained format) :
    Obtained ⟨identifier, name, format⟩

/-- The format of a schema is read from a part of the value. -/
theorem exists_format_of_ofJson? {value : Json} (hd : value.Distinct) {schema : Schema}
    (h : Schema.ofJson? value = some schema) :
    ∃ part : Json, part.Distinct ∧ Format.ofJson? part = some schema.format := by
  rw [ofJson?.eq_def] at h
  split at h
  · rename_i entries
    obtain ⟨_, -, h⟩ := Option.bind_eq_some_iff.1 h
    obtain ⟨identifier, -, h⟩ := Option.bind_eq_some_iff.1 h
    obtain ⟨_, -, h⟩ := Option.bind_eq_some_iff.1 h
    obtain ⟨name, -, h⟩ := Option.bind_eq_some_iff.1 h
    obtain ⟨found, hfound, h⟩ := Option.bind_eq_some_iff.1 h
    obtain ⟨format, hformat, h⟩ := Option.bind_eq_some_iff.1 h
    cases h
    obtain ⟨part, rfl, hread⟩ := Option.bind_eq_some_iff.1 hformat
    exact ⟨part, (Json.distinct_obj_iff.1 hd).2 _ (Entries.mem_of_unique? hfound), hread⟩
  · rename_i first second part
    obtain ⟨identifier, -, h⟩ := Option.bind_eq_some_iff.1 h
    obtain ⟨name, -, h⟩ := Option.bind_eq_some_iff.1 h
    obtain ⟨format, hread, h⟩ := Option.bind_eq_some_iff.1 h
    cases h
    exact ⟨part, Json.distinct_arr_iff.1 hd part (by simp), hread⟩
  · cases h

theorem Obtained.format {schema : Schema} (h : schema.Obtained) :
    Format.Obtained schema.format := by
  cases h with
  | made _ _ h => exact h
  | read hd h =>
    obtain ⟨part, hpart, hread⟩ := exists_format_of_ofJson? hd h
    exact Format.obtained_of_ofJson? hpart hread

theorem ofJson?_toJson {schema : Schema}
    (h : Format.ofJson? (Format.toJson schema.format) = some schema.format) :
    Schema.ofJson? schema.toJson = some schema := by
  simp [toJson, ofJson?, Entries.unique?, Json.text?, h]

theorem distinct_toJson {schema : Schema} (h : (Format.toJson schema.format).Distinct) :
    schema.toJson.Distinct := by
  simpa [toJson, Json.Distinct, Json.DistinctEntries] using h

/-- All definitions, formats and schemas that are read or built are written as values without
repeated keys, from which they are read back as they were: the same types, names, nested fields and
values kept as they are, in the same order. The same paths can therefore be queried. A value that is
read repeats no key either, as every object that is held in memory. -/
theorem written_definitions_read_back :
    (∀ definition : FieldDef, definition.Obtained →
      definition.toJson.Distinct ∧ FieldDef.ofJson? definition.toJson = some definition) ∧
    (∀ format : Format, Format.Obtained format →
      (Format.toJson format).Distinct ∧ Format.ofJson? (Format.toJson format) = some format ∧
      (Format.ofJson? (Format.toJson format)).map TypeMap.ofFormat =
        some (TypeMap.ofFormat format)) ∧
    ∀ schema : Schema, schema.Obtained →
      schema.toJson.Distinct ∧ Schema.ofJson? schema.toJson = some schema ∧
      (Schema.ofJson? schema.toJson).map (fun read => TypeMap.ofFormat read.format) =
        some (TypeMap.ofFormat schema.format) := by
  have hformat : ∀ format : Format, Format.Obtained format → (Format.toJson format).Distinct :=
    fun format h => Format.distinct_obj_toEntries h.distinct fun field hf =>
      (h.fields field hf).settled.distinct_toJson
  refine ⟨fun definition h => ?_, fun format h => ?_, fun schema h => ?_⟩
  · exact ⟨h.settled.distinct_toJson, h.settled.ofJson?_toJson⟩
  · exact ⟨hformat format h, h.ofJson?_toJson, congrArg _ h.ofJson?_toJson⟩
  · have hread := ofJson?_toJson h.format.ofJson?_toJson
    exact ⟨distinct_toJson (hformat _ h.format), hread, congrArg _ hread⟩

/-! ### A schema in mixed forms -/

/-- A type without a name of its own, definitions as lists and as objects in any order, and, below
an object, a value with one entry that is no definition. -/
def kennelText : Json :=
  .arr [.str "kennel", .str "kennels", .obj [
    ("name", .arr [.str "string", .null, .bool true]),
    ("kind", .obj [("type", .entry "enum" .null), ("subtype", .arr [.str "dog", .null])]),
    ("pets", .obj [("subtype", .obj [("size", .arr [.str "number"]),
      ("chip", .obj [("type", .entry "string" .null)])]), ("type", .str "array")]),
    ("address", .obj [("type", .str "object"), ("note", .int 1), ("subtype", .obj [
      ("city", .obj [("type", .str "string"), ("required", .bool false)]),
      ("place", .arr [.str "object",
        .obj [("latitude", .arr [.str "number"]), ("longitude", .int 3)]])])])]]

def kennel : Schema :=
  ⟨"kennel", "kennels", [
    ("name", .requiredString),
    ("kind", .mk .unknown (.other (.arr [.str "dog", .null])) false),
    ("pets", .arrayOfObjects [("size", .number), ("chip", .optionalString)]),
    ("address", .object [
      ("city", .optionalString),
      ("place", .mk .object
        (.other (.obj [("latitude", .arr [.str "number"]), ("longitude", .int 3)])) false)])]⟩

theorem kennel_reads_back :
    (kennelText.Distinct ∧ Schema.ofJson? kennelText = some kennel ∧
      (FieldDef.arrayOfObjects kennel.format).Obtained) ∧
    FieldDef.ofJson? (FieldDef.arrayOfObjects kennel.format).toJson =
      some (.arrayOfObjects kennel.format) ∧
    Format.ofJson? (Format.toJson kennel.format) = some kennel.format ∧
    Schema.ofJson? kennel.toJson = some kennel ∧
    (Schema.ofJson? kennel.toJson).map (fun read => TypeMap.ofFormat read.format) =
      some ⟨[("name", .string), ("pets", .objectArray), ("address.city", .string),
        ("address.place", .object)]⟩ := by
  have hd : kennelText.Distinct := by
    simp [kennelText, Json.entry, Json.int, Json.Distinct, Json.DistinctEntries,
      Json.DistinctItems]
  have hread : Schema.ofJson? kennelText = some kennel := by rfl
  have hkennel : kennel.Obtained := .read hd hread
  have harray : (FieldDef.arrayOfObjects kennel.format).Obtained :=
    .arrayOfObjects hkennel.format.distinct hkennel.format.fields
  obtain ⟨hdefinitions, hformats, hschemas⟩ := written_definitions_read_back
  refine ⟨⟨hd, hread, harray⟩, (hdefinitions _ harray).2, (hformats _ hkennel.format).2.1,
    (hschemas _ hkennel).2.1, ?_⟩
  rw [(hschemas _ hkennel).2.2]
  rfl

/-- In a text, which may repeat a key, a value can lose the entry for which it is kept as it is. -/
example :
    FieldDef.ofJson? (.arr [.str "array", .obj [("a", .null), ("a", .arr [.str "date"])]]) =
        some (.mk .array (.other (.entry "a" (.arr [.str "date"]))) false) ∧
      FieldDef.ofJson?
          (FieldDef.mk .array (.other (.entry "a" (.arr [.str "date"]))) false).toJson =
        some (.arrayOfObjects [("a", .date)]) :=
  ⟨rfl, rfl⟩

end Schema

end SchemaQuery
