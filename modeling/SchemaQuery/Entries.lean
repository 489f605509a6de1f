/-!
# Ordered entries

Lists of named values as a mapping that remembers the order in which its keys came: looking up
finds the first entry of a key, and inserting keeps a known key at its place.
-/

namespace SchemaQuery.Entries

universe u v

variable {α : Type u} {β : Type v}

/-- The value of the first entry with the key. -/
def get? : List (String × α) → String → Option α
  | [], _ => none
  | (k, v) :: rest, key => if k = key then some v else get? rest key

/-- Some entry has the key. -/
def contains (entries : List (String × α)) (key : String) : Bool := entries.any (·.1 == key)

/-- The keys in order. -/
def keys (entries : List (String × α)) : List String := entries.map (·.1)

/-- Replaces the value of a known key at its place; a new key goes to the end. -/
def insert : List (String × α) → String → α → List (String × α)
  | [], key, value => [(key, value)]
  | (k, v) :: rest, key, value =>
    if k = key then (k, value) :: rest else (k, v) :: insert rest key value

/-- Inserts entries one after the other. -/
def insertAll (entries : List (String × α)) (more : List (String × α)) : List (String × α) :=
  more.foldl (fun entries entry => insert entries entry.1 entry.2) entries

/-- One entry for each key: the first place and the last value of a repeated key count. -/
def ofList (entries : List (String × α)) : List (String × α) := insertAll [] entries

/-- Applies a function to each value. -/
def mapValues (f : α → β) (entries : List (String × α)) : List (String × β) :=
  entries.map fun entry => (entry.1, f entry.2)

/-! ## Keys of the results -/

@[simp] theorem keys_nil : keys ([] : List (String × α)) = [] := rfl

@[simp] theorem keys_cons (key : String) (value : α) (rest : List (String × α)) :
    keys ((key, value) :: rest) = key :: keys rest := rfl

theorem contains_iff_mem_keys {entries : List (String × α)} {key : String} :
    contains entries key = true ↔ key ∈ keys entries := by
  simp [contains, keys]

theorem get?_eq_none_iff {entries : List (String × α)} {key : String} :
    get? entries key = none ↔ key ∉ keys entries := by
  induction entries with
  | nil => simp [get?]
  | cons entry rest ih =>
    obtain ⟨k, v⟩ := entry
    by_cases h : k = key
    · simp [get?, h]
    · simp [get?, h, ih, Ne.symm h]

theorem get?_insert (entries : List (String × α)) (key other : String) (value : α) :
    get? (insert entries key value) other =
      if key = other then some value else get? entries other := by
  induction entries with
  | nil => simp [insert, get?]
  | cons entry rest ih =>
    obtain ⟨k, v⟩ := entry
    by_cases h : k = key
    · subst h; by_cases ho : k = other <;> simp [insert, get?, ho]
    · by_cases ho : k = other
      · subst ho; simp [insert, get?, h, Ne.symm h]
      · simp [insert, get?, h, ho, ih]

theorem keys_insert (entries : List (String × α)) (key : String) (value : α) :
    keys (insert entries key value) =
      if key ∈ keys entries then keys entries else keys entries ++ [key] := by
  induction entries with
  | nil => simp [insert]
  | cons entry rest ih =>
    obtain ⟨k, v⟩ := entry
    by_cases h : k = key
    · simp [insert, h]
    · by_cases hm : key ∈ keys rest <;> simp [insert, h, ih, hm, Ne.symm h]

theorem nodup_keys_insert {entries : List (String × α)} (key : String) (value : α)
    (h : (keys entries).Nodup) : (keys (insert entries key value)).Nodup := by
  rw [keys_insert]
  split
  · exact h
  · rename_i hm
    refine List.nodup_append.2 ⟨h, by simp, fun a ha b hb hab => hm ?_⟩
    rw [List.mem_singleton] at hb
    exact hb ▸ hab ▸ ha

theorem nodup_keys_insertAll {entries : List (String × α)} (more : List (String × α))
    (h : (keys entries).Nodup) : (keys (insertAll entries more)).Nodup := by
  induction more generalizing entries with
  | nil => exact h
  | cons entry rest ih => exact ih (nodup_keys_insert _ _ h)

theorem nodup_keys_ofList (entries : List (String × α)) : (keys (ofList entries)).Nodup :=
  nodup_keys_insertAll entries (by simp)

end SchemaQuery.Entries
