import SchemaQuery.Proofs.Merging

/-!
# Columns of a fold

The values that the objects of a list have under one key are the column of the key. A fragment with
a single key is folded by what it finds in its own column (`stack`), whatever the objects have under
other keys: the objects that have a key always come first (`Arranged`), so the column of a key after
a fold is the fold of that column (`column_foldAll`). Objects that reject each other are added to a
single object as they are, except that one of them may be merged into it (`foldAll_cons_cases`).
-/

namespace SchemaQuery.Constraint

variable {key : String} {conjuncts : List Constraint} {fragment : Constraint} {values : List Json}

/-- The values that the objects have under a key, in order. -/
def column (key : String) (conjuncts : List Constraint) : List Json :=
  conjuncts.filterMap (Entries.get? · key)

theorem mem_column_iff {value : Json} :
    value ∈ column key conjuncts ↔
      ∃ constraint ∈ conjuncts, Entries.get? constraint key = some value := by
  rw [column, List.mem_filterMap]

theorem column_eq_nil_iff :
    column key conjuncts = [] ↔ ∀ constraint ∈ conjuncts, Entries.get? constraint key = none :=
  List.filterMap_eq_nil_iff

theorem column_cons_some {first : Constraint} {rest : List Constraint} {value : Json}
    (h : Entries.get? first key = some value) :
    column key (first :: rest) = value :: column key rest :=
  List.filterMap_cons_some h

theorem column_cons_none {first : Constraint} {rest : List Constraint}
    (h : Entries.get? first key = none) : column key (first :: rest) = column key rest :=
  List.filterMap_cons_none h

theorem mem_column_cons_iff {target : Constraint} {rest : List Constraint} {value : Json} :
    value ∈ column key (target :: rest) ↔
      Entries.get? target key = some value ∨ value ∈ column key rest := by
  simp [mem_column_iff]

theorem column_append (xs ys : List Constraint) :
    column key (xs ++ ys) = column key xs ++ column key ys :=
  List.filterMap_append

/-- Joins a value to the first one that takes it, or appends it as a further one. -/
def stack (key : String) : List Json → Json → List Json
  | [], incoming => [incoming]
  | value :: rest, incoming =>
    if collides key (some value) incoming then value :: stack key rest incoming
    else combine value incoming :: rest

/-- Stacks values one after the other. -/
def stackAll (key : String) (values incoming : List Json) : List Json :=
  incoming.foldl (stack key) values

/-- A value that rejects all those that come is left as it is. -/
theorem stackAll_cons_of_rejecting {value : Json} {incoming : List Json}
    (h : ∀ other ∈ incoming, collides key (some value) other = true) :
    stackAll key (value :: values) incoming = value :: stackAll key values incoming := by
  induction incoming generalizing values with
  | nil => rfl
  | cons first rest ih =>
    rw [List.forall_mem_cons] at h
    have hfirst : stack key (value :: values) first = value :: stack key values first :=
      if_pos h.1
    calc stackAll key (value :: values) (first :: rest)
        = stackAll key (value :: stack key values first) rest := by rw [← hfirst]; rfl
      _ = value :: stackAll key values (first :: rest) := ih h.2

/-- Values that reject each other are appended. -/
theorem stackAll_eq_append {incoming : List Json}
    (h : (values ++ incoming).Pairwise fun value other => collides key (some value) other = true) :
    stackAll key values incoming = values ++ incoming := by
  induction values generalizing incoming with
  | cons value rest ih =>
    rw [List.cons_append, List.pairwise_cons] at h
    rw [stackAll_cons_of_rejecting fun other ho => h.1 other (List.mem_append_right _ ho),
      ih h.2, List.cons_append]
  | nil =>
    induction incoming with
    | nil => rfl
    | cons first rest ih =>
      rw [List.nil_append, List.pairwise_cons] at h
      calc stackAll key [] (first :: rest) = stackAll key [first] rest := rfl
        _ = first :: stackAll key [] rest := stackAll_cons_of_rejecting h.1
        _ = [] ++ first :: rest := by rw [ih h.2]; rfl

/-! ## The objects that have a key come first -/

/-- The objects that have the key come first, and these are their values under it. -/
def Arranged (key : String) (conjuncts : List Constraint) (values : List Json) : Prop :=
  ∃ others, conjuncts.map (Entries.get? · key) = values.map some ++ List.replicate others none

theorem arranged_nil (key : String) : Arranged key [] [] := ⟨0, rfl⟩

theorem Arranged.column_eq (h : Arranged key conjuncts values) : column key conjuncts = values := by
  obtain ⟨others, h⟩ := h
  calc column key conjuncts = (conjuncts.map (Entries.get? · key)).filterMap id := by
        rw [List.filterMap_map]; rfl
    _ = values := by
        rw [h, List.filterMap_append, List.filterMap_map, List.filterMap_replicate]
        simp

theorem arranged_cons_some {target : Constraint} {rest : List Constraint} {value : Json}
    (ht : Entries.get? target key = some value) (h : Arranged key rest values) :
    Arranged key (target :: rest) (value :: values) := by
  obtain ⟨others, h⟩ := h
  exact ⟨others, by rw [List.map_cons, ht, h]; rfl⟩

theorem arranged_cons_none {target : Constraint} {rest : List Constraint}
    (ht : Entries.get? target key = none) (h : Arranged key rest []) :
    Arranged key (target :: rest) [] := by
  obtain ⟨others, h⟩ := h
  exact ⟨others + 1, by rw [List.map_cons, ht, h]; rfl⟩

theorem Arranged.nil_cases (h : Arranged key [] values) : values = [] := by
  obtain ⟨others, h⟩ := h
  exact List.map_eq_nil_iff.1 (List.append_eq_nil_iff.1 h.symm).1

theorem Arranged.cons_cases {target : Constraint} {rest : List Constraint}
    (h : Arranged key (target :: rest) values) :
    (∃ value others, Entries.get? target key = some value ∧ values = value :: others ∧
      Arranged key rest others) ∨
    Entries.get? target key = none ∧ values = [] ∧ Arranged key rest [] := by
  obtain ⟨others, h⟩ := h
  cases values with
  | cons value more =>
    rw [List.map_cons, List.map_cons, List.cons_append, List.cons.injEq] at h
    exact .inl ⟨value, more, h.1, rfl, others, h.2⟩
  | nil =>
    cases others with
    | zero => cases h
    | succ others =>
      rw [List.map_nil, List.nil_append, List.replicate_succ, List.map_cons,
        List.cons.injEq] at h
      exact .inr ⟨h.1, rfl, others, h.2⟩

/-! ## Folding fragments with a single key -/

/-- A fragment without the key leaves the column as it is. -/
theorem Arranged.fold_other (h : Arranged key conjuncts values) (hf : fragment.Regular)
    (hnone : Entries.get? fragment key = none) : Arranged key (fold conjuncts fragment) values := by
  induction conjuncts generalizing values with
  | nil =>
    rw [h.nil_cases]
    exact arranged_cons_none hnone (arranged_nil key)
  | cons target rest ih =>
    have hmerged : ∀ {merged}, target.merge? fragment = some merged →
        Entries.get? merged key = Entries.get? target key := by
      intro merged hm
      rw [get?_merge? hf hm, hnone]
      cases Entries.get? target key <;> rfl
    cases hm : target.merge? fragment with
    | none =>
      rw [fold_cons_of_rejected _ hm]
      rcases h.cons_cases with ⟨value, others, ht, rfl, hrest⟩ | ⟨ht, rfl, hrest⟩
      · exact arranged_cons_some ht (ih hrest)
      · exact arranged_cons_none ht (ih hrest)
    | some merged =>
      rw [fold_cons_of_merge? _ hm]
      rcases h.cons_cases with ⟨value, others, ht, rfl, hrest⟩ | ⟨ht, rfl, hrest⟩
      · exact arranged_cons_some ((hmerged hm).trans ht) hrest
      · exact arranged_cons_none ((hmerged hm).trans ht) hrest

theorem merge?_single_eq_none_iff {target : Constraint} {value : Json} :
    target.merge? [(key, value)] = none ↔ collides key (Entries.get? target key) value = true := by
  rw [merge?_eq_none_iff]
  simp

/-- A fragment with the key alone is stacked on the column. -/
theorem Arranged.fold_single (h : Arranged key conjuncts values) {incoming : Json}
    (hf : Regular [(key, incoming)]) :
    Arranged key (fold conjuncts [(key, incoming)]) (stack key values incoming) := by
  have hsingle := Entries.get?_singleton key incoming
  induction conjuncts generalizing values with
  | nil =>
    rw [h.nil_cases]
    exact arranged_cons_some hsingle (arranged_nil key)
  | cons target rest ih =>
    have hmerged : ∀ {merged}, target.merge? [(key, incoming)] = some merged →
        Entries.get? merged key =
          Option.merge combine (Entries.get? target key) (some incoming) := by
      intro merged hm
      rw [get?_merge? hf hm, hsingle]
    rcases h.cons_cases with ⟨value, others, ht, rfl, hrest⟩ | ⟨ht, rfl, hrest⟩
    · cases hm : target.merge? [(key, incoming)] with
      | none =>
        have hc := merge?_single_eq_none_iff.1 hm
        rw [ht] at hc
        rw [fold_cons_of_rejected _ hm, stack, if_pos hc]
        exact arranged_cons_some ht (ih hrest)
      | some merged =>
        have hc := not_collides_of_merge? hm hsingle
        rw [ht] at hc
        rw [fold_cons_of_merge? _ hm, stack, if_neg (by simp [hc])]
        exact arranged_cons_some (by rw [hmerged hm, ht]; rfl) hrest
    · cases hm : target.merge? [(key, incoming)] with
      | none =>
        have hc := merge?_single_eq_none_iff.1 hm
        rw [ht] at hc
        cases hc
      | some merged =>
        rw [fold_cons_of_merge? _ hm]
        exact arranged_cons_some (by rw [hmerged hm, ht]; rfl) hrest

/-- The fragment has a single key. -/
def Single (fragment : Constraint) : Prop := ∃ key value, fragment = [(key, value)]

/-- Folding fragments with a single key each is stacking in every column by itself. -/
theorem Arranged.foldAll {fragments : List Constraint} (h : Arranged key conjuncts values)
    (hf : ∀ fragment ∈ fragments, fragment.Regular) (hs : ∀ fragment ∈ fragments, fragment.Single) :
    Arranged key (Constraint.foldAll conjuncts fragments)
      (stackAll key values (column key fragments)) := by
  induction fragments generalizing conjuncts values with
  | nil => exact h
  | cons fragment rest ih =>
    rw [List.forall_mem_cons] at hf hs
    obtain ⟨other, value, rfl⟩ := hs.1
    rw [foldAll_cons]
    by_cases hk : other = key
    · subst hk
      rw [column_cons_some (Entries.get?_singleton other value)]
      exact ih (h.fold_single hf.1) hf.2 hs.2
    · have hnone : Entries.get? [(other, value)] key = none := if_neg hk
      rw [column_cons_none hnone]
      exact ih (h.fold_other hf.1 hnone) hf.2 hs.2

theorem arranged_foldAll {fragments : List Constraint}
    (hf : ∀ fragment ∈ fragments, fragment.Regular) (hs : ∀ fragment ∈ fragments, fragment.Single)
    (key : String) :
    Arranged key (foldAll [] fragments) (stackAll key [] (column key fragments)) :=
  (arranged_nil key).foldAll hf hs

/-- The column of a key after a fold is the fold of the column. -/
theorem column_foldAll {fragments : List Constraint}
    (hf : ∀ fragment ∈ fragments, fragment.Regular) (hs : ∀ fragment ∈ fragments, fragment.Single)
    (key : String) :
    column key (foldAll [] fragments) = stackAll key [] (column key fragments) :=
  (arranged_foldAll hf hs key).column_eq

/-! ## Adding objects that reject each other -/

/-- What collides with a value collides also with a value that it was joined to. -/
theorem collides_combine_of_grown {existing grown incoming : Json}
    (hg : collides key (some existing) grown = false)
    (h : collides key (some grown) incoming = true) :
    collides key (some (combine existing grown)) incoming = true := by
  rw [← Bool.not_eq_false, collides_some_eq_false_iff] at h ⊢
  intro hc
  apply h
  rcases collides_some_eq_false_iff.1 hg with
    ⟨hk, body, other, rfl, rfl, -⟩ | ⟨hk, items, others, rfl, rfl⟩
  · rcases hc with ⟨-, _, more, he, rfl, hd⟩ | ⟨_, _, _, he, -⟩
    · cases he
      refine .inl ⟨hk, other, more, rfl, rfl, fun inner hi ho => hd inner hi ?_⟩
      exact Entries.mem_keys_insertAll_iff.2 (.inr ho)
    · cases he
  · rcases hc with ⟨-, _, _, he, -⟩ | ⟨_, _, more, -, rfl⟩
    · cases he
    · exact .inr ⟨hk, others, more, rfl, rfl⟩

/-- A constraint rejects what a fragment that it took rejects. -/
theorem merge?_eq_none_of_taken {target merged other : Constraint} (hf : fragment.Regular)
    (hm : target.merge? fragment = some merged) (h : fragment.merge? other = none) :
    merged.merge? other = none := by
  obtain ⟨entry, he, hc⟩ := merge?_eq_none_iff.1 h
  refine merge?_eq_none_iff.2 ⟨entry, he, ?_⟩
  rw [get?_merge? hf hm]
  cases hi : Entries.get? fragment entry.1 with
  | none => rw [hi] at hc; cases hc
  | some incoming =>
    rw [hi] at hc
    have hn := not_collides_of_merge? hm hi
    cases ht : Entries.get? target entry.1 with
    | none => exact hc
    | some existing =>
      rw [ht] at hn
      exact collides_combine_of_grown hn hc

/-- Of objects that reject each other, a single object takes the first that it can take; the others
are kept as they are. -/
theorem foldAll_cons_cases (target : Constraint) {others : List Constraint} (h : Clashing others)
    (hr : ∀ constraint ∈ others, constraint.Regular) :
    ((∀ constraint ∈ others, target.merge? constraint = none) ∧
      foldAll [target] others = target :: others) ∨
    ∃ front taken back merged, others = front ++ taken :: back ∧
      (∀ constraint ∈ front, target.merge? constraint = none) ∧
      target.merge? taken = some merged ∧ foldAll [target] others = merged :: (front ++ back) := by
  cases hfind : others.find? fun constraint => (target.merge? constraint).isSome with
  | none =>
    have hall : ∀ constraint ∈ others, target.merge? constraint = none := by
      simpa using List.find?_eq_none.1 hfind
    exact .inl ⟨hall, foldAll_eq_append (List.pairwise_cons.2 ⟨hall, h⟩)⟩
  | some taken =>
    right
    obtain ⟨hsome, front, back, rfl, hfront⟩ := List.find?_eq_some_iff_append.1 hfind
    have hfront : ∀ constraint ∈ front, target.merge? constraint = none := by simpa using hfront
    obtain ⟨merged, hm⟩ := Option.isSome_iff_exists.1 hsome
    refine ⟨front, taken, back, merged, rfl, hfront, hm, ?_⟩
    obtain ⟨hclash, hback, hcross⟩ := List.pairwise_append.1 h
    rw [List.pairwise_cons] at hback
    have htakenr : taken.Regular := hr taken (by simp)
    have hkept : foldAll [target] front = target :: front :=
      foldAll_eq_append (List.pairwise_cons.2 ⟨hfront, hclash⟩)
    -- Grown by what it took, the target rejects what either of the two rejected.
    have hmerged : Clashing (merged :: front ++ back) := by
      refine List.pairwise_cons.2 ⟨fun other ho => ?_, ?_⟩
      · rcases List.mem_append.1 ho with ho | ho
        · exact merge?_eq_none_of_grown htakenr hm (hfront other ho)
        · exact merge?_eq_none_of_taken htakenr hm (hback.1 other ho)
      · refine List.pairwise_append.2 ⟨hclash, hback.2, fun first hf second hs => ?_⟩
        exact hcross first hf second (List.mem_cons_of_mem _ hs)
    calc foldAll [target] (front ++ taken :: back)
        = foldAll (fold (target :: front) taken) back := by
          rw [foldAll_append, hkept, foldAll_cons]
      _ = foldAll (merged :: front) back := by rw [fold_cons_of_merge? _ hm]
      _ = merged :: (front ++ back) := foldAll_eq_append hmerged

end SchemaQuery.Constraint
