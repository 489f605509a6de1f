/-!
# Results of steps that may fail

A chain of steps succeeds exactly when all its steps do; the results of a list of steps are those
of its members.
-/

namespace SchemaQuery.Results

variable {ε α β γ : Type}

theorem bind_eq_ok_iff {first : Except ε α} {next : α → Except ε β} {result : β} :
    first >>= next = .ok result ↔ ∃ value, first = .ok value ∧ next value = .ok result := by
  cases first with
  | error error => exact iff_of_false (fun h => nomatch h) fun ⟨_, h, _⟩ => nomatch h
  | ok value =>
    constructor
    · exact fun h => ⟨value, rfl, h⟩
    · rintro ⟨_, h, hn⟩
      cases h
      exact hn

theorem map_eq_ok_iff {f : α → β} {first : Except ε α} {result : β} :
    first.map f = .ok result ↔ ∃ value, first = .ok value ∧ f value = result := by
  cases first with
  | error error => exact iff_of_false (fun h => nomatch h) fun ⟨_, h, _⟩ => nomatch h
  | ok value =>
    constructor
    · exact fun h => ⟨value, rfl, Except.ok.inj h⟩
    · rintro ⟨_, h, rfl⟩
      cases h
      rfl

theorem bind_pure_eq_map (first : Except ε α) (f : α → β) :
    (do let value ← first; pure (f value)) = first.map f := by
  cases first <;> rfl

theorem bind_map (first : Except ε α) (f : α → β) (next : β → Except ε γ) :
    first.map f >>= next = first >>= fun value => next (f value) := by
  cases first <;> rfl

theorem map_bind (first : Except ε α) (next : α → Except ε β) (f : β → γ) :
    (first >>= next).map f = first >>= fun value => (next value).map f := by
  cases first <;> rfl

theorem map_map (first : Except ε α) (f : α → β) (g : β → γ) :
    (first.map f).map g = first.map fun value => g (f value) := by
  cases first <;> rfl

theorem mapM_cons (f : α → Except ε β) (x : α) (xs : List α) :
    (x :: xs).mapM f = f x >>= fun y => (xs.mapM f).map fun ys => y :: ys := by
  rw [List.mapM_cons]
  cases f x with
  | error error => rfl
  | ok y => exact bind_pure_eq_map _ _

theorem mapM_cons_eq_ok_iff {f : α → Except ε β} {x : α} {xs : List α} {ys : List β} :
    (x :: xs).mapM f = .ok ys ↔
      ∃ y rest, f x = .ok y ∧ xs.mapM f = .ok rest ∧ ys = y :: rest := by
  rw [mapM_cons, bind_eq_ok_iff]
  constructor
  · rintro ⟨y, hy, h⟩
    obtain ⟨rest, hr, rfl⟩ := map_eq_ok_iff.1 h
    exact ⟨y, rest, hy, hr, rfl⟩
  · rintro ⟨y, rest, hy, hr, rfl⟩
    exact ⟨y, hy, map_eq_ok_iff.2 ⟨rest, hr, rfl⟩⟩

theorem mapM_append_eq_ok_iff {f : α → Except ε β} {xs ys : List α} {zs : List β} :
    (xs ++ ys).mapM f = .ok zs ↔
      ∃ us vs, xs.mapM f = .ok us ∧ ys.mapM f = .ok vs ∧ zs = us ++ vs := by
  rw [List.mapM_append, bind_eq_ok_iff]
  constructor
  · rintro ⟨us, hu, h⟩
    rw [bind_pure_eq_map] at h
    obtain ⟨vs, hv, rfl⟩ := map_eq_ok_iff.1 h
    exact ⟨us, vs, hu, hv, rfl⟩
  · rintro ⟨us, vs, hu, hv, rfl⟩
    refine ⟨us, hu, ?_⟩
    rw [bind_pure_eq_map]
    exact map_eq_ok_iff.2 ⟨vs, hv, rfl⟩

theorem mapM_eq_ok_map {f : α → Except ε β} {g : α → β} {xs : List α}
    (h : ∀ x ∈ xs, f x = .ok (g x)) : xs.mapM f = .ok (xs.map g) := by
  induction xs with
  | nil => rfl
  | cons x xs ih =>
    rw [List.forall_mem_cons] at h
    exact mapM_cons_eq_ok_iff.2 ⟨g x, xs.map g, h.1, ih h.2, rfl⟩

/-- A list of steps succeeds when each of them does. -/
theorem exists_mapM_eq_ok_iff {f : α → Except ε β} {xs : List α} :
    (∃ ys, xs.mapM f = .ok ys) ↔ ∀ x ∈ xs, ∃ y, f x = .ok y := by
  induction xs with
  | nil => exact iff_of_true ⟨[], rfl⟩ (by simp)
  | cons x xs ih =>
    rw [List.forall_mem_cons, ← ih]
    constructor
    · rintro ⟨_, h⟩
      obtain ⟨y, rest, hy, hr, -⟩ := mapM_cons_eq_ok_iff.1 h
      exact ⟨⟨y, hy⟩, rest, hr⟩
    · rintro ⟨⟨y, hy⟩, rest, hr⟩
      exact ⟨_, mapM_cons_eq_ok_iff.2 ⟨y, rest, hy, hr, rfl⟩⟩

/-- Each member of a list of steps that all succeed has its result among the results. -/
theorem exists_mem_of_mapM {f : α → Except ε β} {xs : List α} {ys : List β}
    (h : xs.mapM f = .ok ys) {x : α} (hx : x ∈ xs) : ∃ y ∈ ys, f x = .ok y := by
  induction xs generalizing ys with
  | nil => cases hx
  | cons first rest ih =>
    obtain ⟨y, others, hy, ho, rfl⟩ := mapM_cons_eq_ok_iff.1 h
    rcases List.mem_cons.1 hx with rfl | hx
    · exact ⟨y, List.mem_cons_self, hy⟩
    · obtain ⟨z, hz, hf⟩ := ih ho hx
      exact ⟨z, List.mem_cons_of_mem _ hz, hf⟩

/-- Each result of a list of steps is the result of a member. -/
theorem exists_mem_of_mem_mapM {f : α → Except ε β} {xs : List α} {ys : List β}
    (h : xs.mapM f = .ok ys) {y : β} (hy : y ∈ ys) : ∃ x ∈ xs, f x = .ok y := by
  induction xs generalizing ys with
  | nil =>
    cases h
    cases hy
  | cons first rest ih =>
    obtain ⟨z, others, hz, ho, rfl⟩ := mapM_cons_eq_ok_iff.1 h
    rcases List.mem_cons.1 hy with rfl | hy
    · exact ⟨first, List.mem_cons_self, hz⟩
    · obtain ⟨x, hx, hf⟩ := ih ho hy
      exact ⟨x, List.mem_cons_of_mem _ hx, hf⟩

/-- Steps that only add to a state can be run first, and the state be computed afterwards. -/
theorem foldlM_eq_map_mapM {f : γ → α → Except ε γ} {step : α → Except ε β} {add : γ → β → γ}
    {xs : List α} (h : ∀ x ∈ xs, ∀ state, f state x = (step x).map (add state)) (state : γ) :
    xs.foldlM f state = (xs.mapM step).map fun results => results.foldl add state := by
  induction xs generalizing state with
  | nil => rfl
  | cons x xs ih =>
    rw [List.forall_mem_cons] at h
    rw [List.foldlM_cons, h.1, bind_map, mapM_cons, map_bind]
    refine congrArg (step x >>= ·) (funext fun result => ?_)
    rw [ih h.2, map_map]
    rfl

end SchemaQuery.Results
