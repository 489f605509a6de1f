import SchemaQuery.Compiler
import SchemaQuery.Proofs.Fragments
import SchemaQuery.Proofs.Positions

/-!
# Compilation as a run

A query compiles when its nodes can be read and each node has its steps; the filter is then what the
run of all steps leaves (`compile_eq_ok_iff`). An operator object that is bound to a path gives its
constraints as clauses (`compile_entry`).
-/

namespace SchemaQuery

namespace QueryNode

/-- The combinators that the node is compiled with; the query on an element has none. -/
def boundCombinators (node : QueryNode) : List (Combinator × Json) :=
  if node.onElement then [] else node.combinators

/-- The entries outside of combinators. The query on an element of a list counts as one entry of
the list. -/
def ownEntries (node : QueryNode) : List (String × Json) :=
  if node.onElement then [(Operator.oneFulfills, .obj node.body)] else node.plainEntries

/-- The items of the combinators, each with its combinator. -/
def items (node : QueryNode) : List (Combinator × List (String × Json)) :=
  node.boundCombinators.flatMap fun (combinator, value) =>
    value.elements.filterMap fun item => item.entries?.map fun entries => (combinator, entries)

theorem mem_items_iff {node : QueryNode} {combinator : Combinator}
    {entries : List (String × Json)} :
    (combinator, entries) ∈ node.items ↔
      ∃ value, (combinator, value) ∈ node.boundCombinators ∧ .obj entries ∈ value.elements := by
  rw [items, List.mem_flatMap]
  constructor
  · rintro ⟨⟨other, value⟩, hb, h⟩
    obtain ⟨item, hi, h⟩ := List.mem_filterMap.1 h
    cases item <;> simp only [Json.entries?, Option.map_none, Option.map_some, reduceCtorEq,
      Option.some.injEq, Prod.mk.injEq] at h
    obtain ⟨rfl, rfl⟩ := h
    exact ⟨value, hb, hi⟩
  · rintro ⟨value, hb, h⟩
    exact ⟨_, hb, List.mem_filterMap.2 ⟨_, h, rfl⟩⟩

/-- The node is bound to a path of the type map, and to a list if it is the query on an element. -/
structure Bound (types : TypeMap) (node : QueryNode) : Prop where
  category : types.get? node.path = some node.category
  isArray : node.onElement = true → node.category.isArray = true

end QueryNode

namespace Query

open Assembly (Step)

/-! ## Nodes -/

theorem get?_of_target_field {types : TypeMap} {path : String} {category : Category}
    (h : target types path = .field category) : types.get? path = some category := by
  rw [target] at h
  split at h
  · cases h
    assumption
  · split at h
    · cases h
    · split at h <;> cases h

theorem get?_of_elementTarget? {types : TypeMap} {path list : String} {category : Category}
    (h : types.elementTarget? path = some (list, category)) :
    types.get? list = some category ∧ category.isArray = true := by
  rw [TypeMap.elementTarget?] at h
  obtain ⟨other, -, h⟩ := Option.bind_eq_some_iff.1 h
  obtain ⟨found, hc, h⟩ := Option.bind_eq_some_iff.1 h
  split at h
  · cases h
    exact ⟨hc, by assumption⟩
  · cases h

theorem get?_of_target_element {types : TypeMap} {path list : String} {category : Category}
    (h : target types path = .element list category) :
    types.get? list = some category ∧ category.isArray = true := by
  rw [target] at h
  split at h
  · cases h
  · split at h
    · cases h
      exact get?_of_elementTarget? (by assumption)
    · split at h <;> cases h

/-- The nodes that a single entry of a query gives. -/
def nodesOfEntry (types : TypeMap) (parent : Option String) (entry : String × Json) :
    Except QueryError (List QueryNode) :=
  let path := joinPath parent entry.1
  match target types path, entry.2 with
  | .field category, .obj body => .ok [⟨path, category, body, false⟩]
  | .field _, _ => .error (.malformed path .field)
  | .element list category, .obj body => .ok [⟨list, category, body, true⟩]
  | .element .., _ => .error (.malformed path .element)
  | .above, .obj inner => nodesOfEntries types (some path) inner
  | _, _ => .ok []

theorem nodesOfEntries_cons (types : TypeMap) (parent : Option String) (entry : String × Json)
    (rest : List (String × Json)) :
    nodesOfEntries types parent (entry :: rest) = (do
      let found ← nodesOfEntry types parent entry
      let others ← nodesOfEntries types parent rest
      return found ++ others) := by
  obtain ⟨key, value⟩ := entry
  rw [nodesOfEntries.eq_def]
  simp only [nodesOfEntry]
  cases target types (joinPath parent key) <;> cases value <;> rfl

theorem nodesOfEntries_append_eq_ok_iff {types : TypeMap} {parent : Option String}
    {xs ys : List (String × Json)} {nodes : List QueryNode} :
    nodesOfEntries types parent (xs ++ ys) = .ok nodes ↔
      ∃ first second, nodesOfEntries types parent xs = .ok first ∧
        nodesOfEntries types parent ys = .ok second ∧ nodes = first ++ second := by
  induction xs generalizing nodes with
  | nil =>
    rw [List.nil_append, nodesOfEntries]
    constructor
    · exact fun h => ⟨[], nodes, rfl, h, rfl⟩
    · rintro ⟨_, _, h, hy, rfl⟩
      cases h
      exact hy
  | cons entry rest ih =>
    rw [List.cons_append, nodesOfEntries_cons, nodesOfEntries_cons]
    simp only [Results.bind_pure_eq_map, Results.bind_eq_ok_iff, Results.map_eq_ok_iff, ih]
    constructor
    · rintro ⟨found, hf, _, ⟨first, second, h₁, h₂, rfl⟩, rfl⟩
      exact ⟨found ++ first, second, ⟨found, hf, first, h₁, rfl⟩, h₂,
        (List.append_assoc ..).symm⟩
    · rintro ⟨_, second, ⟨found, hf, first, h₁, rfl⟩, h₂, rfl⟩
      exact ⟨found, hf, _, ⟨first, second, h₁, h₂, rfl⟩, (List.append_assoc ..).symm⟩

/-- Induction over the entries of a query: an entry bound to an object may use the claim for the
entries of that object. -/
theorem entries_induction {motive : List (String × Json) → Prop} (nil : motive [])
    (cons : ∀ key value rest, (∀ inner, value = .obj inner → motive inner) → motive rest →
      motive ((key, value) :: rest)) : ∀ entries, motive entries
  | [] => nil
  | (key, .obj inner) :: rest =>
    cons key _ rest (fun _ h => Json.obj.inj h ▸ entries_induction nil cons inner)
      (entries_induction nil cons rest)
  | (key, .null) :: rest | (key, .bool _) :: rest | (key, .num _) :: rest | (key, .str _) :: rest
  | (key, .arr _) :: rest =>
    cons key _ rest (fun _ h => nomatch h) (entries_induction nil cons rest)

/-- Every node is bound to a path of the type map. -/
theorem bound_of_nodesOfEntries {types : TypeMap} {parent : Option String}
    {entries : List (String × Json)} {nodes : List QueryNode}
    (h : nodesOfEntries types parent entries = .ok nodes) : ∀ node ∈ nodes, node.Bound types := by
  induction entries using entries_induction generalizing parent nodes with
  | nil =>
    rw [nodesOfEntries] at h
    cases h
    simp
  | cons key value rest ihinner ihrest =>
    rw [nodesOfEntries_cons] at h
    simp only [Results.bind_pure_eq_map, Results.bind_eq_ok_iff, Results.map_eq_ok_iff] at h
    obtain ⟨found, hf, others, ho, rfl⟩ := h
    rw [List.forall_mem_append]
    refine ⟨?_, ihrest ho⟩
    rw [nodesOfEntry] at hf
    split at hf
    · rename_i ht hv
      cases hf
      exact List.forall_mem_singleton.2 ⟨get?_of_target_field ht, Bool.noConfusion⟩
    · cases hf
    · rename_i ht hv
      cases hf
      have hget := get?_of_target_element ht
      exact List.forall_mem_singleton.2 ⟨hget.1, fun _ => hget.2⟩
    · cases hf
    · rename_i hv
      exact ihinner _ hv hf
    · cases hf
      simp

/-- The terminal nodes of a query; none if they cannot be read. -/
def terminalNodes (types : TypeMap) (query : Json) : List QueryNode :=
  match nodes types query with
  | .ok nodes => nodes
  | .error _ => []

theorem terminalNodes_eq {types : TypeMap} {query : Json} {found : List QueryNode}
    (h : nodes types query = .ok found) : terminalNodes types query = found := by
  rw [terminalNodes, h]

theorem bound_of_nodes {types : TypeMap} {query : Json} {found : List QueryNode}
    (h : nodes types query = .ok found) : ∀ node ∈ found, node.Bound types := by
  cases query with
  | null =>
    cases h
    simp
  | obj entries => exact bound_of_nodesOfEntries h
  | _ => cases h

/-! ## Steps -/

/-- The step for an item of a combinator. -/
def itemStep (path : String) (category : Category) (combinator : Combinator) :
    Json → Except QueryError Step
  | .obj entries => (Constraint.compile path category entries).map (.hoist combinator path)
  | _ => .error (.malformed (path ++ "." ++ combinator.key) .item)

/-- The steps for the items that a combinator binds. -/
def combinatorSteps (path : String) (category : Category) :
    Combinator × Json → Except QueryError (List Step)
  | (combinator, .arr items) => items.mapM (itemStep path category combinator)
  | (combinator, _) => .error (.malformedCombinator path combinator.key)

/-- The steps for a node: the items of its combinators, then its own entries. -/
def nodeSteps (node : QueryNode) : Except QueryError (List Step) := do
  let hoists ← node.boundCombinators.mapM (combinatorSteps node.path node.category)
  let constraints ← Constraint.compile node.path node.category node.ownEntries
  return hoists.flatten ++ constraints.map (.push node.path)

theorem addItems_eq (path : String) (category : Category) (combinator : Combinator)
    (items : List Json) (assembler : Assembler) :
    addItems path category combinator items assembler =
      (items.mapM (itemStep path category combinator)).map assembler.run := by
  induction items generalizing assembler with
  | nil => rw [addItems]; rfl
  | cons item rest ih =>
    rw [Results.mapM_cons, Results.map_bind]
    cases item with
    | obj entries =>
      rw [addItems, itemStep, Results.bind_map]
      refine congrArg (Constraint.compile path category entries >>= ·) (funext fun conjuncts => ?_)
      rw [ih, Results.map_map]
      rfl
    | _ => rfl

theorem addCombinators_eq (path : String) (category : Category)
    (bound : List (Combinator × Json)) (assembler : Assembler) :
    addCombinators path category bound assembler =
      (bound.mapM (combinatorSteps path category)).map fun steps =>
        assembler.run steps.flatten := by
  induction bound generalizing assembler with
  | nil => rw [addCombinators]; rfl
  | cons first rest ih =>
    obtain ⟨combinator, value⟩ := first
    rw [Results.mapM_cons, Results.map_bind]
    cases value with
    | arr items =>
      rw [addCombinators, combinatorSteps, addItems_eq, Results.bind_map]
      refine congrArg (items.mapM _ >>= ·) (funext fun steps => ?_)
      rw [ih, Results.map_map]
      simp only [List.flatten_cons, Assembler.run_append]
    | _ => rfl

theorem pushAll_eq (assembler : Assembler) (path : String) (constraints : List Constraint) :
    pushAll assembler path constraints = assembler.run (constraints.map (.push path)) := by
  rw [Assembler.run, List.foldl_map]
  rfl

/-- Adding a node is running its steps. -/
theorem addNode_eq {types : TypeMap} {node : QueryNode} (h : node.Bound types)
    (assembler : Assembler) :
    addNode assembler node = (nodeSteps node).map assembler.run := by
  rw [addNode, nodeSteps]
  cases he : node.onElement with
  | true =>
    have harray := h.isArray he
    rw [Category.isArray, Option.isSome_iff_exists] at harray
    obtain ⟨element, helement⟩ := harray
    have hown : node.ownEntries = [(Operator.oneFulfills, .obj node.body)] := if_pos he
    have hbound : node.boundCombinators = [] := if_pos he
    simp only [if_true, helement, hown, hbound, Constraint.compile_singleton,
      Constraint.fragmentsOf_oneFulfills helement, List.mapM_nil, pure_bind, List.flatten_nil,
      List.nil_append, Results.bind_pure_eq_map, Results.map_map, pushAll_eq]
  | false =>
    have hown : node.ownEntries = node.plainEntries := if_neg (by simp [he])
    have hbound : node.boundCombinators = node.combinators := if_neg (by simp [he])
    rw [if_neg (by simp), hown, hbound, addCombinators_eq, Results.bind_map, Results.map_bind]
    refine congrArg (node.combinators.mapM _ >>= ·) (funext fun hoists => ?_)
    rw [Results.bind_pure_eq_map, Results.bind_pure_eq_map, Results.map_map]
    refine congrArg (Except.map · _) (funext fun constraints => ?_)
    rw [pushAll_eq, Assembler.run_append]

/-- A query compiles to what the run of all its steps leaves. -/
theorem compile_eq_ok_iff {types : TypeMap} {query : Json} {filter : Filter} :
    compile types query = .ok filter ↔
      ∃ found steps, nodes types query = .ok found ∧ found.mapM nodeSteps = .ok steps ∧
        filter = (Assembly.empty.run steps.flatten).finish := by
  have hfold : ∀ {found : List QueryNode}, nodes types query = .ok found →
      found.foldlM addNode .empty =
        (found.mapM nodeSteps).map fun steps => Assembler.empty.run steps.flatten := by
    intro found hn
    have hbound := bound_of_nodes hn
    rw [Results.foldlM_eq_map_mapM fun node hm state => addNode_eq (hbound node hm) state]
    refine congrArg (Except.map · _) (funext fun steps => ?_)
    exact List.foldl_flatten.symm
  rw [compile, Results.bind_eq_ok_iff]
  constructor
  · rintro ⟨found, hn, h⟩
    rw [hfold hn, Results.bind_map, Results.bind_pure_eq_map, Results.map_eq_ok_iff] at h
    obtain ⟨steps, hs, rfl⟩ := h
    exact ⟨found, steps, hn, hs, Assembler.finish_run _⟩
  · rintro ⟨found, steps, hn, hs, rfl⟩
    refine ⟨found, hn, ?_⟩
    rw [hfold hn, hs, ← Assembler.finish_run]
    rfl

/-! ## The steps of a node -/

theorem combinatorSteps_eq_ok {path : String} {category : Category} {combinator : Combinator}
    {value : Json} {steps : List Step}
    (h : combinatorSteps path category (combinator, value) = .ok steps) :
    value.elements.mapM (itemStep path category combinator) = .ok steps := by
  cases value with
  | arr items => exact h
  | _ => cases h

theorem itemStep_eq_ok_iff {path : String} {category : Category} {combinator : Combinator}
    {item : Json} {step : Step} :
    itemStep path category combinator item = .ok step ↔
      ∃ entries conjuncts, item = .obj entries ∧
        Constraint.compile path category entries = .ok conjuncts ∧
        step = .hoist combinator path conjuncts := by
  cases item with
  | obj entries =>
    rw [itemStep, Results.map_eq_ok_iff]
    constructor
    · rintro ⟨conjuncts, hc, rfl⟩
      exact ⟨entries, conjuncts, rfl, hc, rfl⟩
    · rintro ⟨_, conjuncts, h, hc, rfl⟩
      cases h
      exact ⟨conjuncts, hc, rfl⟩
  | _ => exact iff_of_false (fun h => nomatch h) fun ⟨_, _, h, _⟩ => nomatch h

theorem nodeSteps_eq_ok_iff {node : QueryNode} {steps : List Step} :
    nodeSteps node = .ok steps ↔
      ∃ hoists constraints,
        node.boundCombinators.mapM (combinatorSteps node.path node.category) = .ok hoists ∧
        Constraint.compile node.path node.category node.ownEntries = .ok constraints ∧
        steps = hoists.flatten ++ constraints.map (.push node.path) := by
  simp only [nodeSteps, Results.bind_pure_eq_map, Results.bind_eq_ok_iff, Results.map_eq_ok_iff]
  constructor
  · rintro ⟨hoists, hh, constraints, hc, rfl⟩
    exact ⟨hoists, constraints, hh, hc, rfl⟩
  · rintro ⟨hoists, constraints, hh, hc, rfl⟩
    exact ⟨hoists, hh, constraints, hc, rfl⟩

/-- Each item of a node that has its steps compiles. -/
theorem exists_compile_item {node : QueryNode} {steps : List Step}
    (h : nodeSteps node = .ok steps) {combinator : Combinator} {entries : List (String × Json)}
    (hi : (combinator, entries) ∈ node.items) :
    ∃ conjuncts, Constraint.compile node.path node.category entries = .ok conjuncts ∧
      .hoist combinator node.path conjuncts ∈ steps := by
  obtain ⟨hoists, constraints, hh, -, rfl⟩ := nodeSteps_eq_ok_iff.1 h
  obtain ⟨value, hb, hv⟩ := QueryNode.mem_items_iff.1 hi
  obtain ⟨list, hl, hs⟩ := Results.exists_mem_of_mapM hh hb
  obtain ⟨step, hstep, hitem⟩ := Results.exists_mem_of_mapM (combinatorSteps_eq_ok hs) hv
  obtain ⟨_, conjuncts, hobj, hc, rfl⟩ := itemStep_eq_ok_iff.1 hitem
  cases hobj
  exact ⟨conjuncts, hc, List.mem_append_left _ (List.mem_flatten_of_mem hl hstep)⟩

/-- The steps of a node are its items and its own constraints. -/
theorem mem_nodeSteps_cases {node : QueryNode} {steps : List Step}
    (h : nodeSteps node = .ok steps) {step : Step} (hs : step ∈ steps) :
    (∃ combinator entries conjuncts, (combinator, entries) ∈ node.items ∧
      Constraint.compile node.path node.category entries = .ok conjuncts ∧
      step = .hoist combinator node.path conjuncts) ∨
    ∃ constraints constraint,
      Constraint.compile node.path node.category node.ownEntries = .ok constraints ∧
      constraint ∈ constraints ∧ step = .push node.path constraint := by
  obtain ⟨hoists, constraints, hh, hc, rfl⟩ := nodeSteps_eq_ok_iff.1 h
  rcases List.mem_append.1 hs with hs | hs
  · left
    obtain ⟨list, hl, hs⟩ := List.mem_flatten.1 hs
    obtain ⟨⟨combinator, value⟩, hb, hok⟩ := Results.exists_mem_of_mem_mapM hh hl
    obtain ⟨item, hi, hitem⟩ := Results.exists_mem_of_mem_mapM (combinatorSteps_eq_ok hok) hs
    obtain ⟨entries, conjuncts, rfl, hc, rfl⟩ := itemStep_eq_ok_iff.1 hitem
    exact ⟨combinator, entries, conjuncts, QueryNode.mem_items_iff.2 ⟨value, hb, hi⟩, hc, rfl⟩
  · right
    obtain ⟨constraint, hm, rfl⟩ := List.mem_map.1 hs
    exact ⟨constraints, constraint, hc, hm, rfl⟩

/-- Nodes push constraints on their own paths only. -/
theorem exists_node_of_push {nodes : List QueryNode} {lists : List (List Step)}
    (h : nodes.mapM nodeSteps = .ok lists) {path : String} {constraint : Constraint}
    (hs : .push path constraint ∈ lists.flatten) : ∃ node ∈ nodes, node.path = path := by
  obtain ⟨list, hl, hs⟩ := List.mem_flatten.1 hs
  obtain ⟨node, hn, hok⟩ := Results.exists_mem_of_mem_mapM h hl
  rcases mem_nodeSteps_cases hok hs with ⟨_, _, _, _, _, he⟩ | ⟨_, _, _, _, he⟩
  · cases he
  · cases he
    exact ⟨node, hn, rfl⟩

/-- In a query that compiles, every node's own entries and items compile. -/
theorem exists_compile_of_mem {types : TypeMap} {query : Json} {filter : Filter}
    (h : compile types query = .ok filter) {node : QueryNode}
    (hn : node ∈ terminalNodes types query) :
    node.Bound types ∧
      (∃ constraints,
        Constraint.compile node.path node.category node.ownEntries = .ok constraints) ∧
      ∀ item ∈ node.items, ∃ conjuncts,
        Constraint.compile node.path node.category item.2 = .ok conjuncts := by
  obtain ⟨found, lists, hf, hm, rfl⟩ := compile_eq_ok_iff.1 h
  rw [terminalNodes_eq hf] at hn
  obtain ⟨steps, -, hok⟩ := Results.exists_mem_of_mapM hm hn
  obtain ⟨-, constraints, -, hc, -⟩ := nodeSteps_eq_ok_iff.1 hok
  refine ⟨bound_of_nodes hf node hn, ⟨constraints, hc⟩, fun item hi => ?_⟩
  obtain ⟨conjuncts, hconj, -⟩ := exists_compile_item hok hi
  exact ⟨conjuncts, hconj⟩

/-! ## A single node -/

theorem compile_of_nodes_eq_singleton {types : TypeMap} {query : Json} {node : QueryNode}
    (h : nodes types query = .ok [node]) :
    compile types query = (nodeSteps node).map fun steps => (Assembly.empty.run steps).finish := by
  have hbound : node.Bound types := bound_of_nodes h node (List.mem_singleton_self _)
  rw [compile, h]
  change [node].foldlM addNode .empty >>= _ = _
  rw [List.foldlM_cons, addNode_eq hbound]
  cases nodeSteps node with
  | error error => rfl
  | ok steps => exact congrArg Except.ok (Assembler.finish_run steps)

/-- A body that is bound to a path of the type map is the only node. -/
theorem nodes_entry {types : TypeMap} {path : String} {category : Category}
    (hp : types.get? path = some category) (body : List (String × Json)) :
    nodes types (.entry path (.obj body)) = .ok [⟨path, category, body, false⟩] := by
  have ht : target types path = .field category := by rw [target, hp]
  change nodesOfEntries types none [(path, .obj body)] = _
  rw [nodesOfEntries_cons, nodesOfEntries]
  simp only [nodesOfEntry, joinPath, ht]
  rfl

/-- The steps of a node without combinators push its constraints. -/
theorem nodeSteps_of_plain {node : QueryNode} (h : node.boundCombinators = []) :
    nodeSteps node = (Constraint.compile node.path node.category node.ownEntries).map
      (·.map (Step.push node.path)) := by
  rw [nodeSteps, h, List.mapM_nil, pure_bind, Results.bind_pure_eq_map]
  rfl

/-- The steps of an operator object that is bound to a path push its constraints. -/
theorem nodeSteps_of_operators (path : String) (category : Category)
    {entries : List (String × Json)}
    (he : ∀ entry ∈ entries, Combinator.ofKey? entry.1 = none) :
    nodeSteps ⟨path, category, entries, false⟩ =
      (Constraint.compile path category entries).map (·.map (Step.push path)) := by
  let node : QueryNode := ⟨path, category, entries, false⟩
  have hcombinators : node.boundCombinators = [] :=
    List.filterMap_eq_nil_iff.2 fun entry hm => by simp [he entry hm]
  have hown : node.ownEntries = entries :=
    List.filter_eq_self.2 fun entry hm => by simp [he entry hm]
  rw [nodeSteps_of_plain hcombinators, hown]

/-- The steps of an element query that is bound to a path of its own push its envelopes. -/
theorem nodeSteps_of_onElement (path : String) {category element : Category}
    (he : category.element? = some element) (inner : List (String × Json)) :
    nodeSteps ⟨path, category, inner, true⟩ =
      (Constraint.compileElement path element inner).map (·.map (Step.push path)) := by
  let node : QueryNode := ⟨path, category, inner, true⟩
  have hown : node.ownEntries = [(Operator.oneFulfills, .obj inner)] := rfl
  have hbound : node.boundCombinators = [] := rfl
  rw [nodeSteps_of_plain hbound, hown, Constraint.compile_singleton,
    Constraint.fragmentsOf_oneFulfills he]

/-- The filter of a run that only pushes constraints on one path. -/
theorem finish_run_push (path : String) (constraints : List Constraint) :
    (Assembly.empty.run (constraints.map (Step.push path))).finish =
      ⟨(Constraint.foldAll [] constraints).map (Clause.mk path), []⟩ := by
  rw [Assembly.run_push, Assembly.finish, List.map_map]
  rfl

/-- An operator object that is bound to a path compiles to the clauses of its constraints. -/
theorem compile_entry {types : TypeMap} {path : String} {category : Category}
    (hp : types.get? path = some category) {entries : List (String × Json)}
    (he : ∀ entry ∈ entries, Combinator.ofKey? entry.1 = none) :
    compile types (.entry path (.obj entries)) =
      (Constraint.compile path category entries).map fun constraints =>
        ⟨constraints.map (Clause.mk path), []⟩ := by
  rw [compile_of_nodes_eq_singleton (nodes_entry hp entries),
    nodeSteps_of_operators path category he, Results.map_map]
  cases hc : Constraint.compile path category entries with
  | error error => rfl
  | ok constraints =>
    refine congrArg Except.ok ((finish_run_push path constraints).trans ?_)
    rw [Constraint.foldAll_eq_self (Constraint.clashing_compile hc)]

end Query

end SchemaQuery
