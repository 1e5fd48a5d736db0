import ShadingGraph.Proofs.Settlement

/-! # When nodes can be added and concretized

The definition of every node is registered with the types of its parameters, and a
connection that no longer fits is passed over. So whether a node can be concretized is a
matter of its selected variant alone, and whether all can be is a matter of that and of the
edges running in no cycle. Fields, pins and edges cause no error.
-/

namespace ShadingGraph

variable {registry : Registry}

theorem Registry.node_eq_error {key : Key} {error : RegistryError} :
    registry.node key = .error error ↔
      (∀ definition, registry.node key ≠ .ok definition) ∧ error = .unknownKey key := by
  unfold node
  cases Table.find? registry.nodes key <;> simp [eq_comm]

/-- The definition of the node is registered, without the selected variant. -/
def Node.LacksVariant (registry : Registry) (node : Node) : Prop :=
  ∃ definition, registry.node node.definitionKey = .ok definition ∧
    definition.variant? node.selectedVariant = none

theorem Node.Alike.lacksVariant {node other : Node} (alike : node.Alike registry other)
    (lacks : node.LacksVariant registry) : other.LacksVariant registry := by
  obtain ⟨definition, known, missing⟩ := lacks
  exact ⟨definition, alike.definitionKey ▸ known, alike.selectedVariant ▸ missing⟩

theorem concretize_eq_error {node : Node} {definition : Definition} {feeds : List Feed}
    (covered : registry.CoversTypes definition) {error : ConcretizationError} :
    concretize node definition feeds registry = .error error ↔
      definition.variant? node.selectedVariant = none ∧
        error = .unknownVariant node.name node.selectedVariant := by
  cases selected : definition.variant? node.selectedVariant with
  | none => simp [concretize, selected, eq_comm]
  | some variant =>
      obtain ⟨ports, concretized⟩ : ∃ ports, concretize node definition feeds registry = .ok ports :=
        concretize_isOk covered selected
      simp [concretized]

namespace Graph

variable {graph other next : Graph} {name : String}

/-- The error that keeps the node of a name from being concretized. -/
def Blocks (registry : Registry) (graph : Graph) (name : String) (error : GraphError) : Prop :=
  name ∉ graph.names ∧ error = .unknownNode name ∨
    ∃ node, graph.node? name = some node ∧ node.LacksVariant registry ∧
      error = .unknownVariant name node.selectedVariant

theorem Alike.blocks (alike : graph.Alike registry other) {error : GraphError}
    (blocks : graph.Blocks registry name error) : other.Blocks registry name error := by
  rcases blocks with ⟨absent, rfl⟩ | ⟨node, found, lacks, rfl⟩
  · exact Or.inl ⟨alike.mem_names.not.mp absent, rfl⟩
  · obtain ⟨node', found', same⟩ := (found ▸ alike.nodes name).exists_right
    exact Or.inr ⟨node', found', same.lacksVariant lacks, by rw [same.selectedVariant]⟩

theorem addNode_eq_error (valid : registry.Consistent) {key : Key} {error : GraphError} :
    graph.addNode key name registry = .error error ↔
      name ∈ graph.names ∧ error = .duplicateNodeName name ∨
        name ∉ graph.names ∧ (∀ definition, registry.node key ≠ .ok definition) ∧
          error = .registry (.unknownKey key) := by
  by_cases taken : name ∈ graph.names
  · obtain ⟨node, found⟩ := node?_isSome.mpr taken
    simp [addNode, found, taken, eq_comm]
  · have unused : graph.node? name = none := node?_eq_none.mpr taken
    cases known : registry.node key with
    | error cause =>
        obtain ⟨-, rfl⟩ := Registry.node_eq_error.mp known
        simp [addNode, unused, taken, known, eq_comm]
    | ok definition =>
        obtain ⟨ports, concretized⟩ : ∃ ports,
            concretize (.fresh name definition) definition [] registry = .ok ports :=
          concretize_fresh_isOk valid known name
        simp [addNode, unused, taken, known, concretized]

theorem exists_addNode_iff (valid : registry.Consistent) {key : Key} :
    (∃ next, graph.addNode key name registry = .ok next) ↔
      name ∉ graph.names ∧ ∃ definition, registry.node key = .ok definition := by
  simp only [addNode_eq_ok]
  constructor
  · rintro ⟨_, definition, ports, unused, known, -, -⟩
    exact ⟨unused, definition, known⟩
  · rintro ⟨unused, definition, known⟩
    obtain ⟨ports, concretized⟩ : ∃ ports,
        concretize (.fresh name definition) definition [] registry = .ok ports :=
      concretize_fresh_isOk valid known name
    exact ⟨_, definition, ports, unused, known, concretized, rfl⟩

theorem reconcretize_eq_error (valid : registry.Consistent) (consistent : graph.Consistent registry)
    {error : GraphError} :
    graph.reconcretize name registry = .error error ↔ graph.Blocks registry name error := by
  unfold Blocks
  cases found : graph.node? name with
  | none => simp [reconcretize, found, node?_eq_none.mp found, eq_comm]
  | some node =>
      have present : name ∈ graph.names := node?_isSome.mp ⟨node, found⟩
      obtain rfl : node.name = name := name_of_node? found
      obtain ⟨definition, known, -⟩ := consistent.conforms node (mem_of_node? found)
      have covered := valid.covered _ _ (Registry.node_eq_ok.mp known)
      simp only [present, not_true_eq_false, false_and, false_or, Option.some.injEq, exists_eq_left',
        Node.LacksVariant, known, Except.ok.injEq]
      cases selected : definition.variant? node.selectedVariant with
      | none =>
          have fails : concretize node definition (graph.feeds node.name) registry =
              .error (.unknownVariant node.name node.selectedVariant) :=
            (concretize_eq_error covered).mpr ⟨selected, rfl⟩
          simp [reconcretize, found, known, fails, GraphError.ofConcretization, eq_comm]
      | some variant =>
          obtain ⟨ports, succeeds⟩ : ∃ ports,
              concretize node definition (graph.feeds node.name) registry = .ok ports :=
            concretize_isOk covered selected
          simp [reconcretize, found, known, succeeds]

/-- A run stops at the first node that cannot be concretized. What it has done by then
changes nothing about that, since all graphs on its way are alike. -/
theorem reconcretizeEach_eq_error (valid : registry.Consistent)
    (consistent : graph.Consistent registry) {names : List String} {error : GraphError} :
    (reconcretizeEach registry graph names).2 = some error ↔
      ∃ before name after, names = before ++ name :: after ∧
        (∀ earlier ∈ before, graph.Concretizable registry earlier) ∧
        graph.Blocks registry name error := by
  induction names generalizing graph with
  | nil => simp [reconcretizeEach]
  | cons first rest ih =>
      cases done : graph.reconcretize first registry with
      | error cause =>
          have blocked := (reconcretize_eq_error valid consistent).mp done
          have stuck : ¬graph.Concretizable registry first := by
            rw [← exists_reconcretize_iff valid, done]
            simp
          simp only [reconcretizeEach, done, Option.some.injEq]
          constructor
          · rintro rfl
            exact ⟨[], first, rest, rfl, by simp, blocked⟩
          · rintro ⟨before, name, after, split, able, blocks⟩
            cases before with
            | nil =>
                cases split
                rw [← reconcretize_eq_error valid consistent, done] at blocks
                exact Except.error.inj blocks
            | cons other before =>
                cases split
                exact absurd (able first List.mem_cons_self) stuck
      | ok next =>
          have alike : graph.Alike registry next := .of_reconcretize done
          simp only [reconcretizeEach, done, ih (consistent.reconcretize done)]
          constructor
          · rintro ⟨before, name, after, rfl, able, blocks⟩
            have here : graph.Concretizable registry first :=
              (exists_reconcretize_iff valid).mp ⟨next, done⟩
            refine ⟨first :: before, name, after, rfl, ?_, alike.symm.blocks blocks⟩
            exact List.forall_mem_cons.mpr ⟨here, fun _ inside => alike.symm.concretizable (able _ inside)⟩
          · rintro ⟨before, name, after, split, able, blocks⟩
            cases before with
            | nil =>
                cases split
                rw [← reconcretize_eq_error valid consistent, done] at blocks
                cases blocks
            | cons other before =>
                cases split
                obtain ⟨-, able⟩ := List.forall_mem_cons.mp able
                exact ⟨before, name, after, rfl, fun _ inside => alike.concretizable (able _ inside),
                  alike.blocks blocks⟩

theorem reconcretizeAll_succeeds_iff (valid : registry.Consistent)
    (consistent : graph.Consistent registry) :
    (graph.reconcretizeAll registry).2 = none ↔
      (∀ name, ¬graph.OnCycle name) ∧ ∀ node ∈ graph.nodes, node.HasVariant registry := by
  have ordered : (∃ names, graph.order? = some names) ↔ ∀ name, ¬graph.OnCycle name := by
    rw [← Option.ne_none_iff_exists', ne_eq, order?_eq_none_iff_onCycle consistent.sourceExists,
      not_exists]
  have able : (∀ name ∈ graph.names, graph.Concretizable registry name) ↔
      ∀ node ∈ graph.nodes, node.HasVariant registry := by
    rw [names, List.forall_mem_map]
    refine forall₂_congr fun node inside => ?_
    simp only [Concretizable, node?_of_mem consistent.distinctNames inside, Option.some.injEq,
      exists_eq_left']
  rw [reconcretizeAll_eq_none_iff valid consistent.sourceExists, ordered, able]

theorem reconcretizeAll_eq_error (valid : registry.Consistent)
    (consistent : graph.Consistent registry) {error : GraphError} :
    (graph.reconcretizeAll registry).2 = some error ↔
      (∃ name, graph.OnCycle name) ∧ error = .cycle ∨
        ∃ before node after, graph.order? = some (before ++ node.name :: after) ∧
          node ∈ graph.nodes ∧ (∀ earlier ∈ before, graph.Concretizable registry earlier) ∧
          node.LacksVariant registry ∧
          error = .unknownVariant node.name node.selectedVariant := by
  rw [← order?_eq_none_iff_onCycle consistent.sourceExists]
  unfold reconcretizeAll
  cases order : graph.order? with
  | none => simp [eq_comm]
  | some names =>
      simp only [reconcretizeEach_eq_error valid consistent, reduceCtorEq, false_and, false_or,
        Option.some.injEq]
      constructor
      · rintro ⟨before, name, after, rfl, able, ⟨absent, -⟩ | ⟨node, found, lacks, rfl⟩⟩
        · have listed := mem_names_of_order? consistent.sourceExists order name (by simp)
          exact absurd listed absent
        · obtain rfl : node.name = name := name_of_node? found
          exact ⟨before, node, after, rfl, mem_of_node? found, able, lacks, rfl⟩
      · rintro ⟨before, node, after, rfl, inside, able, lacks, rfl⟩
        have found := node?_of_mem consistent.distinctNames inside
        exact ⟨before, node.name, after, rfl, able, Or.inr ⟨node, found, lacks, rfl⟩⟩

/-- When nodes can be added and concretized, and the only errors there are. -/
structure Predictable (registry : Registry) (graph : Graph) : Prop where
  /-- The definition of a node is always there. -/
  defined : ∀ node ∈ graph.nodes, ∃ definition, registry.node node.definitionKey = .ok definition
  adds : ∀ key name, (∃ next, graph.addNode key name registry = .ok next) ↔
    name ∉ graph.names ∧ ∃ definition, registry.node key = .ok definition
  addErrors : ∀ key name error, graph.addNode key name registry = .error error ↔
    name ∈ graph.names ∧ error = .duplicateNodeName name ∨
      name ∉ graph.names ∧ (∀ definition, registry.node key ≠ .ok definition) ∧
        error = .registry (.unknownKey key)
  concretizes : ∀ name, (∃ next, graph.reconcretize name registry = .ok next) ↔
    ∃ node, graph.node? name = some node ∧ node.HasVariant registry
  concretizeErrors : ∀ name error,
    graph.reconcretize name registry = .error error ↔ graph.Blocks registry name error
  concretizesAll : (graph.reconcretizeAll registry).2 = none ↔
    (∀ name, ¬graph.OnCycle name) ∧ ∀ node ∈ graph.nodes, node.HasVariant registry
  /-- The first node in dependency order whose variant does not exist is the one reported. -/
  allErrors : ∀ error, (graph.reconcretizeAll registry).2 = some error ↔
    (∃ name, graph.OnCycle name) ∧ error = .cycle ∨
      ∃ before node after, graph.order? = some (before ++ node.name :: after) ∧
        node ∈ graph.nodes ∧ (∀ earlier ∈ before, graph.Concretizable registry earlier) ∧
        node.LacksVariant registry ∧ error = .unknownVariant node.name node.selectedVariant

/-- Adding and concretizing nodes is predictable in every graph made by edits. -/
theorem predictable_ofHistory (history : List Registration) (name : String) (edits : List Edit) :
    (ofHistory (.ofHistory history) name edits).Predictable (.ofHistory history) := by
  have valid := Registry.consistent_ofHistory history
  have consistent := consistent_ofHistory valid name edits
  constructor
  · intro node inside
    obtain ⟨definition, known, -⟩ := consistent.conforms node inside
    exact ⟨definition, known⟩
  · exact fun _ _ => exists_addNode_iff valid
  · exact fun _ _ _ => addNode_eq_error valid
  · exact fun _ => exists_reconcretize_iff valid
  · exact fun _ _ => reconcretize_eq_error valid consistent
  · exact reconcretizeAll_succeeds_iff valid consistent
  · exact fun _ => reconcretizeAll_eq_error valid consistent

-- An edge whose source is gone keeps nothing from being concretized.
example : (settle strandedEdits).2 = none := by decide +kernel

end Graph

end ShadingGraph
