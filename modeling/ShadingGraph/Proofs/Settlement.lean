import ShadingGraph.Proofs.DependencyOrder
import ShadingGraph.Proofs.Store

/-! # Settled graphs

A graph is settled when each node has the ports that concretization gives it.
Concretizing all nodes in dependency order settles a graph. Graphs are alike when
concretization cannot tell their nodes apart and their edges are the same in any order;
concretizing a node leads to an alike graph, and alike settled graphs have equal nodes.
So all ways to settle a graph end in the same one.
-/

namespace ShadingGraph

variable {registry : Registry}

/-- Ports that agree in all that concretization reads: signature and pin. -/
structure Port.SamePin (port other : Port) : Prop where
  signature : port.signature = other.signature
  pin : port.pin? = other.pin?

namespace Node

variable {node other : Node}

/-- Nodes that differ in fields without a pin only. -/
structure SamePins (node other : Node) : Prop where
  name : node.name = other.name
  definitionKey : node.definitionKey = other.definitionKey
  selectedVariant : node.selectedVariant = other.selectedVariant
  ports : List.Forall₂ Port.SamePin node.ports other.ports

theorem SamePins.pin? (same : node.SamePins other) (parameter : Parameter) :
    parameter.pin? node.ports = parameter.pin? other.ports := by
  unfold Parameter.pin?
  refine same.ports.bind_find?_eq (fun port partner agree => ?_) fun _ _ agree => agree.pin
  rw [Bool.eq_iff_iff, Port.hasSignature_eq_true, Port.hasSignature_eq_true, agree.signature]

theorem SamePins.refl (node : Node) : node.SamePins node :=
  ⟨rfl, rfl, rfl, List.forall₂_same.mpr fun _ _ => ⟨rfl, rfl⟩⟩

theorem SamePins.shape (same : node.SamePins other) : node.SameShape other :=
  ⟨same.name.symm, same.definitionKey.symm,
    (same.ports.map_eq_map fun _ _ agree => agree.signature).symm⟩

theorem SamePins.concretize (same : node.SamePins other) (definition : Definition)
    (feeds : List Feed) :
    concretize node definition feeds registry = concretize other definition feeds registry :=
  concretize_congr same.name same.selectedVariant fun _ _ parameter _ _ _ => by
    rw [same.pin? parameter]

/-- Nodes that concretization cannot tell apart, whatever feeds them. -/
structure Alike (registry : Registry) (node other : Node) : Prop where
  name : node.name = other.name
  definitionKey : node.definitionKey = other.definitionKey
  selectedVariant : node.selectedVariant = other.selectedVariant
  ports : ∀ definition, registry.node node.definitionKey = .ok definition → ∀ feeds,
    ShadingGraph.concretize node definition feeds registry =
      ShadingGraph.concretize other definition feeds registry

theorem Alike.refl (node : Node) : node.Alike registry node :=
  ⟨rfl, rfl, rfl, fun _ _ _ => rfl⟩

theorem Alike.symm (alike : node.Alike registry other) : other.Alike registry node :=
  ⟨alike.name.symm, alike.definitionKey.symm, alike.selectedVariant.symm,
    fun definition known feeds => (alike.ports definition (alike.definitionKey ▸ known) feeds).symm⟩

theorem Alike.trans {third : Node} (first : node.Alike registry other)
    (second : other.Alike registry third) : node.Alike registry third :=
  ⟨first.name.trans second.name, first.definitionKey.trans second.definitionKey,
    first.selectedVariant.trans second.selectedVariant, fun definition known feeds =>
      (first.ports definition known feeds).trans
        (second.ports definition (first.definitionKey ▸ known) feeds)⟩

theorem SamePins.alike (same : node.SamePins other) : node.Alike registry other :=
  ⟨same.name, same.definitionKey, same.selectedVariant,
    fun definition _ feeds => same.concretize definition feeds⟩

theorem alike_of_concretize {definition : Definition} {feeds : List Feed} {ports : List Port}
    (known : registry.node node.definitionKey = .ok definition)
    (concretized : ShadingGraph.concretize node definition feeds registry = .ok ports) :
    node.Alike registry { node with ports } := by
  refine ⟨rfl, rfl, rfl, fun other known' others => ?_⟩
  cases known.symm.trans known'
  exact (concretize_concretize concretized others).symm

/-- The definition of the node is registered and has the selected variant. -/
def HasVariant (registry : Registry) (node : Node) : Prop :=
  ∃ definition variant, registry.node node.definitionKey = .ok definition ∧
    definition.variant? node.selectedVariant = some variant

theorem Alike.hasVariant (alike : node.Alike registry other) (has : node.HasVariant registry) :
    other.HasVariant registry := by
  obtain ⟨definition, variant, known, selected⟩ := has
  exact ⟨definition, variant, alike.definitionKey ▸ known, alike.selectedVariant ▸ selected⟩

end Node

namespace Graph

variable {graph target next : Graph}

/-- The node has the ports that concretization gives it. -/
def SettledAt (registry : Registry) (graph : Graph) (node : Node) : Prop :=
  ∃ definition, registry.node node.definitionKey = .ok definition ∧
    concretize node definition (graph.feeds node.name) registry = .ok node.ports

/-- Each node has the ports that concretization gives it, and the nodes have a
dependency order. -/
structure Settled (registry : Registry) (graph : Graph) : Prop where
  nodes : ∀ node ∈ graph.nodes, graph.SettledAt registry node
  ordered : ∃ names, graph.order? = some names ∧ ∀ name ∈ names, name ∈ graph.names

theorem feeds_congr {name : String} (edges : graph.edges = target.edges)
    (sources : ∀ source ∈ graph.sources name, graph.node? source = target.node? source) :
    graph.feeds name = target.feeds name := by
  unfold feeds
  rw [← edges]
  refine List.filterMap_congr fun edge inside => ?_
  obtain ⟨member, ends⟩ := List.mem_filter.mp inside
  have source := sources edge.fromNode (mem_sources.mpr ⟨edge, member, by simpa using ends, rfl⟩)
  simp only [port?, Edge.source, source]

theorem mem_feeds {name : String} {feed : Feed} :
    feed ∈ graph.feeds name ↔ ∃ edge ∈ graph.edges, edge.toNode = name ∧
      ∃ source, graph.port? edge.source = some source ∧ feed = ⟨edge.toPort, source⟩ := by
  simp only [feeds, List.mem_filterMap, List.mem_filter, decide_eq_true_eq, Option.map_eq_some_iff,
    and_assoc]
  simp only [eq_comm (b := feed)]

theorem find?_feeds (distinct : (graph.edges.map Edge.target).Nodup) (name port : String) :
    (graph.feeds name).find? (·.toPort = port) =
      (graph.incoming? name port).bind fun edge => (graph.port? edge.source).map (Feed.mk port) := by
  have reached : ∀ feed ∈ graph.feeds name, feed.toPort = port →
      ((graph.incoming? name port).bind fun edge => (graph.port? edge.source).map (Feed.mk port)) =
        some feed := by
    intro feed inside toPort
    obtain ⟨edge, member, toNode, source, found, rfl⟩ := mem_feeds.mp inside
    obtain rfl : edge.toPort = port := toPort
    have incoming : graph.incoming? name edge.toPort = some edge :=
      (incoming?_eq_some distinct).mpr ⟨member, by rw [Edge.target, toNode]⟩
    rw [incoming, Option.bind_some, found, Option.map_some]
  cases first : (graph.feeds name).find? (·.toPort = port) with
  | some feed =>
      exact (reached feed (List.mem_of_find?_eq_some first) (by simpa using List.find?_some first)).symm
  | none =>
      symm
      rw [Option.eq_none_iff_forall_not_mem]
      intro feed fed
      obtain ⟨edge, incoming, fed⟩ := Option.bind_eq_some_iff.mp fed
      obtain ⟨source, found, rfl⟩ := Option.map_eq_some_iff.mp fed
      obtain ⟨member, target⟩ := (incoming?_eq_some distinct).mp incoming
      have inside : ⟨edge.toPort, source⟩ ∈ graph.feeds name :=
        mem_feeds.mpr ⟨edge, member, congrArg PortRef.node target, source, found, rfl⟩
      exact List.find?_eq_none.mp first _ inside (decide_eq_true (congrArg PortRef.port target))

theorem node?_replaceNode_of_ne (graph : Graph) {node : Node} {name : String}
    (different : name ≠ node.name) : (graph.replaceNode node).node? name = graph.node? name := by
  rw [node?_replaceNode]
  cases found : graph.node? name with
  | none => rfl
  | some other => rw [Option.map_some, if_neg (name_of_node? found ▸ different)]

theorem names_reconcretize {name : String} (done : graph.reconcretize name registry = .ok next) :
    next.name = graph.name ∧ next.names = graph.names ∧ next.edges = graph.edges := by
  obtain ⟨node, definition, ports, -, -, -, rfl⟩ := reconcretize_eq_ok.mp done
  exact ⟨rfl, names_replaceNode graph _, rfl⟩

theorem node?_reconcretize_of_ne {name other : String} (different : other ≠ name)
    (done : graph.reconcretize name registry = .ok next) : next.node? other = graph.node? other := by
  obtain ⟨node, definition, ports, found, -, -, rfl⟩ := reconcretize_eq_ok.mp done
  have named : node.name = name := name_of_node? found
  exact node?_replaceNode_of_ne graph fun same => different (same.trans named)

theorem mem_nodes_of_reconcretize {name : String} {node : Node}
    (done : graph.reconcretize name registry = .ok next) (inside : node ∈ next.nodes)
    (different : node.name ≠ name) : node ∈ graph.nodes := by
  obtain ⟨replaced, definition, ports, found, -, -, rfl⟩ := reconcretize_eq_ok.mp done
  obtain ⟨former, member, rfl⟩ := List.mem_map.mp inside
  by_cases same : former.name = replaced.name
  · rw [if_pos same] at different
    exact absurd (name_of_node? found) different
  · rwa [if_neg same]

theorem feeds_reconcretize {name other : String} (unfed : name ∉ graph.sources other)
    (done : graph.reconcretize name registry = .ok next) : next.feeds other = graph.feeds other := by
  refine (feeds_congr (names_reconcretize done).2.2.symm fun source feeding => ?_).symm
  have different : source ≠ name := fun same => unfed (same ▸ feeding)
  exact (node?_reconcretize_of_ne different done).symm

theorem settledAt_of_reconcretize {name : String} (unfed : name ∉ graph.sources name)
    (done : graph.reconcretize name registry = .ok next) :
    ∀ node ∈ next.nodes, node.name = name → next.SettledAt registry node := by
  have feeds := feeds_reconcretize unfed done
  obtain ⟨node, definition, ports, found, known, concretized, rfl⟩ := reconcretize_eq_ok.mp done
  obtain rfl : node.name = name := name_of_node? found
  intro other inside named
  obtain ⟨former, -, rfl⟩ := List.mem_map.mp inside
  by_cases same : former.name = node.name
  · rw [if_pos same]
    refine ⟨definition, known, ?_⟩
    rw [feeds]
    exact (concretize_concretize concretized _).trans concretized
  · rw [if_neg same] at named
    exact absurd named same

/-- Concretizing the next node of an ordered list settles it and leaves those before
it settled, for none of them is fed by it. -/
theorem settledAt_reconcretize {before after : List String} {name : String}
    (ordered : graph.Ordered (before ++ name :: after))
    (settled : ∀ node ∈ graph.nodes, node.name ∈ before → graph.SettledAt registry node)
    (done : graph.reconcretize name registry = .ok next) :
    ∀ node ∈ next.nodes, node.name ∈ before ++ [name] → next.SettledAt registry node := by
  have fresh : name ∉ before := ordered.not_mem_before rfl
  intro other inside listed
  rcases List.mem_append.mp listed with earlier | last
  · have different : other.name ≠ name := fun same => fresh (same ▸ earlier)
    have unfed : name ∉ graph.sources other.name := fun feeding => fresh (ordered.source_mem earlier feeding)
    obtain ⟨definition, known, concretized⟩ :=
      settled other (mem_nodes_of_reconcretize done inside different) earlier
    exact ⟨definition, known, feeds_reconcretize unfed done ▸ concretized⟩
  · have unfed : name ∉ graph.sources name := fun feeding =>
      fresh (ordered.sourcesFirst before name after rfl name feeding)
    exact settledAt_of_reconcretize unfed done other inside (List.mem_singleton.mp last)

/-- The induction runs along the list; the names before it are settled. -/
theorem settledAt_reconcretizeEach {before after : List String}
    (ordered : graph.Ordered (before ++ after))
    (settled : ∀ node ∈ graph.nodes, node.name ∈ before → graph.SettledAt registry node)
    (run : reconcretizeEach registry graph after = (next, none)) :
    (next.name = graph.name ∧ next.names = graph.names ∧ next.edges = graph.edges) ∧
      ∀ node ∈ next.nodes, node.name ∈ before ++ after → next.SettledAt registry node := by
  induction after generalizing graph before with
  | nil =>
      cases run
      exact ⟨⟨rfl, rfl, rfl⟩, by simpa using settled⟩
  | cons name rest ih =>
      simp only [reconcretizeEach] at run
      cases done : graph.reconcretize name registry with
      | error error => simp [done] at run
      | ok middle =>
          rw [done] at run
          obtain ⟨name_eq, names_eq, edges_eq⟩ := names_reconcretize done
          have ordered' : middle.Ordered ((before ++ [name]) ++ rest) := by
            simpa using ordered.congr edges_eq.symm
          obtain ⟨⟨name_eq', names_eq', edges_eq'⟩, all⟩ :=
            ih ordered' (settledAt_reconcretize ordered settled done) run
          exact ⟨⟨name_eq'.trans name_eq, names_eq'.trans names_eq, edges_eq'.trans edges_eq⟩,
            by simpa using all⟩

theorem mem_names_of_reconcretizeEach {names : List String}
    (run : reconcretizeEach registry graph names = (next, none)) :
    ∀ name ∈ names, name ∈ graph.names := by
  induction names generalizing graph with
  | nil => simp
  | cons name rest ih =>
      simp only [reconcretizeEach] at run
      cases done : graph.reconcretize name registry with
      | error error => simp [done] at run
      | ok middle =>
          rw [done] at run
          obtain ⟨node, -, -, found, -⟩ := reconcretize_eq_ok.mp done
          rw [List.forall_mem_cons, ← (names_reconcretize done).2.1]
          exact ⟨(names_reconcretize done).2.1 ▸ node?_isSome.mp ⟨node, found⟩, ih run⟩

theorem settledAt_of_run {names : List String} (ordered : graph.Ordered names)
    (all : ∀ name ∈ graph.names, name ∈ names)
    (run : reconcretizeEach registry graph names = (next, none)) :
    (next.name = graph.name ∧ next.names = graph.names ∧ next.edges = graph.edges) ∧
      ∀ node ∈ next.nodes, next.SettledAt registry node := by
  obtain ⟨kept, settled⟩ :=
    settledAt_reconcretizeEach (show graph.Ordered ([] ++ names) from ordered) (by simp) run
  refine ⟨kept, fun node inside => settled node inside (all _ ?_)⟩
  rw [← kept.2.1]
  exact List.mem_map_of_mem inside

theorem settled_of_reconcretizeAll (run : graph.reconcretizeAll registry = (next, none)) :
    next.Settled registry ∧ next.name = graph.name ∧ next.names = graph.names ∧
      next.edges = graph.edges := by
  unfold reconcretizeAll at run
  cases order : graph.order? with
  | none => simp [order] at run
  | some names =>
      rw [order] at run
      obtain ⟨ordered, all⟩ := order?_sound order
      obtain ⟨⟨name_eq, names_eq, edges_eq⟩, settled⟩ := settledAt_of_run ordered all run
      refine ⟨⟨settled, names, ?_, ?_⟩, name_eq, names_eq, edges_eq⟩
      · exact (order?_congr names_eq edges_eq).trans order
      · exact names_eq ▸ mem_names_of_reconcretizeEach run

/-! ## Alike settled graphs have equal nodes -/

/-- Graphs of alike nodes and of the same edges, both in any order. -/
structure Alike (registry : Registry) (graph other : Graph) : Prop where
  nodes : ∀ name, Option.Rel (Node.Alike registry) (graph.node? name) (other.node? name)
  edges : graph.edges.Perm other.edges

namespace Alike

variable {other third : Graph}

theorem refl (graph : Graph) : graph.Alike registry graph :=
  ⟨fun _ => .refl Node.Alike.refl _, .refl _⟩

theorem symm (alike : graph.Alike registry other) : other.Alike registry graph :=
  ⟨fun name => (alike.nodes name).flip.imp fun _ _ => Node.Alike.symm, alike.edges.symm⟩

theorem trans (first : graph.Alike registry other) (second : other.Alike registry third) :
    graph.Alike registry third :=
  ⟨fun name => (first.nodes name).trans (second.nodes name) fun _ _ _ => Node.Alike.trans,
    first.edges.trans second.edges⟩

theorem mem_names (alike : graph.Alike registry other) {name : String} :
    name ∈ graph.names ↔ name ∈ other.names := by
  simp only [← node?_isSome, ← Option.isSome_iff_exists, (alike.nodes name).isSome_eq]

theorem mem_sources (alike : graph.Alike registry other) {name source : String} :
    source ∈ graph.sources name ↔ source ∈ other.sources name := by
  simp only [Graph.mem_sources, alike.edges.mem_iff]

theorem of_reconcretize {name : String} (done : graph.reconcretize name registry = .ok next) :
    graph.Alike registry next := by
  obtain ⟨node, definition, ports, found, known, concretized, rfl⟩ := reconcretize_eq_ok.mp done
  refine ⟨fun name' => ?_, .refl _⟩
  rw [node?_replaceNode]
  cases found' : graph.node? name' with
  | none => exact .none
  | some other =>
      rw [Option.map_some]
      split
      · rename_i replaced
        have named : node.name = name := name_of_node? found
        have same : name' = name := (name_of_node? found').symm.trans (replaced.trans named)
        rw [same, found] at found'
        cases found'
        exact .some (Node.alike_of_concretize known concretized)
      · exact .some (.refl other)

theorem of_reconcretizeEach (graph : Graph) (names : List String) :
    graph.Alike registry (reconcretizeEach registry graph names).1 :=
  reconcretizeEach_invariant (fun _ _ _ alike done => alike.trans (of_reconcretize done))
    (refl graph) names

theorem of_reconcretizeAll (graph : Graph) :
    graph.Alike registry (graph.reconcretizeAll registry).1 := by
  unfold reconcretizeAll
  split
  · exact .refl graph
  · exact .of_reconcretizeEach graph _

theorem incoming? (alike : graph.Alike registry other)
    (distinct : (graph.edges.map Edge.target).Nodup) (node port : String) :
    graph.incoming? node port = other.incoming? node port := by
  simp only [Graph.incoming?, Edge.targets_eq]
  exact Table.find?_key_perm distinct alike.edges _

/-- Alike graphs have equal nodes of a name if both are settled and those at its sources are equal. -/
theorem node?_eq_of_sources (alike : graph.Alike registry other)
    (distinct : (graph.edges.map Edge.target).Nodup) {name : String}
    (settled : ∀ node, graph.node? name = some node → graph.SettledAt registry node)
    (settled' : ∀ node, other.node? name = some node → other.SettledAt registry node)
    (sources : ∀ source ∈ graph.sources name, graph.node? source = other.node? source) :
    graph.node? name = other.node? name := by
  have related := alike.nodes name
  cases found : graph.node? name with
  | none =>
      rw [found] at related
      generalize other.node? name = absent at related ⊢
      cases related
      rfl
  | some node =>
      rw [found] at related
      obtain ⟨node', found', same⟩ := related.exists_right
      obtain ⟨definition, known, concretized⟩ := settled node found
      obtain ⟨_, known', concretized'⟩ := settled' node' found'
      cases known'.symm.trans (same.definitionKey ▸ known)
      have feeds : ∀ port, (graph.feeds node.name).find? (·.toPort = port) =
          (other.feeds node'.name).find? (·.toPort = port) := by
        intro port
        have distinct' := (alike.edges.map _).nodup_iff.mp distinct
        rw [name_of_node? found, name_of_node? found', find?_feeds distinct, find?_feeds distinct',
          ← alike.incoming? distinct]
        cases incoming : graph.incoming? name port with
        | none => rfl
        | some edge =>
            obtain ⟨member, target⟩ := (incoming?_eq_some distinct).mp incoming
            have feeding : edge.fromNode ∈ graph.sources name :=
              Graph.mem_sources.mpr ⟨edge, member, congrArg PortRef.node target, rfl⟩
            simp only [Option.bind_some, port?, Edge.source, sources _ feeding]
      have ports : node.ports = node'.ports := by
        rw [same.ports definition known, concretize_congr_feeds feeds, concretized'] at concretized
        exact (Except.ok.inj concretized).symm
      rw [found']
      cases node
      cases node'
      simp only [Option.some.injEq, Node.mk.injEq]
      exact ⟨same.name, same.definitionKey, same.selectedVariant, ports⟩

/-- Alike graphs have equal nodes of all listed names in a set that contains the sources of its
names, if the nodes of the set are settled in both. The induction runs along the dependency order:
the nodes before the next one are equal, and its sources are among them. -/
theorem node?_eq_of_closed (alike : graph.Alike registry other)
    (distinct : (graph.edges.map Edge.target).Nodup) {names : List String}
    (ordered : graph.Ordered names) {inside : String → Prop}
    (closed : ∀ name, inside name → ∀ source ∈ graph.sources name, inside source)
    (settled : ∀ name, inside name → ∀ node, graph.node? name = some node → graph.SettledAt registry node)
    (settled' : ∀ name, inside name → ∀ node, other.node? name = some node → other.SettledAt registry node) :
    ∀ name ∈ names, inside name → graph.node? name = other.node? name := by
  have upTo : ∀ after before, names = before ++ after →
      (∀ name ∈ before, inside name → graph.node? name = other.node? name) →
        ∀ name ∈ names, inside name → graph.node? name = other.node? name := by
    intro after
    induction after with
    | nil =>
        intro before split done
        rw [split, List.append_nil]
        exact done
    | cons name rest ih =>
        intro before split done
        have equal : inside name → graph.node? name = other.node? name := fun member =>
          alike.node?_eq_of_sources distinct (settled name member) (settled' name member)
            fun source feeds =>
              done source (ordered.sourcesFirst before name rest split source feeds)
                (closed name member source feeds)
        refine ih (before ++ [name]) (by simpa using split) ?_
        exact List.forall_mem_append.mpr ⟨done, List.forall_mem_singleton.mpr equal⟩
  exact upTo names [] rfl (by simp)

theorem node?_eq (alike : graph.Alike registry other)
    (distinct : (graph.edges.map Edge.target).Nodup)
    (settled : ∀ node ∈ graph.nodes, graph.SettledAt registry node)
    (settled' : ∀ node ∈ other.nodes, other.SettledAt registry node) {names : List String}
    (ordered : graph.Ordered names) (all : ∀ name ∈ graph.names, name ∈ names) (name : String) :
    graph.node? name = other.node? name := by
  by_cases listed : name ∈ names
  · exact alike.node?_eq_of_closed distinct ordered (fun _ _ _ _ => trivial)
      (fun _ _ node found => settled node (mem_of_node? found))
      (fun _ _ node found => settled' node (mem_of_node? found)) name listed trivial
  · have absent : name ∉ graph.names := fun inside => listed (all name inside)
    rw [node?_eq_none.mpr absent, node?_eq_none.mpr (alike.mem_names.not.mp absent)]

end Alike

theorem nodes_eq_filterMap (distinct : graph.names.Nodup) :
    graph.nodes = graph.names.filterMap graph.node? := by
  rw [names, List.filterMap_map]
  have found : ∀ node ∈ graph.nodes, (graph.node? ∘ Node.name) node = some node :=
    fun _ inside => node?_of_mem distinct inside
  rw [List.filterMap_congr found, List.filterMap_some]

theorem eq_of_node? {other : Graph} (distinct : graph.names.Nodup) (name : graph.name = other.name)
    (names : graph.names = other.names) (edges : graph.edges = other.edges)
    (same : ∀ name, graph.node? name = other.node? name) : graph = other := by
  have nodes : graph.nodes = other.nodes := by
    rw [nodes_eq_filterMap distinct, nodes_eq_filterMap (names ▸ distinct), names, funext same]
  cases graph
  cases other
  simp only [Graph.mk.injEq]
  exact ⟨name, nodes, edges⟩

/-! ## When concretization succeeds -/

/-- The name has a node whose selected variant exists. -/
def Concretizable (registry : Registry) (graph : Graph) (name : String) : Prop :=
  ∃ node, graph.node? name = some node ∧ node.HasVariant registry

theorem Alike.concretizable {other : Graph} (alike : graph.Alike registry other) {name : String}
    (able : graph.Concretizable registry name) : other.Concretizable registry name := by
  obtain ⟨node, found, has⟩ := able
  obtain ⟨node', found', same⟩ := (found ▸ alike.nodes name).exists_right
  exact ⟨node', found', same.hasVariant has⟩

theorem exists_reconcretize_iff (valid : registry.Consistent) {name : String} :
    (∃ next, graph.reconcretize name registry = .ok next) ↔ graph.Concretizable registry name := by
  constructor
  · rintro ⟨next, done⟩
    obtain ⟨node, definition, ports, found, known, concretized, -⟩ := reconcretize_eq_ok.mp done
    obtain ⟨variant, selected, -⟩ := realizes_of_concretize concretized
    exact ⟨node, found, definition, variant, known, selected⟩
  · rintro ⟨node, found, definition, variant, known, selected⟩
    obtain ⟨ports, concretized⟩ : ∃ ports,
        concretize node definition (graph.feeds name) registry = .ok ports :=
      concretize_isOk (valid.covered _ _ (Registry.node_eq_ok.mp known)) selected
    exact ⟨_, reconcretize_eq_ok.mpr ⟨node, definition, ports, found, known, concretized, rfl⟩⟩

/-- Whether a run succeeds does not depend on what the fields hold. -/
theorem reconcretizeEach_eq_none_iff (valid : registry.Consistent) {names : List String} :
    (reconcretizeEach registry graph names).2 = none ↔
      ∀ name ∈ names, graph.Concretizable registry name := by
  induction names generalizing graph with
  | nil => simp [reconcretizeEach]
  | cons name rest ih =>
      rw [List.forall_mem_cons, ← exists_reconcretize_iff valid, reconcretizeEach]
      cases done : graph.reconcretize name registry with
      | error error => simp
      | ok next =>
          have alike : graph.Alike registry next := .of_reconcretize done
          simp only [ih, Except.ok.injEq, exists_eq', true_and]
          exact forall₂_congr fun _ _ => ⟨alike.symm.concretizable, alike.concretizable⟩

theorem reconcretizeAll_eq_none_iff (valid : registry.Consistent)
    (sourceExists : ∀ edge ∈ graph.edges, edge.fromNode ∈ graph.names) :
    (graph.reconcretizeAll registry).2 = none ↔
      (∃ names, graph.order? = some names) ∧ ∀ name ∈ graph.names, graph.Concretizable registry name := by
  unfold reconcretizeAll
  cases found : graph.order? with
  | none => simp
  | some names =>
      have listed : ∀ name, name ∈ names ↔ name ∈ graph.names := fun name =>
        ⟨mem_names_of_order? sourceExists found name, (order?_sound found).2 name⟩
      simp only [reconcretizeEach_eq_none_iff valid, listed, Option.some.injEq, exists_eq', true_and]

theorem signature_port?_of_sameShape (nodes : List.Forall₂ Node.SameShape graph.nodes target.nodes)
    (ref : PortRef) :
    (graph.port? ref).map Port.signature = (target.port? ref).map Port.signature := by
  unfold port? node?
  rw [Option.map_bind, Option.map_bind]
  exact nodes.bind_find?_eq (fun _ _ same => by rw [same.name]) fun _ _ same =>
    same.signature_port? ref.port

/-- Concretizing everything from the pins and edges of a settled graph ends in that graph. -/
theorem reconcretizeAll_of_samePins (valid : registry.Consistent)
    (consistent : target.Consistent registry) (settled : target.Settled registry)
    (name : graph.name = target.name) (edges : graph.edges = target.edges)
    (nodes : List.Forall₂ Node.SamePins graph.nodes target.nodes) :
    graph.reconcretizeAll registry = (target, none) := by
  have names : graph.names = target.names := nodes.map_eq_map fun _ _ same => same.name
  have alike : graph.Alike registry target := by
    refine ⟨fun other => ?_, edges ▸ .refl _⟩
    have paired : Option.Rel Node.SamePins (graph.node? other) (target.node? other) :=
      nodes.find? fun _ _ same => by rw [same.name]
    exact paired.imp fun _ _ same => same.alike
  obtain ⟨order, found, -⟩ := settled.ordered
  have found' : graph.order? = some order := (order?_congr names edges).trans found
  have able : ∀ name ∈ graph.names, graph.Concretizable registry name := by
    intro name inside
    obtain ⟨final, present⟩ := node?_isSome.mpr (names ▸ inside)
    obtain ⟨definition, known, concretized⟩ := settled.nodes final (mem_of_node? present)
    obtain ⟨variant, selected, -⟩ := realizes_of_concretize concretized
    exact alike.symm.concretizable ⟨final, present, definition, variant, known, selected⟩
  have succeeded : (graph.reconcretizeAll registry).2 = none :=
    (reconcretizeAll_eq_none_iff valid (names ▸ edges ▸ consistent.sourceExists)).mpr
      ⟨⟨order, found'⟩, able⟩
  let next := (graph.reconcretizeAll registry).1
  have run : graph.reconcretizeAll registry = (next, none) := Prod.ext rfl succeeded
  obtain ⟨settled', name', names', edges'⟩ := settled_of_reconcretizeAll run
  obtain ⟨ordered, all⟩ := order?_sound found
  have same : ∀ name, target.node? name = next.node? name :=
    (alike.symm.trans (.of_reconcretizeAll graph)).node?_eq consistent.distinctTargets settled.nodes
      settled'.nodes ordered all
  have equal : target = next := eq_of_node? consistent.distinctNames (name'.trans name).symm
    (names'.trans names).symm (edges'.trans edges).symm same
  rw [run, equal]

theorem reconcretizeAll_of_settled (valid : registry.Consistent)
    (consistent : graph.Consistent registry) (settled : graph.Settled registry) :
    graph.reconcretizeAll registry = (graph, none) :=
  reconcretizeAll_of_samePins valid consistent settled rfl rfl
    (List.forall₂_same.mpr fun node _ => Node.SamePins.refl node)

/-- What editing reaches is consistent, and settled once everything is concretized. -/
theorem settled_ofHistory {history : List Registration} {name : String} {edits : List Edit}
    (done : (ofHistory (.ofHistory history) name edits).reconcretizeAll (.ofHistory history) =
      (graph, none)) :
    graph.Consistent (.ofHistory history) ∧ graph.Settled (.ofHistory history) := by
  have valid := Registry.consistent_ofHistory history
  have consistent := (consistent_ofHistory valid name edits).reconcretizeAll
  rw [done] at consistent
  exact ⟨consistent, (settled_of_reconcretizeAll done).1⟩

/-! ## Short histories over the standard registry -/

def standardHistory : List Registration := [.builtinTypes, .standardNodes]

/-- What edits come to when everything is concretized in the end. -/
def settle (edits : List Edit) : Graph × Option GraphError :=
  (ofHistory (.ofHistory standardHistory) "Edited" edits).reconcretizeAll (.ofHistory standardHistory)

theorem settle_eq {edits : List Edit} (succeeded : (settle edits).2 = none) :
    settle edits = ((settle edits).1, none) :=
  Prod.ext rfl succeeded

/-- A chain of three nodes with a pin beside it. Every edge joins two ports. -/
def chainEdits : List Edit :=
  [ .addNode ⟨"ImposterUV", 1⟩ "imposter", .addNode ⟨"Add", 1⟩ "sum",
    .addNode ⟨"Multiply", 1⟩ "scaled", .selectVariant "imposter" "OneFrame", .reconcretize "imposter",
    .connect ⟨"imposter", "Grid", "sum", "A"⟩, .setPortField "sum" "B" "Length" (.tag "Two"),
    .connect ⟨"sum", "Out", "scaled", "A"⟩ ]

/-- A connection whose source port is lost to the selection of another variant. -/
def strandedEdits : List Edit :=
  [ .addNode ⟨"ImposterUV", 1⟩ "imposter", .addNode ⟨"Add", 1⟩ "sum",
    .connect ⟨"imposter", "UV1", "sum", "A"⟩, .selectVariant "imposter" "OneFrame" ]

/-- A pinned input that is connected all the same. -/
def overriddenEdits : List Edit :=
  [ .addNode ⟨"Add", 1⟩ "sum", .addNode ⟨"Add", 1⟩ "total",
    .setPortField "total" "A" "Length" (.tag "Two"), .connect ⟨"sum", "Out", "total", "A"⟩ ]

end Graph

end ShadingGraph
