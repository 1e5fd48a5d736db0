import ShadingGraph.Proofs.Feeding
import ShadingGraph.Proofs.PinStability

/-! # Connecting ports

Connecting decides by usages and categories whether an edge is let in, and concretization
decides once more whether the edge is honoured. The two agree: the input of an edge that
was let in takes the adapted field of the output as soon as its node is concretized.
-/

namespace ShadingGraph

variable {registry : Registry}

theorem DataType.accepts_eq_true {type source : DataType} :
    type.accepts source = true ↔ source.category = type.category := by
  simp [accepts]

theorem Port.eq_of_unpinned {port other : Port} (signature : port.signature = other.signature)
    (pin : port.pin? = none) (unpinned : other.pinned = false) :
    port = { other with field := port.field } := by
  cases port
  cases other
  simp_all [Port.signature, Port.pin?]

namespace Graph

variable {graph next settled : Graph} {edge : Edge} {replaced : Option Edge}

/-- The edge leads from an output to an input of another node, both of registered types of
one category. -/
structure Connectable (registry : Registry) (graph : Graph) (edge : Edge) : Prop where
  ports : ∃ source target sourceType targetType,
    graph.port? edge.source = some source ∧ source.usage = .output ∧
    graph.port? edge.target = some target ∧ target.usage = .input ∧
    registry.type source.typeKey = .ok sourceType ∧ registry.type target.typeKey = .ok targetType ∧
    sourceType.category = targetType.category
  between : edge.fromNode ≠ edge.toNode

theorem connectable_iff :
    graph.Connectable registry edge ↔ graph.Joins registry edge ∧ edge.fromNode ≠ edge.toNode := by
  constructor
  · rintro ⟨⟨source, target, sourceType, targetType, from_, output, to_, input, sourceKnown,
      targetKnown, category⟩, different⟩
    exact ⟨⟨source, target, sourceType, targetType, from_, to_, output, input, sourceKnown,
      targetKnown, DataType.accepts_eq_true.mpr category⟩, different⟩
  · rintro ⟨⟨source, target, sourceType, targetType, from_, to_, output, input, sourceKnown,
      targetKnown, accepted⟩, different⟩
    exact ⟨⟨source, target, sourceType, targetType, from_, output, to_, input, sourceKnown,
      targetKnown, DataType.accepts_eq_true.mp accepted⟩, different⟩

theorem exists_connect_iff (consistent : graph.Consistent registry) :
    (∃ outcome, graph.connect edge registry = .ok outcome) ↔ graph.Connectable registry edge := by
  simp only [Prod.exists, connect_eq_ok consistent.distinctTargets, ← connectable_iff]
  exact ⟨fun ⟨_, _, connectable, _⟩ => connectable, fun connectable => ⟨_, _, connectable, rfl, rfl⟩⟩

theorem eq_of_connect (consistent : graph.Consistent registry)
    (connected : graph.connect edge registry = .ok (next, replaced)) :
    next = { graph with edges := graph.edges.filter (·.target ≠ edge.target) ++ [edge] } := by
  obtain ⟨-, -, rfl⟩ := (connect_eq_ok consistent.distinctTargets).mp connected
  rw [edgesBeside_eq_filter consistent.distinctTargets]

theorem hasParameter_of_shapedBy {node : Node} {name : String} {port : Port}
    (found : graph.node? name = some node) (shaped : node.ShapedBy registry node.selectedVariant)
    (inside : port ∈ node.ports) : graph.HasParameter registry name port.signature := by
  obtain ⟨definition, variant, parameter, known, selected, declared, same⟩ := shaped.declares inside
  exact hasParameter_iff.mpr ⟨node, definition, variant, found, known, selected, parameter, declared, same⟩

/-- The input of the edge has the field that its source adapts to it, and no other node is
changed. -/
structure Honoured (registry : Registry) (graph : Graph) (edge : Edge) (target : Port)
    (settled : Graph) : Prop where
  field : ∃ source sourceType targetType, graph.port? edge.source = some source ∧
    registry.type source.typeKey = .ok sourceType ∧
    registry.type target.typeKey = .ok targetType ∧
    settled.port? edge.target =
      some { target with field := sourceType.adapt source.field targetType }
  others : ∀ name ≠ edge.toNode, settled.node? name = graph.node? name

theorem exists_field_reconcretize (valid : registry.Consistent)
    (consistent : graph.Consistent registry) {ref : PortRef} {port : Port}
    (found : graph.port? ref = some port) (unpinned : port.pinned = false)
    (declares : graph.HasParameter registry ref.node port.signature)
    (done : graph.reconcretize ref.node registry = .ok next) :
    ∃ field, next.port? ref = some { port with field } := by
  obtain ⟨settled, found', settles⟩ := exists_port?_reconcretize valid consistent found declares done
  obtain ⟨type, -, pin⟩ := settles.pin
  have unwritten : port.pin? = none := by simp [Port.pin?, unpinned]
  rw [unwritten, Option.map_none] at pin
  exact ⟨settled.field, found'.trans (congrArg some (Port.eq_of_unpinned settles.signature pin unpinned))⟩

theorem Consistent.not_mem_sources (consistent : graph.Consistent registry) (name : String) :
    name ∉ graph.sources name := by
  intro feeding
  obtain ⟨loop, member, into, outOf⟩ := mem_sources.mp feeding
  exact consistent.noLoop loop member (outOf.trans into.symm)

theorem honoured_of_reconcretize (valid : registry.Consistent)
    (consistent : graph.Consistent registry) (inside : edge ∈ graph.edges)
    (joins : graph.Joins registry edge) {target : Port}
    (found : graph.port? edge.target = some target) (unpinned : target.pinned = false)
    (declares : graph.HasParameter registry edge.toNode target.signature)
    (done : graph.reconcretize edge.toNode registry = .ok settled) :
    graph.Honoured registry edge target settled := by
  have apart : edge.fromNode ≠ edge.toNode := consistent.noLoop edge inside
  have others : ∀ name ≠ edge.toNode, settled.node? name = graph.node? name :=
    fun _ different => node?_reconcretize_of_ne different done
  have source : settled.port? edge.source = graph.port? edge.source :=
    congrArg (Option.bind · _) (others edge.fromNode apart)
  obtain ⟨_, _, _, _, -, found', -, input, -⟩ := id joins
  cases found.symm.trans found'
  obtain ⟨field, reached⟩ : ∃ field, settled.port? edge.target = some { target with field } :=
    exists_field_reconcretize valid consistent found unpinned declares done
  obtain ⟨node, foundNode, foundPort⟩ := port?_eq_some.mp reached
  obtain ⟨k, at_k⟩ := List.getElem?_of_mem (List.mem_of_find?_eq_some foundPort)
  have settledNode : settled.SettledAt registry node :=
    settledAt_of_reconcretize (consistent.not_mem_sources edge.toNode) done node
      (mem_of_node? foundNode) (name_of_node? foundNode)
  -- The source is in another node, and of the target no more than the field has changed.
  have signatures : ∀ ref ∈ [edge.source, edge.target],
      (graph.port? ref).map Port.signature = (settled.port? ref).map Port.signature := by
    simp [source, found, reached, Port.signature]
  have consistent' : settled.Consistent registry := consistent.reconcretize done
  have fed : settled.FedBy registry node k edge := by
    refine (fedBy_iff valid consistent' settledNode (mem_of_node? foundNode)
      (fun _ => joins.congr signatures) at_k).mpr ⟨input, unpinned, ?_⟩
    have named : node.name = edge.toNode := name_of_node? foundNode
    have portNamed : { target with field }.name = edge.target.port := Node.name_of_port? foundPort
    have member : edge ∈ settled.edges := (names_reconcretize done).2.2 ▸ inside
    exact (incoming?_eq_some consistent'.distinctTargets).mpr
      ⟨member, congrArg₂ PortRef.mk named.symm portNamed.symm⟩
  obtain ⟨from_, sourceType, type, sourceFound, sourceKnown, known, adapted⟩ :=
    fed.field settledNode at_k
  exact ⟨⟨from_, sourceType, type, source ▸ sourceFound, sourceKnown, known, adapted ▸ reached⟩, others⟩

/-- An edge that was let in is honoured as soon as the node that it leads to is concretized,
if that node has the shape of its variant and the input no pin. -/
theorem honours_of_connect (valid : registry.Consistent) (consistent : graph.Consistent registry)
    {node : Node} {target : Port} (connected : graph.connect edge registry = .ok (next, replaced))
    (found : graph.node? edge.toNode = some node)
    (shaped : node.ShapedBy registry node.selectedVariant)
    (foundPort : node.port? edge.toPort = some target) (unpinned : target.pinned = false) :
    ∃ settled, next.reconcretize edge.toNode registry = .ok settled ∧
      graph.Honoured registry edge target settled := by
  have consistent' : next.Consistent registry := consistent.connect connected
  have declares : graph.HasParameter registry edge.toNode target.signature :=
    hasParameter_of_shapedBy found shaped (List.mem_of_find?_eq_some foundPort)
  have foundTarget : graph.port? edge.target = some target :=
    port?_eq_some.mpr ⟨node, found, foundPort⟩
  obtain ⟨definition, variant, known, selected, -⟩ := shaped
  -- Connecting leaves the nodes as they are, so that what is known of them holds afterwards.
  obtain ⟨⟨joins, -⟩, -, rfl⟩ := (connect_eq_ok consistent.distinctTargets).mp connected
  obtain ⟨settled, done⟩ : ∃ settled, Graph.reconcretize
      { graph with edges := graph.edgesBeside edge ++ [edge] } edge.toNode registry = .ok settled :=
    (exists_reconcretize_iff valid).mpr ⟨node, found, definition, variant, known, selected⟩
  obtain ⟨field, others⟩ := honoured_of_reconcretize valid consistent'
    (List.mem_append_right _ List.mem_cons_self) joins foundTarget unpinned declares done
  exact ⟨settled, done, field, others⟩

/-- What connecting does in a graph: which edges it lets in, what becomes of the edges there
were, and that concretization honours the edge that was let in. -/
structure ConnectsExactly (registry : Registry) (graph : Graph) : Prop where
  admits : ∀ edge,
    (∃ outcome, graph.connect edge registry = .ok outcome) ↔ graph.Connectable registry edge
  /-- The edge comes last, and the one that fed its input is gone. -/
  accepts : ∀ edge next replaced, graph.connect edge registry = .ok (next, replaced) →
    next = { graph with edges := graph.edges.filter (·.target ≠ edge.target) ++ [edge] } ∧
    (∀ previous, replaced = some previous ↔
      previous ∈ graph.edges ∧ previous.target = edge.target) ∧
    graph.tryConnect edge registry = (next, true)
  rejects : ∀ edge error, graph.connect edge registry = .error error →
    graph.apply registry (.connect edge) = (graph, some (.connection error)) ∧
    graph.tryConnect edge registry = (graph, false)
  honours : ∀ edge next replaced node target,
    graph.connect edge registry = .ok (next, replaced) →
    graph.node? edge.toNode = some node → node.ShapedBy registry node.selectedVariant →
    node.port? edge.toPort = some target → target.pinned = false →
    ∃ settled, next.reconcretize edge.toNode registry = .ok settled ∧
      graph.Honoured registry edge target settled

/-- Connecting is exact in every graph made by edits. -/
theorem connectsExactly_ofHistory (history : List Registration) (name : String)
    (edits : List Edit) :
    (ofHistory (.ofHistory history) name edits).ConnectsExactly (.ofHistory history) := by
  have valid := Registry.consistent_ofHistory history
  have consistent := consistent_ofHistory valid name edits
  constructor
  · exact fun _ => exists_connect_iff consistent
  · intro edge next replaced connected
    refine ⟨eq_of_connect consistent connected, fun previous => ?_, by simp [tryConnect, connected]⟩
    obtain ⟨-, rfl, -⟩ := (connect_eq_ok consistent.distinctTargets).mp connected
    exact incoming?_eq_some consistent.distinctTargets
  · intro edge error failed
    simp [apply, tryConnect, failed]
  · intro edge next replaced node target connected found shaped foundPort unpinned
    exact honours_of_connect valid consistent connected found shaped foundPort unpinned

-- Connecting an edge that is there already moves it to the end.
example : (settle (chainEdits ++ [.connect ⟨"imposter", "Grid", "sum", "A"⟩])).1.edges =
    [⟨"sum", "Out", "scaled", "A"⟩, ⟨"imposter", "Grid", "sum", "A"⟩] := by
  decide +kernel

end Graph

end ShadingGraph
