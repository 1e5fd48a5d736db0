import Mathlib.Data.List.Induction
import Mathlib.Data.List.Pairwise
import ShadingGraph.Document
import ShadingGraph.Proofs.Settlement

/-! # Rebuilding graphs from documents

Adding the records of a graph gives nodes with its pins, and connecting its edges
gives its edges, provided that each of them still joins two ports. Concretizing that
graph then computes every field that the document leaves out, for a settled graph is
determined by its pins and edges.
-/

namespace ShadingGraph

variable {registry : Registry}

/-- Fields of the pinned ports by port name, in the order of the ports. -/
def Port.pins (ports : List Port) : List (String × Field) :=
  (ports.filter (·.pinned)).map fun port => (port.name, port.field)

@[simp] theorem Port.pins_cons (port : Port) (rest : List Port) :
    Port.pins (port :: rest) =
      if port.pinned then (port.name, port.field) :: Port.pins rest else Port.pins rest := by
  cases pinned : port.pinned <;> simp [pins, pinned]

theorem Port.distinct_pins {ports : List Port} (distinct : (ports.map (·.name)).Nodup) :
    (Table.keys (Port.pins ports)).Nodup := by
  refine distinct.sublist ?_
  simp only [Table.keys, Port.pins, List.map_map, Function.comp_def]
  exact List.filter_sublist.map _

theorem NodeRecord.pinned_ofNode {node : Node} (distinct : (node.ports.map (·.name)).Nodup) :
    (NodeRecord.ofNode node).pinned = Port.pins node.ports :=
  Table.ofList_eq_self (Port.distinct_pins distinct)

theorem Node.setPortField_whole {node : Node} {before after : List Port} {port : Port}
    (split : node.ports = before ++ port :: after)
    (distinct : (node.ports.map (·.name)).Nodup) (field : Field) :
    node.setPortField port.name "" field =
      .ok { node with ports := before ++ { port with field, pinned := true } :: after } := by
  refine Node.changePort_eq_ok.mpr
    ⟨before, port, after, _, split, fun other inside same => ?_, rfl, rfl, rfl⟩
  rw [split, List.map_append, List.map_cons, List.nodup_append] at distinct
  exact distinct.2.2 other.name (List.mem_map_of_mem inside) port.name List.mem_cons_self same

/-! ## Edges into one input -/

namespace Edge

/-- The last of the edges into each input, in order. -/
def lastInto (edges : List Edge) : List Edge :=
  edges.pwFilter fun edge later => edge.target ≠ later.target

theorem distinct_lastInto (edges : List Edge) : ((lastInto edges).map target).Nodup :=
  List.pairwise_map.mpr (List.pairwise_pwFilter edges)

theorem lastInto_sublist (edges : List Edge) : (lastInto edges).Sublist edges :=
  List.pwFilter_sublist edges

theorem lastInto_of_distinct {edges : List Edge} (distinct : (edges.map target).Nodup) :
    lastInto edges = edges :=
  List.pwFilter_eq_self.mpr (List.pairwise_map.mp distinct)

theorem lastInto_cons (edge : Edge) (rest : List Edge) :
    lastInto (edge :: rest) =
      if edge.target ∈ rest.map target then lastInto rest else edge :: lastInto rest := by
  have kept : (∀ later ∈ lastInto rest, edge.target ≠ later.target) ↔ edge.target ∉ rest.map target := by
    rw [lastInto, List.forall_mem_pwFilter fun {x y z} apart =>
      or_iff_not_imp_left.mpr fun same => not_not.mp same ▸ apart]
    simp [eq_comm]
  split
  · rename_i later
    exact List.pwFilter_cons_of_neg fun apart => kept.mp apart later
  · rename_i last
    exact List.pwFilter_cons_of_pos (kept.mpr last)

theorem lastInto_concat (edges : List Edge) (edge : Edge) :
    lastInto (edges ++ [edge]) = (lastInto edges).filter (·.target ≠ edge.target) ++ [edge] := by
  induction edges with
  | nil => rfl
  | cons first rest ih =>
      rw [List.cons_append, lastInto_cons, lastInto_cons, ih]
      by_cases later : first.target ∈ rest.map target
      · simp [later]
      · rw [if_neg later]
        by_cases replaced : first.target = edge.target
        · simp [replaced]
        · simp [later, replaced]

theorem lastInto_lastInto_append (edges more : List Edge) :
    lastInto (lastInto edges ++ more) = lastInto (edges ++ more) := by
  induction more using List.reverseRecOn with
  | nil => simp only [List.append_nil, lastInto_of_distinct (distinct_lastInto edges)]
  | append_singleton more edge ih =>
      rw [← List.append_assoc, ← List.append_assoc, lastInto_concat, lastInto_concat, ih]

end Edge

namespace GraphDocument

open ShadingGraph.Graph

variable {graph : Graph}

/-- Writing pinned fields into a node without pins gives a node with these pins. The
induction runs along the ports; those before hold their pins already. -/
theorem restorePins_pins (node : Node) {before ports finals : List Port}
    (fresh : node.name ∉ graph.names) (split : node.ports = before ++ ports)
    (distinct : (node.ports.map (·.name)).Nodup)
    (shape : ports.map Port.signature = finals.map Port.signature)
    (unpinned : ∀ port ∈ ports, port.pin? = none) :
    ∃ pinned, List.Forall₂ Port.SamePin pinned finals ∧
      restorePins (graph.withNode node) node.name (Port.pins finals) =
        .ok (graph.withNode { node with ports := before ++ pinned }) := by
  induction finals generalizing node before ports with
  | nil =>
      cases List.map_eq_nil_iff.mp shape
      exact ⟨[], .nil, by rw [← split]; rfl⟩
  | cons final finals ih =>
      obtain ⟨port, rest, rfl, signature, shape⟩ := List.map_eq_cons_iff.mp shape
      obtain ⟨portUnpinned, restUnpinned⟩ := List.forall_mem_cons.mp unpinned
      rw [Port.pins_cons]
      cases pin : final.pinned with
      | false =>
          have split' : node.ports = (before ++ [port]) ++ rest := by simpa using split
          obtain ⟨pinned, paired, restored⟩ := ih node fresh split' distinct shape restUnpinned
          refine ⟨port :: pinned, .cons ⟨signature, ?_⟩ paired, ?_⟩
          · rw [portUnpinned, Port.pin?, pin]
            rfl
          · simpa using restored
      | true =>
          let written : Port := { port with field := final.field, pinned := true }
          let changed : Node := { node with ports := (before ++ [written]) ++ rest }
          have name : final.name = port.name := congrArg (·.1) signature.symm
          have wrote : (graph.withNode node).changeNode node.name
              (·.setPortField final.name "" final.field) = .ok (graph.withNode changed) := by
            refine changeNode_eq_ok.mpr ⟨node, changed, node?_withNode node fresh, ?_, ?_⟩
            · simp [name, Node.setPortField_whole split distinct, changed, written]
            · exact (replaceNode_withNode node changed fresh rfl).symm
          have distinct' : (changed.ports.map (·.name)).Nodup := by
            simpa [changed, written, split] using distinct
          obtain ⟨pinned, paired, restored⟩ := ih changed fresh rfl distinct' shape restUnpinned
          refine ⟨written :: pinned, .cons ⟨signature, ?_⟩ paired, ?_⟩
          · rw [Port.pin?, Port.pin?, pin]
          · simp only [if_true, restorePins, wrote]
            simpa using restored

theorem addRecord_eq_restorePins {record : NodeRecord} {definition : Definition} {variant : Variant}
    (valid : registry.Consistent) (noEdges : graph.edges = []) (fresh : record.name ∉ graph.names)
    (known : registry.node record.definition = .ok definition)
    (selected : definition.variant? record.variant = some variant) :
    ∃ ports : List Port, ports.map Port.signature = variant.parameters.map Parameter.signature ∧
      (∀ port ∈ ports, port.pin? = none) ∧
      addRecord registry graph record =
        restorePins (graph.withNode ⟨record.name, record.definition, record.variant, ports⟩)
          record.name record.pinned := by
  have found := Registry.node_eq_ok.mp known
  have keyed : definition.key = record.definition := valid.nodeKeyed _ _ found
  obtain ⟨ports, started⟩ : ∃ ports,
      concretize (.fresh record.name definition) definition [] registry = .ok ports :=
    concretize_fresh_isOk valid known record.name
  -- The node on its way: added, with its variant selected, and with the ports of that.
  let first : Node := { Node.fresh record.name definition with ports }
  let chosen := first.selectVariant record.variant
  obtain ⟨bare, shaped⟩ : ∃ bare, concretize chosen definition [] registry = .ok bare :=
    concretize_isOk (valid.covered _ _ found) selected
  let last : Node := ⟨record.name, record.definition, record.variant, bare⟩
  have last_eq : { chosen with ports := bare } = last := by
    simp [last, chosen, first, Node.selectVariant, Node.fresh, keyed]
  have added : graph.addNode record.definition record.name registry = .ok (graph.withNode first) :=
    addNode_eq_ok.mpr ⟨definition, ports, fresh, known, started, rfl⟩
  have changed : (graph.withNode first).changeNode record.name
      (fun found => .ok (found.selectVariant record.variant)) = .ok (graph.withNode chosen) :=
    changeNode_eq_ok.mpr ⟨first, chosen, node?_withNode first fresh, rfl,
      (replaceNode_withNode first chosen fresh rfl).symm⟩
  have unfed : (graph.withNode chosen).feeds record.name = [] := by simp [Graph.feeds, noEdges]
  have reshaped : (graph.withNode chosen).reconcretize record.name registry =
      .ok (graph.withNode last) := by
    refine reconcretize_eq_ok.mpr ⟨chosen, definition, bare, node?_withNode chosen fresh, ?_, ?_, ?_⟩
    · exact (congrArg registry.node keyed).trans known
    · rw [unfed, shaped]
    · rw [last_eq, replaceNode_withNode chosen last fresh rfl]
  refine ⟨bare, ?_, ?_, ?_⟩
  · exact signatures_of_concretize selected shaped
  · have unpinned : ∀ port ∈ first.ports, port.pin? = none :=
      unpinned_of_concretize started fun _ inside => absurd inside List.not_mem_nil
    exact unpinned_of_concretize shaped unpinned
  · rw [addRecord, added, Outcome.ok_bind, changed, Outcome.ok_bind, reshaped, Outcome.ok_bind]

theorem addRecord_ofNode {node : Node} {definition : Definition} {feeds : List Feed}
    (valid : registry.Consistent) (noEdges : graph.edges = []) (fresh : node.name ∉ graph.names)
    (known : registry.node node.definitionKey = .ok definition)
    (concretized : concretize node definition feeds registry = .ok node.ports) :
    ∃ added, added.SamePins node ∧
      addRecord registry graph (.ofNode node) = .ok (graph.withNode added) := by
  obtain ⟨variant, selected, -⟩ := realizes_of_concretize concretized
  obtain ⟨bare, signatures, unpinned, restoring⟩ :
      ∃ ports : List Port, ports.map Port.signature = variant.parameters.map Parameter.signature ∧
        (∀ port ∈ ports, port.pin? = none) ∧
        addRecord registry graph (.ofNode node) =
          restorePins (graph.withNode { node with ports }) node.name (NodeRecord.ofNode node).pinned :=
    addRecord_eq_restorePins valid noEdges fresh known selected
  have shape : bare.map Port.signature = node.ports.map Port.signature :=
    signatures.trans (signatures_of_concretize selected concretized).symm
  have conforms : node.Conforms registry := Node.conforms_of_concretize known concretized
  have distinct : (node.ports.map (·.name)).Nodup := conforms.distinctPorts valid
  have names : bare.map (·.name) = node.ports.map (·.name) := by
    simpa only [List.map_map, Function.comp_def, Port.signature] using congrArg (List.map (·.1)) shape
  obtain ⟨pinned, paired, restored⟩ := restorePins_pins { node with ports := bare } fresh
    (List.nil_append _).symm (names ▸ distinct) shape unpinned
  rw [NodeRecord.pinned_ofNode distinct] at restoring
  exact ⟨{ node with ports := [] ++ pinned }, ⟨rfl, rfl, rfl, paired⟩, restoring.trans restored⟩

theorem addRecords_ofNode {nodes : List Node} (valid : registry.Consistent)
    (noEdges : graph.edges = []) (distinct : (graph.names ++ nodes.map (·.name)).Nodup)
    (concretized : ∀ node ∈ nodes, ∃ definition feeds,
      registry.node node.definitionKey = .ok definition ∧
        concretize node definition feeds registry = .ok node.ports) :
    ∃ added, List.Forall₂ Node.SamePins added nodes ∧
      addRecords registry graph (nodes.map NodeRecord.ofNode) =
        .ok { graph with nodes := graph.nodes ++ added } := by
  induction nodes generalizing graph with
  | nil => exact ⟨[], .nil, by simp [addRecords]⟩
  | cons node rest ih =>
      obtain ⟨⟨definition, feeds, known, ports⟩, others⟩ := List.forall_mem_cons.mp concretized
      have fresh : node.name ∉ graph.names := fun inside =>
        (List.nodup_append.mp distinct).2.2 _ inside _ List.mem_cons_self rfl
      obtain ⟨added, same, done⟩ := addRecord_ofNode valid noEdges fresh known ports
      have distinct' : ((graph.withNode added).names ++ rest.map (·.name)).Nodup := by
        simpa [same.name] using distinct
      have noEdges' : (graph.withNode added).edges = [] := noEdges
      obtain ⟨more, paired, remaining⟩ := ih noEdges' distinct' others
      refine ⟨added :: more, .cons same paired, ?_⟩
      simp only [List.map_cons, addRecords, done, remaining]
      simp only [withNode, List.append_assoc, List.singleton_append]

/-- Edges can be connected one after the other exactly when each joins two ports of different
nodes. Then the last one into each input stays. -/
theorem connectEdges_eq_ok {edges : List Edge} {next : Graph}
    (distinct : (graph.edges.map Edge.target).Nodup) :
    connectEdges registry graph edges = .ok next ↔
      (∀ edge ∈ edges, graph.Joins registry edge ∧ edge.fromNode ≠ edge.toNode) ∧
        next = { graph with edges := Edge.lastInto (graph.edges ++ edges) } := by
  induction edges generalizing graph with
  | nil => simp [connectEdges, Edge.lastInto_of_distinct distinct, eq_comm]
  | cons edge rest ih =>
      -- Connecting the edge leaves the last edges of those gone through so far.
      let grown : Graph := { graph with edges := Edge.lastInto (graph.edges ++ [edge]) }
      have beside : graph.edgesBeside edge ++ [edge] = grown.edges := by
        simp only [grown]
        rw [edgesBeside_eq_filter distinct, Edge.lastInto_concat, Edge.lastInto_of_distinct distinct]
      have edges : Edge.lastInto (grown.edges ++ rest) = Edge.lastInto (graph.edges ++ edge :: rest) := by
        rw [Edge.lastInto_lastInto_append, List.append_assoc, List.singleton_append]
      have later : connectEdges registry grown rest = .ok next ↔
          (∀ edge ∈ rest, graph.Joins registry edge ∧ edge.fromNode ≠ edge.toNode) ∧
            next = { grown with edges := Edge.lastInto (grown.edges ++ rest) } :=
        ih (Edge.distinct_lastInto _)
      rw [List.forall_mem_cons, connectEdges]
      cases connected : graph.connect edge registry with
      | error error =>
          simp only [reduceCtorEq, false_iff]
          rintro ⟨⟨joins, -⟩, -⟩
          have succeeds := (connect_eq_ok distinct).mpr ⟨joins, rfl, rfl⟩
          rw [connected] at succeeds
          cases succeeds
      | ok result =>
          obtain ⟨joins, -, result_eq⟩ := (connect_eq_ok distinct).mp connected
          rw [beside] at result_eq
          simp only [result_eq, joins, ne_eq, not_false_eq_true, and_self, true_and]
          rw [later, edges]

theorem rebuild_eq_ok {document : GraphDocument} :
    rebuild registry document = .ok graph ↔ ∃ start connected,
      addRecords registry (.empty document.name) document.nodes = .ok start ∧
      connectEdges registry start document.edges = .ok connected ∧
      connected.reconcretizeAll registry = (graph, none) := by
  unfold rebuild
  cases addRecords registry (.empty document.name) document.nodes with
  | error error => simp
  | ok start =>
      cases linked : connectEdges registry start document.edges with
      | error error => simp [linked]
      | ok connected =>
          cases run : connected.reconcretizeAll registry with
          | mk settled outcome => cases outcome <;> simp [linked, run]

/-- A settled graph is rebuilt from its document exactly when all its edges join two
ports, and then as it was. -/
theorem rebuild_ofGraph_eq_ok {rebuilt : Graph} (valid : registry.Consistent)
    (consistent : graph.Consistent registry) (settled : graph.Settled registry) :
    rebuild registry (ofGraph graph) = .ok rebuilt ↔
      (∀ edge ∈ graph.edges, graph.Joins registry edge) ∧ rebuilt = graph := by
  have concretized : ∀ node ∈ graph.nodes, ∃ definition feeds,
      registry.node node.definitionKey = .ok definition ∧
        concretize node definition feeds registry = .ok node.ports := by
    intro node inside
    obtain ⟨definition, known, concretized⟩ := settled.nodes node inside
    exact ⟨definition, _, known, concretized⟩
  obtain ⟨added, paired, populated⟩ : ∃ added, List.Forall₂ Node.SamePins added graph.nodes ∧
      addRecords registry (.empty graph.name) (graph.nodes.map .ofNode) =
        .ok ⟨graph.name, added, []⟩ :=
    addRecords_ofNode valid rfl consistent.distinctNames concretized
  let start : Graph := ⟨graph.name, added, []⟩
  have signatures : ∀ ref, (start.port? ref).map Port.signature =
      (graph.port? ref).map Port.signature :=
    signature_port?_of_sameShape (paired.imp fun _ _ same => same.shape)
  have noTargets : (start.edges.map Edge.target).Nodup := List.nodup_nil
  have edges : Edge.lastInto (start.edges ++ (ofGraph graph).edges) = graph.edges :=
    Edge.lastInto_of_distinct consistent.distinctTargets
  have settles : { start with edges := graph.edges }.reconcretizeAll registry = (graph, none) :=
    reconcretizeAll_of_samePins valid consistent settled rfl rfl paired
  rw [rebuild_eq_ok]
  constructor
  · rintro ⟨_, _, populated', linked, run⟩
    cases populated.symm.trans populated'
    obtain ⟨joins, rfl⟩ := (connectEdges_eq_ok noTargets).mp linked
    rw [edges, settles] at run
    cases run
    exact ⟨fun edge inside => (joins edge inside).1.congr fun ref _ => signatures ref, rfl⟩
  · rintro ⟨joins, rfl⟩
    refine ⟨start, _, populated, (connectEdges_eq_ok noTargets).mpr ⟨fun edge inside =>
      ⟨(joins edge inside).congr fun ref _ => (signatures ref).symm, consistent.noLoop edge inside⟩,
      rfl⟩, ?_⟩
    rw [edges, settles]

/-- Saving and rebuilding gives the same graph, whatever edits led to it. -/
theorem rebuild_ofGraph (history : List Registration) (name : String) (edits : List Edit)
    (done : (Graph.ofHistory (.ofHistory history) name edits).reconcretizeAll (.ofHistory history) =
      (graph, none))
    (joined : ∀ edge ∈ graph.edges, graph.Joins (.ofHistory history) edge) :
    rebuild (.ofHistory history) (ofGraph graph) = .ok graph := by
  obtain ⟨consistent, settled⟩ := settled_ofHistory done
  exact (rebuild_ofGraph_eq_ok (Registry.consistent_ofHistory history) consistent settled).mpr
    ⟨joined, rfl⟩

theorem rebuild_ofGraph_chain :
    rebuild (.ofHistory standardHistory) (ofGraph (settle chainEdits).1) =
      .ok (settle chainEdits).1 :=
  rebuild_ofGraph standardHistory "Edited" chainEdits (settle_eq (by decide +kernel))
    (joins_of_checkConnection (by decide +kernel))

/-- A saved graph can be loaded again exactly when each of its edges still joins an
output and an input of compatible types. -/
theorem exists_rebuild_iff (history : List Registration) (name : String) (edits : List Edit)
    (done : (Graph.ofHistory (.ofHistory history) name edits).reconcretizeAll (.ofHistory history) =
      (graph, none)) :
    (∃ rebuilt, rebuild (.ofHistory history) (ofGraph graph) = .ok rebuilt) ↔
      ∀ edge ∈ graph.edges, graph.Joins (.ofHistory history) edge := by
  obtain ⟨consistent, settled⟩ := settled_ofHistory done
  simp only [rebuild_ofGraph_eq_ok (Registry.consistent_ofHistory history) consistent settled,
    exists_and_left, exists_eq, and_true]

theorem exists_rebuild_chain :
    ∃ rebuilt, rebuild (.ofHistory standardHistory) (ofGraph (settle chainEdits).1) = .ok rebuilt :=
  (exists_rebuild_iff standardHistory "Edited" chainEdits (settle_eq (by decide +kernel))).mpr
    (joins_of_checkConnection (by decide +kernel))

/-- A graph with an edge that has lost its source port can be saved and not loaded again. -/
theorem rebuild_stranded_eq_error :
    (settle strandedEdits).2 = none ∧
      rebuild (.ofHistory standardHistory) (ofGraph (settle strandedEdits).1) =
        .error (.connection (.portNotFound ⟨"imposter", "UV1"⟩)) :=
  ⟨by decide +kernel, Outcome.eq_error_of_failsWith (by decide +kernel)⟩

end GraphDocument

end ShadingGraph
