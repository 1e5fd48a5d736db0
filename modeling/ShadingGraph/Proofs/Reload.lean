import ShadingGraph.Proofs.PinStability
import ShadingGraph.Proofs.Rebuild

/-! # Loading documents

A document may lead several edges into one input, and hold pins of any form for any port
that the variants of its nodes declare. A document that loads loses none of that: saving
the loaded graph gives its nodes and pins, the pins in the form of their types, and its
edges up to those that later ones replace. What was saved once loads as it is.
-/

namespace ShadingGraph

variable {registry : Registry}

/-! ## Pins of a node -/

theorem Port.find?_pins {ports : List Port} (distinct : (ports.map (·.name)).Nodup) (name : String) :
    Table.find? (Port.pins ports) name = (ports.find? (·.name = name)).bind Port.pin? := by
  induction ports with
  | nil => rfl
  | cons port rest ih =>
      obtain ⟨fresh, distinct⟩ := List.nodup_cons.mp distinct
      rw [Port.pins_cons, List.find?_cons]
      by_cases same : port.name = name
      · have absent : rest.find? (·.name = name) = none := by
          rw [List.find?_eq_none]
          exact fun other inside named => fresh
            (List.mem_map.mpr ⟨other, inside, (of_decide_eq_true named).trans same.symm⟩)
        cases pinned : port.pinned with
        | true => simp [same, Table.find?, Port.pin?, pinned]
        | false => simp [same, ih distinct, absent, Port.pin?, pinned]
      · cases pinned : port.pinned <;> simp [same, Table.find?, ih distinct]

namespace Node

variable {node changed : Node}

/-- Field that the port of a name was given by hand. -/
def pin? (node : Node) (name : String) : Option Field :=
  (node.port? name).bind Port.pin?

theorem find?_pinned_ofNode (distinct : (node.ports.map (·.name)).Nodup) (name : String) :
    Table.find? (NodeRecord.ofNode node).pinned name = node.pin? name := by
  rw [NodeRecord.pinned_ofNode distinct, Port.find?_pins distinct]
  rfl

theorem exists_of_setPortField_whole {name : String} {field : Field}
    (done : node.setPortField name "" field = .ok changed) :
    ∃ ports, changed = { node with ports } ∧ ports.map Port.signature = node.ports.map Port.signature ∧
      changed.pin? name = some field ∧ ∀ other ≠ name, changed.pin? other = node.pin? other := by
  have differs := differsAt_setPortField done
  obtain ⟨before, port, after, port', split, apart, named, wrote, rfl⟩ := changePort_eq_ok.mp done
  obtain rfl : { port with field, pinned := true } = port' := Except.ok.inj wrote
  have earlier : before.find? (·.name = name) = none :=
    List.find?_eq_none.mpr fun other inside named' => apart other inside (of_decide_eq_true named')
  refine ⟨_, rfl, differs.shape.ports, ?_, fun other different => ?_⟩
  · simp [pin?, port?, List.find?_append, earlier, named, Port.pin?]
  · rw [pin?, differs.others other different, pin?]

end Node

/-! ## Adding records -/

/-- A node with what a record says, and with the ports of its variant. -/
structure NodeRecord.HeldBy (registry : Registry) (record : NodeRecord) (node : Node) : Prop where
  name : node.name = record.name
  definition : node.definitionKey = record.definition
  variant : node.selectedVariant = record.variant
  shaped : node.ShapedBy registry node.selectedVariant
  pins : ∀ port, node.pin? port = Table.find? (Table.ofList record.pinned) port

namespace GraphDocument

open ShadingGraph.Graph

variable {graph next : Graph}

/-- Restoring pins changes the ports in fields and pins only, and the last field for a port
is the one that it keeps. -/
theorem restorePins_eq_ok (node : Node) {pinned held : List (String × Field)}
    (fresh : node.name ∉ graph.names) (pins : ∀ port, node.pin? port = Table.find? held port)
    (restored : restorePins (graph.withNode node) node.name pinned = .ok next) :
    ∃ ports : List Port, next = graph.withNode { node with ports } ∧
      ports.map Port.signature = node.ports.map Port.signature ∧
      ∀ port, { node with ports }.pin? port =
        Table.find? (pinned.foldl (fun entries pin => Table.insert entries pin.1 pin.2) held) port := by
  -- The induction runs along the fields; `held` is the table of those written so far.
  induction pinned generalizing node held with
  | nil =>
      cases restored
      exact ⟨node.ports, rfl, rfl, pins⟩
  | cons pin rest ih =>
      obtain ⟨name, field⟩ := pin
      rw [restorePins] at restored
      cases wrote : (graph.withNode node).changeNode node.name (·.setPortField name "" field) with
      | error error => simp [wrote] at restored
      | ok middle =>
          rw [wrote] at restored
          obtain ⟨found, changed, present, done, rfl⟩ := changeNode_eq_ok.mp wrote
          cases (node?_withNode node fresh).symm.trans present
          obtain ⟨ports, rfl, signatures, written, others⟩ := Node.exists_of_setPortField_whole done
          have kept : (graph.withNode node).replaceNode { node with ports } =
              graph.withNode { node with ports } := replaceNode_withNode node _ fresh rfl
          rw [kept] at restored
          have inserted : ∀ port, { node with ports }.pin? port =
              Table.find? (Table.insert held name field) port := by
            intro port
            by_cases same : port = name
            · rw [same, written, Table.find?_insert_self]
            · rw [others port same, pins, Table.find?_insert_of_ne _ _ same]
          obtain ⟨finals, rfl, shape, final⟩ := ih { node with ports } fresh inserted restored
          exact ⟨finals, rfl, shape.trans signatures, final⟩

theorem registered_of_addRecord {record : NodeRecord} (valid : registry.Consistent)
    (added : addRecord registry graph record = .ok next) :
    record.name ∉ graph.names ∧ ∃ definition variant,
      registry.node record.definition = .ok definition ∧
      definition.variant? record.variant = some variant := by
  simp only [addRecord, Outcome.bind_eq_ok] at added
  obtain ⟨_, added, _, changed, _, concretized, -⟩ := added
  obtain ⟨definition, ports, fresh, known, -, rfl⟩ := addNode_eq_ok.mp added
  -- The node that was added is the one that is changed and concretized.
  let first : Node := { Node.fresh record.name definition with ports }
  obtain ⟨_, _, found, selected, rfl⟩ := changeNode_eq_ok.mp changed
  cases (node?_withNode first fresh).symm.trans found
  cases selected
  rw [replaceNode_withNode first (first.selectVariant record.variant) fresh rfl] at concretized
  obtain ⟨_, _, _, found, known', concretized, -⟩ := reconcretize_eq_ok.mp concretized
  cases (node?_withNode (first.selectVariant record.variant) fresh).symm.trans found
  have keyed : definition.key = record.definition :=
    valid.nodeKeyed _ _ (Registry.node_eq_ok.mp known)
  obtain ⟨variant, _, chosen, -⟩ := concretize_eq_ok.mp concretized
  have same : registry.node definition.key = .ok definition := by rw [keyed, known]
  cases same.symm.trans known'
  exact ⟨fresh, definition, variant, known, chosen⟩

theorem addRecord_eq_ok {record : NodeRecord} (valid : registry.Consistent)
    (noEdges : graph.edges = []) (added : addRecord registry graph record = .ok next) :
    record.name ∉ graph.names ∧ ∃ node, record.HeldBy registry node ∧ next = graph.withNode node := by
  obtain ⟨fresh, definition, variant, known, selected⟩ := registered_of_addRecord valid added
  obtain ⟨bare, signatures, unpinned, restoring⟩ :=
    addRecord_eq_restorePins valid noEdges fresh known selected
  rw [restoring] at added
  let node : Node := ⟨record.name, record.definition, record.variant, bare⟩
  have noPins : ∀ port, node.pin? port = Table.find? [] port := by
    intro port
    rw [Node.pin?]
    cases found : node.port? port with
    | none => rfl
    | some other => exact unpinned other (List.mem_of_find?_eq_some found)
  obtain ⟨ports, rfl, kept, pins⟩ := restorePins_eq_ok node fresh noPins added
  refine ⟨fresh, { node with ports }, ⟨rfl, rfl, rfl, ?_, pins⟩, rfl⟩
  exact ⟨definition, variant, known, selected, kept.trans signatures⟩

theorem addRecords_eq_ok {records : List NodeRecord} (valid : registry.Consistent)
    (noEdges : graph.edges = []) (distinct : graph.names.Nodup)
    (added : addRecords registry graph records = .ok next) :
    next.names.Nodup ∧ ∃ nodes, List.Forall₂ (NodeRecord.HeldBy registry) records nodes ∧
      next = { graph with nodes := graph.nodes ++ nodes } := by
  induction records generalizing graph with
  | nil =>
      cases added
      exact ⟨distinct, [], .nil, by simp⟩
  | cons record rest ih =>
      rw [addRecords] at added
      cases first : addRecord registry graph record with
      | error error => simp [first] at added
      | ok middle =>
          rw [first] at added
          obtain ⟨fresh, node, held, rfl⟩ := addRecord_eq_ok valid noEdges first
          have distinct' : (graph.withNode node).names.Nodup := by
            rw [names_withNode, held.name, ← List.concat_eq_append]
            exact List.Nodup.concat fresh distinct
          have noEdges' : (graph.withNode node).edges = [] := noEdges
          obtain ⟨distinct, nodes, paired, rfl⟩ := ih noEdges' distinct' added
          refine ⟨distinct, node :: nodes, .cons held paired, ?_⟩
          simp only [withNode, List.append_assoc, List.singleton_append]

/-- Adding the records of a document gives a consistent graph of nodes that hold them. -/
theorem populated_eq_ok {name : String} {records : List NodeRecord} (valid : registry.Consistent)
    (added : addRecords registry (.empty name) records = .ok next) :
    next.Consistent registry ∧ next.edges = [] ∧ next.name = name ∧
      List.Forall₂ (NodeRecord.HeldBy registry) records next.nodes := by
  have noNames : (Graph.empty name).names.Nodup := List.nodup_nil
  obtain ⟨distinct, nodes, paired, rfl⟩ := addRecords_eq_ok valid rfl noNames added
  refine ⟨⟨distinct, fun node inside => ?_, List.nodup_nil, ?_, ?_, ?_⟩, rfl, rfl, paired⟩
  · obtain ⟨record, -, held⟩ := paired.exists_mem_left inside
    exact held.shaped.conforms
  all_goals exact fun edge inside => absurd inside List.not_mem_nil

theorem consistent_connectEdges {edges : List Edge} (consistent : graph.Consistent registry)
    (connected : connectEdges registry graph edges = .ok next) : next.Consistent registry := by
  induction edges generalizing graph with
  | nil =>
      cases connected
      exact consistent
  | cons edge rest ih =>
      rw [connectEdges] at connected
      cases first : graph.connect edge registry with
      | error error => simp [first] at connected
      | ok result =>
          rw [first] at connected
          exact ih (consistent.connect first) connected

end GraphDocument

/-! ## Settling the nodes of a document -/

/-- A node and what concretizing it leaves of it. -/
structure Node.SettlesTo (registry : Registry) (node settled : Node) : Prop where
  shape : node.SameShape settled
  selectedVariant : settled.selectedVariant = node.selectedVariant
  ports : List.Forall₂ (Port.SettlesTo registry) node.ports settled.ports

theorem settlesTo_of_concretize {node : Node} {definition : Definition} {feeds : List Feed}
    {ports : List Port} (valid : registry.Consistent)
    (known : registry.node node.definitionKey = .ok definition)
    (shaped : node.ShapedBy registry node.selectedVariant)
    (concretized : concretize node definition feeds registry = .ok ports) :
    List.Forall₂ (Port.SettlesTo registry) node.ports ports := by
  have distinct : (node.ports.map (·.name)).Nodup := shaped.conforms.distinctPorts valid
  obtain ⟨_, variant, known', selected, signatures⟩ := shaped
  cases known.symm.trans known'
  obtain ⟨_, selected', realized⟩ := realizes_of_concretize concretized
  cases selected.symm.trans selected'
  have declared : List.Forall₂ (fun port parameter => port.signature = parameter.signature)
      node.ports variant.parameters := .of_map_eq_map signatures
  exact declared.with_mem.trans realized fun port parameter settled ⟨inside, _, same⟩ realizes =>
    realizes.settlesTo distinct inside same

theorem Node.settlesTo_of_alike {graph : Graph} {node settled : Node} (valid : registry.Consistent)
    (shaped : node.ShapedBy registry node.selectedVariant) (alike : node.Alike registry settled)
    (done : graph.SettledAt registry settled) : node.SettlesTo registry settled := by
  obtain ⟨definition, known, concretized⟩ := done
  have known' : registry.node node.definitionKey = .ok definition := alike.definitionKey ▸ known
  rw [← alike.ports definition known'] at concretized
  have ports := settlesTo_of_concretize valid known' shaped concretized
  exact ⟨⟨alike.name.symm, alike.definitionKey.symm,
    (ports.map_eq_map fun _ _ settles => settles.signature.symm).symm⟩,
    alike.selectedVariant.symm, ports⟩

theorem Graph.Alike.forall₂_nodes {graph other : Graph} (alike : graph.Alike registry other)
    (distinct : graph.names.Nodup) (names : graph.names = other.names) :
    List.Forall₂ (Node.Alike registry) graph.nodes other.nodes := by
  rw [nodes_eq_filterMap distinct, nodes_eq_filterMap (names ▸ distinct), ← names]
  refine List.rel_filterMap (R := Eq) ?_ (List.forall₂_refl _)
  rintro name _ rfl
  exact alike.nodes name

/-! ## What loading keeps -/

namespace NodeRecord

variable {record : NodeRecord}

/-- The variant of the record declares a parameter of the name and the type. -/
def Declares (registry : Registry) (record : NodeRecord) (port : String) (type : DataType) : Prop :=
  ∃ definition variant parameter, registry.node record.definition = .ok definition ∧
    definition.variant? record.variant = some variant ∧ parameter ∈ variant.parameters ∧
    parameter.name = port ∧ registry.type parameter.typeKey = .ok type

/-- A record and the one that is saved when it was loaded: the same node with pins for the same
ports, each in the form of the type of its port. -/
structure SavedAs (registry : Registry) (record saved : NodeRecord) : Prop where
  name : saved.name = record.name
  definition : saved.definition = record.definition
  variant : saved.variant = record.variant
  distinct : (Table.keys saved.pinned).Nodup
  pins : ∀ port, Option.Rel
    (fun field kept => ∃ type, record.Declares registry port type ∧ kept = type.normalize field)
    (Table.find? (Table.ofList record.pinned) port) (Table.find? saved.pinned port)

theorem HeldBy.declares {node : Node} {port : Port} {type : DataType}
    (held : record.HeldBy registry node) (inside : port ∈ node.ports)
    (known : registry.type port.typeKey = .ok type) : record.Declares registry port.name type := by
  obtain ⟨definition, variant, parameter, registered, selected, declared, same⟩ :=
    held.shaped.declares inside
  have key : parameter.typeKey = port.typeKey := congrArg (·.2.1) same
  exact ⟨definition, variant, parameter, held.definition ▸ registered, held.variant ▸ selected,
    declared, congrArg (·.1) same, key ▸ known⟩

theorem HeldBy.savedAs {node settled : Node} (valid : registry.Consistent)
    (held : record.HeldBy registry node) (settles : node.SettlesTo registry settled) :
    record.SavedAs registry (.ofNode settled) := by
  have conforms : settled.Conforms registry := held.shaped.conforms.of_sameShape settles.shape
  have distinct : (settled.ports.map (·.name)).Nodup := conforms.distinctPorts valid
  refine ⟨settles.shape.name.trans held.name, settles.shape.definitionKey.trans held.definition,
    settles.selectedVariant.trans held.variant, ?_, fun name => ?_⟩
  · rw [pinned_ofNode distinct]
    exact Port.distinct_pins distinct
  · rw [Node.find?_pinned_ofNode distinct, ← held.pins]
    have ports : Option.Rel (Port.SettlesTo registry) (node.port? name) (settled.port? name) :=
      settles.ports.find? fun port port' same => by
        rw [show port'.name = port.name from congrArg (·.1) same.signature]
    unfold Node.pin?
    cases found : node.port? name with
    | none =>
        rw [found] at ports
        have absent : settled.port? name = none := by simpa using ports.isSome_eq.symm
        rw [absent]
        exact .none
    | some port =>
        rw [found] at ports
        obtain ⟨port', found', settled⟩ := ports.exists_right
        obtain ⟨type, known, pin⟩ := settled.pin
        rw [found', Option.bind_some, Option.bind_some, pin]
        cases port.pin? with
        | none => exact .none
        | some field =>
            have declares := held.declares (List.mem_of_find?_eq_some found) known
            rw [Node.name_of_port? found] at declares
            exact .some ⟨type, declares, rfl⟩

end NodeRecord

namespace GraphDocument

open ShadingGraph.Graph

/-- What loading a document keeps of it: all of it can be saved again, and what is saved loads
as the same graph. -/
structure KeptBy (registry : Registry) (document : GraphDocument) (graph : Graph) : Prop where
  name : (ofGraph graph).name = document.name
  records : List.Forall₂ (NodeRecord.SavedAs registry) document.nodes (ofGraph graph).nodes
  edges : (ofGraph graph).edges = Edge.lastInto document.edges
  stable : rebuild registry (ofGraph graph) = .ok graph

/-- Loading keeps every document that loads, whatever it holds. -/
theorem keptBy_of_rebuild (history : List Registration) {document : GraphDocument} {graph : Graph}
    (built : rebuild (.ofHistory history) document = .ok graph) :
    document.KeptBy (.ofHistory history) graph := by
  have valid := Registry.consistent_ofHistory history
  obtain ⟨start, joined, populated, linked, run⟩ := rebuild_eq_ok.mp built
  obtain ⟨started, noEdges, name, held⟩ := populated_eq_ok valid populated
  obtain ⟨settled, name', names, edges⟩ := settled_of_reconcretizeAll run
  have consistent : graph.Consistent (.ofHistory history) := by
    have done := (consistent_connectEdges started linked).reconcretizeAll
    rwa [run] at done
  have alike : joined.Alike (.ofHistory history) graph := by
    have done : joined.Alike _ (joined.reconcretizeAll (.ofHistory history)).1 := .of_reconcretizeAll joined
    rwa [run] at done
  obtain ⟨joins, rfl⟩ := (connectEdges_eq_ok started.distinctTargets).mp linked
  -- Pins come from the records by way of the graph that was populated, and settling it brings
  -- them into the form of their types; edges are not touched after they are connected.
  have settles : List.Forall₂ (Node.SettlesTo (.ofHistory history)) start.nodes graph.nodes := by
    refine (alike.forall₂_nodes started.distinctNames names.symm).with_mem.imp ?_
    rintro node final ⟨inside, inside', alike⟩
    obtain ⟨record, -, held⟩ := held.exists_mem_left inside
    exact Node.settlesTo_of_alike valid held.shaped alike (settled.nodes final inside')
  have edges : graph.edges = Edge.lastInto document.edges := by rw [edges, noEdges, List.nil_append]
  refine ⟨name'.trans name, ?_, edges, ?_⟩
  · exact List.forall₂_map_right_iff.mpr
      (held.trans settles fun record node final held settles => held.savedAs valid settles)
  · refine (rebuild_ofGraph_eq_ok valid consistent settled).mpr ⟨fun edge inside => ?_, rfl⟩
    have listed : edge ∈ document.edges := (Edge.lastInto_sublist _).subset (edges ▸ inside)
    have signatures : ∀ ref, (start.port? ref).map Port.signature = (graph.port? ref).map Port.signature :=
      signature_port?_of_sameShape (settles.imp fun _ _ same => same.shape)
    exact (joins edge listed).1.congr fun ref _ => signatures ref

/-- A document with pins that fit no type, one of them on an output, and with several edges into
one input, of which one is repeated. -/
def tangledDocument : GraphDocument where
  version := currentVersion
  name := "Tangled"
  nodes :=
    [ ⟨"imposter", ⟨"ImposterUV", 1⟩, "OneFrame", [("UV0", .text "none"), ("Size", .list [])]⟩,
      ⟨"sum", ⟨"Add", 1⟩, "Add", [("B", .bool true)]⟩ ]
  edges :=
    [ ⟨"imposter", "Grid", "sum", "A"⟩, ⟨"imposter", "Grid", "sum", "B"⟩,
      ⟨"imposter", "UV0", "sum", "A"⟩, ⟨"imposter", "Grid", "sum", "A"⟩ ]

theorem keptBy_of_rebuild_tangled :
    ∃ graph, rebuild (.ofHistory standardHistory) tangledDocument = .ok graph ∧
      graph.edges = [⟨"imposter", "Grid", "sum", "B"⟩, ⟨"imposter", "Grid", "sum", "A"⟩] ∧
      tangledDocument.KeptBy (.ofHistory standardHistory) graph := by
  obtain ⟨graph, built, edges⟩ := Outcome.exists_of_yields
    (show Outcome.yields (rebuild (.ofHistory standardHistory) tangledDocument) (fun graph =>
      graph.edges = [⟨"imposter", "Grid", "sum", "B"⟩, ⟨"imposter", "Grid", "sum", "A"⟩]) = true by
        decide +kernel)
  exact ⟨graph, built, edges, keptBy_of_rebuild standardHistory built⟩

end GraphDocument

end ShadingGraph
