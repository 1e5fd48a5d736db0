import Mathlib.Data.List.Nodup
import ShadingGraph.Graph.History
import ShadingGraph.Proofs.Concretization

/-! # Consistency of graphs

`Graph.Consistent` is what every graph made by edits satisfies: names are distinct,
edges lead between different nodes that exist and reach each input once, and the
ports of each node are those of a variant of its definition. An edge may still name
a port that is gone, for selecting another variant does not look at edges.
-/

namespace ShadingGraph

variable {registry : Registry}

theorem Edge.targets_eq (edge : Edge) (node port : String) :
    edge.targets node port = decide (edge.target = ⟨node, port⟩) := by
  simp [targets, target]

namespace Node

variable {node changed : Node}

/-- A node of a registered definition with the ports of one of its variants. -/
def Conforms (registry : Registry) (node : Node) : Prop :=
  ∃ definition, registry.node node.definitionKey = .ok definition ∧
    ∃ variant ∈ definition.variants,
      node.ports.map Port.signature = variant.parameters.map Parameter.signature

/-- Two nodes of one name and definition whose ports differ in fields and pins only. -/
structure SameShape (node other : Node) : Prop where
  name : other.name = node.name
  definitionKey : other.definitionKey = node.definitionKey
  ports : other.ports.map Port.signature = node.ports.map Port.signature

theorem SameShape.signature_port? (same : SameShape node changed) (name : String) :
    (node.port? name).map Port.signature = (changed.port? name).map Port.signature := by
  have search : ∀ ports : List Port, (ports.find? (·.name = name)).map Port.signature =
      (ports.map Port.signature).find? (·.1 = name) := fun ports => by
    rw [List.find?_map]
    rfl
  rw [port?, port?, search, search, same.ports]

theorem Conforms.of_sameShape (conforms : node.Conforms registry) (same : SameShape node changed) :
    changed.Conforms registry := by
  obtain ⟨definition, known, variant, inside, ports⟩ := conforms
  exact ⟨definition, same.definitionKey ▸ known, variant, inside, same.ports.trans ports⟩

/-- A node of a registered definition with the ports of its variant of an id. -/
def ShapedBy (registry : Registry) (node : Node) (id : String) : Prop :=
  ∃ definition variant, registry.node node.definitionKey = .ok definition ∧
    definition.variant? id = some variant ∧
    node.ports.map Port.signature = variant.parameters.map Parameter.signature

theorem ShapedBy.of_sameShape {id : String} (shaped : node.ShapedBy registry id)
    (same : SameShape node changed) : changed.ShapedBy registry id := by
  obtain ⟨definition, variant, known, chosen, ports⟩ := shaped
  exact ⟨definition, variant, same.definitionKey ▸ known, chosen, same.ports.trans ports⟩

theorem ShapedBy.conforms {id : String} (shaped : node.ShapedBy registry id) :
    node.Conforms registry := by
  obtain ⟨definition, variant, known, chosen, ports⟩ := shaped
  exact ⟨definition, known, variant, List.mem_of_find?_eq_some chosen, ports⟩

theorem ShapedBy.declares {id : String} (shaped : node.ShapedBy registry id) {port : Port}
    (inside : port ∈ node.ports) :
    ∃ definition variant parameter, registry.node node.definitionKey = .ok definition ∧
      definition.variant? id = some variant ∧ parameter ∈ variant.parameters ∧
      parameter.signature = port.signature := by
  obtain ⟨definition, variant, known, chosen, ports⟩ := shaped
  have declared : port.signature ∈ variant.parameters.map Parameter.signature :=
    ports ▸ List.mem_map_of_mem inside
  obtain ⟨parameter, member, same⟩ := List.mem_map.mp declared
  exact ⟨definition, variant, parameter, known, chosen, member, same⟩

theorem shapedBy_of_concretize {definition : Definition} {feeds : List Feed} {ports : List Port}
    (known : registry.node node.definitionKey = .ok definition)
    (concretized : concretize node definition feeds registry = .ok ports) :
    { node with ports }.ShapedBy registry node.selectedVariant := by
  obtain ⟨variant, selected, -⟩ := realizes_of_concretize concretized
  exact ⟨definition, variant, known, selected, signatures_of_concretize selected concretized⟩

theorem conforms_of_concretize {definition : Definition} {feeds : List Feed} {ports : List Port}
    (known : registry.node node.definitionKey = .ok definition)
    (concretized : concretize node definition feeds registry = .ok ports) :
    { node with ports }.Conforms registry :=
  (shapedBy_of_concretize known concretized).conforms

theorem Conforms.distinctPorts (valid : registry.Consistent) (conforms : node.Conforms registry) :
    (node.ports.map (·.name)).Nodup := by
  obtain ⟨definition, known, variant, inside, ports⟩ := conforms
  have names := congrArg (List.map (·.1)) ports
  simp only [List.map_map, Function.comp_def, Port.signature, Parameter.signature] at names
  rw [names]
  exact (valid.wellFormed _ _ (Registry.node_eq_ok.mp known)).distinctParameters variant inside

theorem name_of_port? {name : String} {port : Port} (found : node.port? name = some port) :
    port.name = name := by
  simpa using List.find?_some found

theorem port?_of_mem (distinct : (node.ports.map (·.name)).Nodup) {port : Port}
    (inside : port ∈ node.ports) : node.port? port.name = some port :=
  (Table.find?_key_eq_some distinct).mpr ⟨inside, rfl⟩

private theorem go_eq_ok (node : Node) {name : String} {change : Port → Except NodeError Port}
    {ports others : List Port} :
    changePort.go node name change ports = .ok others ↔
      ∃ before port after port', ports = before ++ port :: after ∧ (∀ other ∈ before, other.name ≠ name) ∧
        port.name = name ∧ change port = .ok port' ∧ others = before ++ port' :: after := by
  induction ports generalizing others with
  | nil => simp [changePort.go]
  | cons port rest ih =>
      simp only [changePort.go]
      split
      · rename_i same
        constructor
        · intro found
          cases changed : change port with
          | error error => simp [changed, Except.map] at found
          | ok port' =>
              simp only [changed, Except.map, Except.ok.injEq] at found
              exact ⟨[], port, rest, port', rfl, by simp, same, changed, found.symm⟩
        · rintro ⟨before, other, after, port', split, apart, named, changed, rfl⟩
          cases before with
          | nil =>
              cases split
              simp [changed, Except.map]
          | cons first before =>
              cases split
              exact absurd same (apart _ List.mem_cons_self)
      · rename_i different
        constructor
        · intro found
          cases later : changePort.go node name change rest with
          | error error => simp [later, Except.map] at found
          | ok rest' =>
              simp only [later, Except.map, Except.ok.injEq] at found
              obtain ⟨before, other, after, port', rfl, apart, named, changed, rfl⟩ := ih.mp later
              exact ⟨port :: before, other, after, port', rfl,
                List.forall_mem_cons.mpr ⟨different, apart⟩, named, changed, found.symm⟩
        · rintro ⟨before, other, after, port', split, apart, named, changed, rfl⟩
          cases before with
          | nil =>
              cases split
              exact absurd named different
          | cons first before =>
              cases split
              rw [ih.mpr ⟨before, other, after, port', rfl,
                fun other inside => apart other (List.mem_cons_of_mem _ inside), named, changed, rfl⟩]
              rfl

/-- A change of a port reaches the first one of the name and no other. -/
theorem changePort_eq_ok {name : String} {change : Port → Except NodeError Port} :
    node.changePort name change = .ok changed ↔
      ∃ before port after port', node.ports = before ++ port :: after ∧
        (∀ other ∈ before, other.name ≠ name) ∧ port.name = name ∧ change port = .ok port' ∧
        changed = { node with ports := before ++ port' :: after } := by
  simp only [changePort]
  cases found : changePort.go node name change node.ports with
  | error error =>
      simp only [Except.map, reduceCtorEq, false_iff]
      rintro ⟨before, port, after, port', split, apart, named, changed, -⟩
      have := (go_eq_ok node).mpr ⟨before, port, after, port', split, apart, named, changed, rfl⟩
      rw [found] at this
      cases this
  | ok ports =>
      simp only [Except.map, Except.ok.injEq]
      constructor
      · rintro rfl
        obtain ⟨before, port, after, port', split, apart, named, changed, rfl⟩ := (go_eq_ok node).mp found
        exact ⟨before, port, after, port', split, apart, named, changed, rfl⟩
      · rintro ⟨before, port, after, port', split, apart, named, changed, rfl⟩
        have := (go_eq_ok node).mpr ⟨before, port, after, port', split, apart, named, changed, rfl⟩
        rw [found] at this
        cases this
        rfl

/-- Two nodes of one shape that differ in the port of a name at most. -/
structure DiffersAt (name : String) (node other : Node) : Prop where
  shape : SameShape node other
  others : ∀ port ≠ name, other.port? port = node.port? port

theorem differsAt_of_changePort {name : String} {change : Port → Except NodeError Port}
    (kept : ∀ port port', change port = .ok port' → port'.signature = port.signature)
    (done : node.changePort name change = .ok changed) : DiffersAt name node changed := by
  obtain ⟨before, port, after, port', split, -, rfl, wrote, rfl⟩ := changePort_eq_ok.mp done
  have signature := kept port port' wrote
  refine ⟨⟨rfl, rfl, by simp [split, signature]⟩, fun other different => ?_⟩
  have name : port'.name = port.name := congrArg (·.1) signature
  simp only [Node.port?, split, List.find?_append, List.find?_cons, name, Ne.symm different,
    decide_false]

theorem differsAt_setPortField {port path : String} {value : Field}
    (done : node.setPortField port path value = .ok changed) : DiffersAt port node changed := by
  refine differsAt_of_changePort (fun target target' wrote => ?_) done
  cases written : target.field.set path value with
  | error error => simp [written] at wrote
  | ok field =>
      simp only [written, Except.ok.injEq] at wrote
      exact wrote ▸ rfl

theorem differsAt_setField {address : String} {value : Field}
    (done : node.setField address value = .ok changed) :
    ∃ target, Address.ofText? address = some target ∧ DiffersAt target.port node changed := by
  unfold setField at done
  split at done
  · rename_i target path written
    exact ⟨⟨target, path⟩, written, differsAt_setPortField done⟩
  · cases done

theorem differsAt_clearPin {port : String} (done : node.clearPin port = .ok changed) :
    DiffersAt port node changed :=
  differsAt_of_changePort (fun target target' wrote => by cases wrote; rfl) done

theorem sameShape_setField {address : String} {value : Field}
    (done : node.setField address value = .ok changed) : SameShape node changed := by
  obtain ⟨_, -, differs⟩ := differsAt_setField done
  exact differs.shape

theorem sameShape_selectVariant (node : Node) (id : String) :
    SameShape node (node.selectVariant id) :=
  ⟨rfl, rfl, rfl⟩

end Node

namespace Graph

variable {graph next : Graph} {name : String}

/-- What holds of every graph made by edits over a registry. -/
structure Consistent (registry : Registry) (graph : Graph) : Prop where
  distinctNames : graph.names.Nodup
  conforms : ∀ node ∈ graph.nodes, node.Conforms registry
  distinctTargets : (graph.edges.map Edge.target).Nodup
  sourceExists : ∀ edge ∈ graph.edges, edge.fromNode ∈ graph.names
  targetExists : ∀ edge ∈ graph.edges, edge.toNode ∈ graph.names
  noLoop : ∀ edge ∈ graph.edges, edge.fromNode ≠ edge.toNode

theorem name_of_node? {node : Node} (found : graph.node? name = some node) : node.name = name := by
  simpa using List.find?_some found

theorem mem_of_node? {node : Node} (found : graph.node? name = some node) : node ∈ graph.nodes :=
  List.mem_of_find?_eq_some found

theorem node?_eq_none : graph.node? name = none ↔ name ∉ graph.names := by
  simp [node?, names]

theorem node?_of_mem (distinct : graph.names.Nodup) {node : Node} (inside : node ∈ graph.nodes) :
    graph.node? node.name = some node :=
  (Table.find?_key_eq_some distinct).mpr ⟨inside, rfl⟩

theorem node?_isSome : (∃ node, graph.node? name = some node) ↔ name ∈ graph.names := by
  rw [← Option.ne_none_iff_exists', ne_eq, node?_eq_none, Decidable.not_not]

@[simp] theorem names_replaceNode (graph : Graph) (node : Node) :
    (graph.replaceNode node).names = graph.names := by
  simp only [names, replaceNode, List.map_map]
  refine List.map_congr_left fun other inside => ?_
  simp only [Function.comp_apply]
  split
  · rename_i same
    exact same.symm
  · rfl

theorem node?_replaceNode (graph : Graph) (node : Node) (name : String) :
    (graph.replaceNode node).node? name =
      (graph.node? name).map fun other => if other.name = node.name then node else other := by
  simp only [node?, replaceNode, List.find?_map]
  congr 2
  funext other
  simp only [Function.comp_apply]
  split
  · rename_i same
    rw [same]
  · rfl

/-! ## What successful operations do -/

/-- The graph with a further node at the end. -/
def withNode (graph : Graph) (node : Node) : Graph :=
  { graph with nodes := graph.nodes ++ [node] }

@[simp] theorem edges_withNode (graph : Graph) (node : Node) :
    (graph.withNode node).edges = graph.edges := rfl

@[simp] theorem names_withNode (graph : Graph) (node : Node) :
    (graph.withNode node).names = graph.names ++ [node.name] := by
  simp [withNode, names]

theorem node?_withNode (node : Node) (fresh : node.name ∉ graph.names) :
    (graph.withNode node).node? node.name = some node := by
  have absent := node?_eq_none.mpr fresh
  unfold node? at absent ⊢
  simp [withNode, List.find?_append, absent]

theorem replaceNode_withNode (node changed : Node) (fresh : node.name ∉ graph.names)
    (same : changed.name = node.name) :
    (graph.withNode node).replaceNode changed = graph.withNode changed := by
  have kept : graph.nodes.map (fun other => if other.name = node.name then changed else other) =
      graph.nodes := by
    refine (List.map_congr_left fun other inside => if_neg fun equal => fresh ?_).trans (List.map_id _)
    exact equal ▸ List.mem_map_of_mem inside
  simp only [withNode, replaceNode, List.map_append, kept, List.map_cons, List.map_nil, same, if_true]

theorem addNode_eq_ok {key : Key} :
    graph.addNode key name registry = .ok next ↔
      ∃ definition ports, name ∉ graph.names ∧ registry.node key = .ok definition ∧
        concretize (.fresh name definition) definition [] registry = .ok ports ∧
        next = graph.withNode { Node.fresh name definition with ports } := by
  unfold addNode
  cases found : graph.node? name with
  | some node =>
      have taken : name ∈ graph.names := node?_isSome.mp ⟨node, found⟩
      simp [taken]
  | none =>
      have unused : name ∉ graph.names := node?_eq_none.mp found
      cases known : registry.node key with
      | error error => simp
      | ok definition =>
          cases concretized : concretize (.fresh name definition) definition [] registry with
          | error error => simp [concretized]
          | ok ports => simp [unused, concretized, withNode, eq_comm]

theorem removeNode_eq_ok {removed : Node} (done : graph.removeNode name = .ok (next, removed)) :
    next = { graph with
      nodes := graph.nodes.eraseP (·.name = name)
      edges := graph.edges.filter (!·.involves name) } := by
  unfold removeNode at done
  cases found : graph.node? name with
  | none => simp [found] at done
  | some node =>
      simp only [found, Except.ok.injEq, Prod.mk.injEq] at done
      exact done.1.symm

theorem changeNode_eq_ok {change : Node → Except NodeError Node} :
    graph.changeNode name change = .ok next ↔
      ∃ node changed, graph.node? name = some node ∧ change node = .ok changed ∧
        next = graph.replaceNode changed := by
  unfold changeNode
  cases found : graph.node? name with
  | none => simp
  | some node =>
      cases done : change node with
      | error error => simp [done]
      | ok changed => simp [done, eq_comm]

theorem reconcretize_eq_ok :
    graph.reconcretize name registry = .ok next ↔
      ∃ node definition ports, graph.node? name = some node ∧
        registry.node node.definitionKey = .ok definition ∧
        concretize node definition (graph.feeds name) registry = .ok ports ∧
        next = graph.replaceNode { node with ports } := by
  unfold reconcretize
  cases found : graph.node? name with
  | none => simp
  | some node =>
      cases known : registry.node node.definitionKey with
      | error error => simp [known]
      | ok definition =>
          cases concretized : concretize node definition (graph.feeds name) registry with
          | error error => simp [known, concretized]
          | ok ports => simp [known, concretized, eq_comm]

/-- The edge leads from an existing output to an existing input of a type that takes
the type of the output. -/
def Joins (registry : Registry) (graph : Graph) (edge : Edge) : Prop :=
  ∃ source target sourceType targetType,
    graph.port? edge.source = some source ∧ graph.port? edge.target = some target ∧
    source.usage = .output ∧ target.usage = .input ∧
    registry.type source.typeKey = .ok sourceType ∧ registry.type target.typeKey = .ok targetType ∧
    targetType.accepts sourceType = true

theorem Joins.congr {other : Graph} {edge : Edge} (joins : graph.Joins registry edge)
    (signatures : ∀ ref ∈ [edge.source, edge.target],
      (graph.port? ref).map Port.signature = (other.port? ref).map Port.signature) :
    other.Joins registry edge := by
  obtain ⟨source, target, sourceType, targetType, from_, to_, output, input, sourceKnown,
    targetKnown, accepts⟩ := joins
  have partner : ∀ ref ∈ [edge.source, edge.target], ∀ port, graph.port? ref = some port →
      ∃ port', other.port? ref = some port' ∧ port'.signature = port.signature := by
    intro ref inside port found
    have same := signatures ref inside
    rw [found] at same
    exact Option.map_eq_some_iff.mp same.symm
  obtain ⟨source', from', sourceSame⟩ := partner edge.source (by simp) source from_
  obtain ⟨target', to', targetSame⟩ := partner edge.target (by simp) target to_
  simp only [Port.signature, Prod.mk.injEq] at sourceSame targetSame
  refine ⟨source', target', sourceType, targetType, from', to', ?_, ?_, ?_, ?_, accepts⟩
  · exact sourceSame.2.2.trans output
  · exact targetSame.2.2.trans input
  · exact sourceSame.2.1 ▸ sourceKnown
  · exact targetSame.2.1 ▸ targetKnown

theorem Joins.exists_source {edge : Edge} (joins : graph.Joins registry edge) :
    ∃ source, graph.port? edge.source = some source := by
  obtain ⟨source, -, -, -, found, -⟩ := joins
  exact ⟨source, found⟩

theorem connectionPort_eq_ok {ref : PortRef} {port : Port} :
    graph.connectionPort ref = .ok port ↔ graph.port? ref = some port := by
  unfold connectionPort port?
  cases graph.node? ref.node with
  | none => simp
  | some node =>
      simp only [Option.bind_some]
      cases node.port? ref.port <;> simp

theorem checkConnection_eq_ok {edge : Edge} :
    graph.checkConnection edge registry = .ok () ↔
      graph.Joins registry edge ∧ edge.fromNode ≠ edge.toNode := by
  have usages : ∀ source target : Usage,
      source.canFeed target = true ↔ source = .output ∧ target = .input := by
    simp [Usage.canFeed]
  simp only [checkConnection, Outcome.throw_bind, Outcome.bind_eq_ok, Outcome.mapError_eq_ok,
    Outcome.demand_eq_ok, Outcome.refuse_eq_ok, Outcome.pure_eq_ok, connectionPort_eq_ok, usages]
  constructor
  · rintro ⟨source, from_, target, to_, ⟨output, input⟩, sourceType, sourceKnown, targetType,
      targetKnown, accepts, different, -⟩
    exact ⟨⟨source, target, sourceType, targetType, from_, to_, output, input, sourceKnown,
      targetKnown, accepts⟩, different⟩
  · rintro ⟨⟨source, target, sourceType, targetType, from_, to_, output, input, sourceKnown,
      targetKnown, accepts⟩, different⟩
    exact ⟨source, from_, target, to_, ⟨output, input⟩, sourceType, sourceKnown, targetType,
      targetKnown, accepts, different, trivial⟩

theorem joins_of_checkConnection
    (checked : ∀ edge ∈ graph.edges, graph.checkConnection edge registry = .ok ()) :
    ∀ edge ∈ graph.edges, graph.Joins registry edge :=
  fun edge inside => (checkConnection_eq_ok.mp (checked edge inside)).1

theorem incoming?_eq_some (distinct : (graph.edges.map Edge.target).Nodup) {node port : String}
    {edge : Edge} :
    graph.incoming? node port = some edge ↔ edge ∈ graph.edges ∧ edge.target = ⟨node, port⟩ := by
  simp only [incoming?, Edge.targets_eq]
  exact Table.find?_key_eq_some distinct

theorem incoming?_eq_none {node port : String} :
    graph.incoming? node port = none ↔ (⟨node, port⟩ : PortRef) ∉ graph.edges.map Edge.target := by
  simp [incoming?, Edge.targets_eq]

/-- The edges that stay when an edge is connected. -/
def edgesBeside (graph : Graph) (edge : Edge) : List Edge :=
  match graph.incoming? edge.toNode edge.toPort with
  | some previous => graph.edges.erase previous
  | none => graph.edges

theorem edgesBeside_sublist (graph : Graph) (edge : Edge) :
    (graph.edgesBeside edge).Sublist graph.edges := by
  unfold edgesBeside
  split
  · exact List.erase_sublist
  · exact List.Sublist.refl _

theorem edgesBeside_eq_filter (distinct : (graph.edges.map Edge.target).Nodup) (edge : Edge) :
    graph.edgesBeside edge = graph.edges.filter (·.target ≠ edge.target) := by
  unfold edgesBeside
  cases found : graph.incoming? edge.toNode edge.toPort with
  | none =>
      refine (List.filter_eq_self.mpr fun other inside => ?_).symm
      rw [decide_eq_true_eq]
      exact fun same => incoming?_eq_none.mp found (List.mem_map.mpr ⟨other, inside, same⟩)
  | some previous =>
      obtain ⟨inside, target⟩ := (incoming?_eq_some distinct).mp found
      have nodup : graph.edges.Nodup := .of_map _ distinct
      simp only
      rw [nodup.erase_eq_filter]
      refine List.filter_congr fun other member => ?_
      have same : other.target = edge.target ↔ other = previous :=
        ⟨fun same => List.inj_on_of_nodup_map distinct member inside (same.trans target.symm),
          fun same => same ▸ target⟩
      simp only [bne, decide_not, same, beq_eq_decide]

theorem target_ne_of_mem_edgesBeside (distinct : (graph.edges.map Edge.target).Nodup)
    {edge other : Edge} (inside : other ∈ graph.edgesBeside edge) : other.target ≠ edge.target := by
  rw [edgesBeside_eq_filter distinct] at inside
  simpa using (List.mem_filter.mp inside).2

theorem connect_eq_ok {edge : Edge} {replaced : Option Edge}
    (distinct : (graph.edges.map Edge.target).Nodup) :
    graph.connect edge registry = .ok (next, replaced) ↔
      (graph.Joins registry edge ∧ edge.fromNode ≠ edge.toNode) ∧
      replaced = graph.incoming? edge.toNode edge.toPort ∧
      next = { graph with edges := graph.edgesBeside edge ++ [edge] } := by
  have added : Table.addNew (graph.edgesBeside edge) edge = graph.edgesBeside edge ++ [edge] :=
    Table.addNew_of_not_mem fun inside => target_ne_of_mem_edgesBeside distinct inside rfl
  have unfolded : graph.connect edge registry = (graph.checkConnection edge registry >>= fun _ =>
      pure ({ graph with edges := Table.addNew (graph.edgesBeside edge) edge },
        graph.incoming? edge.toNode edge.toPort)) := rfl
  rw [unfolded, added, Outcome.bind_eq_ok, ← checkConnection_eq_ok]
  simp only [Outcome.pure_eq_ok, Prod.mk.injEq]
  constructor
  · rintro ⟨⟨⟩, checked, rfl, rfl⟩
    exact ⟨checked, rfl, rfl⟩
  · rintro ⟨checked, rfl, rfl⟩
    exact ⟨(), checked, rfl, rfl⟩

theorem deleteEdges_sublist (graph : Graph) (edges : List Edge) :
    (graph.deleteEdges edges).1.nodes = graph.nodes ∧
      (graph.deleteEdges edges).1.edges.Sublist graph.edges := by
  have run : ∀ removal, (deleteEdges.go graph removal edges).1.nodes = graph.nodes ∧
      (deleteEdges.go graph removal edges).1.edges.Sublist graph.edges := by
    induction edges generalizing graph with
    | nil => exact fun _ => ⟨rfl, List.Sublist.refl _⟩
    | cons edge rest ih =>
        intro removal
        simp only [deleteEdges.go]
        split
        · obtain ⟨nodes, edges⟩ := ih { graph with edges := graph.edges.erase edge } _
          exact ⟨nodes, edges.trans List.erase_sublist⟩
        · exact ih graph removal
  exact run ⟨[], []⟩

/-! ## Consistency along edits -/

theorem consistent_empty (registry : Registry) (name : String) : (empty name).Consistent registry := by
  constructor <;> simp [empty, names]

namespace Consistent

theorem addNode (consistent : graph.Consistent registry) (valid : registry.Consistent) {key : Key}
    (added : graph.addNode key name registry = .ok next) : next.Consistent registry := by
  obtain ⟨definition, ports, unused, known, concretized, rfl⟩ := addNode_eq_ok.mp added
  have keyed : definition.key = key := valid.nodeKeyed key definition (Registry.node_eq_ok.mp known)
  have conforms : { Node.fresh name definition with ports }.Conforms registry :=
    Node.conforms_of_concretize (by rw [Node.fresh, keyed, known]) concretized
  have grown : ∀ other ∈ graph.names,
      other ∈ (graph.withNode { Node.fresh name definition with ports }).names := fun other inside => by
    rw [names_withNode]
    exact List.mem_append_left _ inside
  refine ⟨?_, ?_, consistent.distinctTargets, ?_, ?_, consistent.noLoop⟩
  · rw [names_withNode]
    exact List.nodup_append.mpr ⟨consistent.distinctNames, List.nodup_singleton _,
      fun a inside b last same => unused (by
        rw [List.mem_singleton] at last
        exact (show a = name from same.trans last) ▸ inside)⟩
  · intro node inside
    rcases List.mem_append.mp inside with inside | last
    · exact consistent.conforms node inside
    · exact List.mem_singleton.mp last ▸ conforms
  · exact fun edge inside => grown _ (consistent.sourceExists edge inside)
  · exact fun edge inside => grown _ (consistent.targetExists edge inside)

theorem removeNode (consistent : graph.Consistent registry) {removed : Node}
    (done : graph.removeNode name = .ok (next, removed)) : next.Consistent registry := by
  rw [removeNode_eq_ok done]
  have nodes : (graph.nodes.eraseP (·.name = name)).Sublist graph.nodes := List.eraseP_sublist
  have edges : (graph.edges.filter (!·.involves name)).Sublist graph.edges := List.filter_sublist
  have kept : ∀ other ∈ graph.names, other ≠ name →
      other ∈ (graph.nodes.eraseP (·.name = name)).map (·.name) := by
    intro other inside different
    obtain ⟨node, member, rfl⟩ := List.mem_map.mp inside
    exact List.mem_map_of_mem ((List.mem_eraseP_of_neg (by simpa using different)).mpr member)
  have apart : ∀ edge ∈ graph.edges.filter (!·.involves name),
      edge.fromNode ≠ name ∧ edge.toNode ≠ name := by
    intro edge inside
    simpa [Edge.involves] using (List.mem_filter.mp inside).2
  refine ⟨consistent.distinctNames.sublist (nodes.map _), ?_,
    consistent.distinctTargets.sublist (edges.map _), ?_, ?_, ?_⟩
  · exact fun node inside => consistent.conforms node (nodes.subset inside)
  · exact fun edge inside =>
      kept _ (consistent.sourceExists edge (edges.subset inside)) (apart edge inside).1
  · exact fun edge inside =>
      kept _ (consistent.targetExists edge (edges.subset inside)) (apart edge inside).2
  · exact fun edge inside => consistent.noLoop edge (edges.subset inside)

theorem connect (consistent : graph.Consistent registry) {edge : Edge} {replaced : Option Edge}
    (connected : graph.connect edge registry = .ok (next, replaced)) : next.Consistent registry := by
  obtain ⟨⟨joins, different⟩, -, rfl⟩ := (connect_eq_ok consistent.distinctTargets).mp connected
  obtain ⟨source, target, -, -, sourceFound, targetFound, -⟩ := joins
  have others := edgesBeside_sublist graph edge
  have exists_of_port : ∀ {ref port}, graph.port? ref = some port → ref.node ∈ graph.names := by
    intro ref port found
    obtain ⟨node, found, -⟩ := Option.bind_eq_some_iff.mp found
    exact node?_isSome.mp ⟨node, found⟩
  refine ⟨consistent.distinctNames, consistent.conforms, ?_, ?_, ?_, ?_⟩
  · rw [List.map_append, List.map_cons, List.map_nil]
    refine List.nodup_append.mpr ⟨consistent.distinctTargets.sublist (others.map _),
      List.nodup_singleton _, fun a inside b last => ?_⟩
    obtain ⟨other, beside, rfl⟩ := List.mem_map.mp inside
    rw [List.mem_singleton] at last
    exact last ▸ target_ne_of_mem_edgesBeside consistent.distinctTargets beside
  all_goals
    intro other inside
    rcases List.mem_append.mp inside with inside | last
  · exact consistent.sourceExists other (others.subset inside)
  · exact List.mem_singleton.mp last ▸ exists_of_port sourceFound
  · exact consistent.targetExists other (others.subset inside)
  · exact List.mem_singleton.mp last ▸ exists_of_port targetFound
  · exact consistent.noLoop other (others.subset inside)
  · exact List.mem_singleton.mp last ▸ different

theorem deleteEdges (consistent : graph.Consistent registry) (edges : List Edge) :
    (graph.deleteEdges edges).1.Consistent registry := by
  obtain ⟨nodes, fewer⟩ := deleteEdges_sublist graph edges
  refine ⟨?_, nodes ▸ consistent.conforms, consistent.distinctTargets.sublist (fewer.map _), ?_, ?_,
    fun edge inside => consistent.noLoop edge (fewer.subset inside)⟩
  all_goals simp only [names, nodes]
  · exact consistent.distinctNames
  · exact fun edge inside => consistent.sourceExists edge (fewer.subset inside)
  · exact fun edge inside => consistent.targetExists edge (fewer.subset inside)

theorem replaceNode (consistent : graph.Consistent registry) {node : Node}
    (conforms : node.Conforms registry) : (graph.replaceNode node).Consistent registry := by
  refine ⟨?_, ?_, consistent.distinctTargets, ?_, ?_, consistent.noLoop⟩
  · exact (names_replaceNode graph node).symm ▸ consistent.distinctNames
  · intro other inside
    obtain ⟨former, member, rfl⟩ := List.mem_map.mp inside
    split
    · exact conforms
    · exact consistent.conforms former member
  · exact (names_replaceNode graph node).symm ▸ consistent.sourceExists
  · exact (names_replaceNode graph node).symm ▸ consistent.targetExists

theorem changeNode (consistent : graph.Consistent registry)
    {change : Node → Except NodeError Node}
    (kept : ∀ node changed, change node = .ok changed → node.SameShape changed)
    (done : graph.changeNode name change = .ok next) : next.Consistent registry := by
  obtain ⟨node, changed, found, made, rfl⟩ := changeNode_eq_ok.mp done
  exact consistent.replaceNode
    ((consistent.conforms node (mem_of_node? found)).of_sameShape (kept node changed made))

theorem reconcretize (consistent : graph.Consistent registry)
    (done : graph.reconcretize name registry = .ok next) : next.Consistent registry := by
  obtain ⟨node, definition, ports, -, known, concretized, rfl⟩ := reconcretize_eq_ok.mp done
  exact consistent.replaceNode (Node.conforms_of_concretize known concretized)

end Consistent

theorem reconcretizeEach_invariant {invariant : Graph → Prop}
    (step : ∀ graph next name, invariant graph → graph.reconcretize name registry = .ok next →
      invariant next) (holds : invariant graph) (names : List String) :
    invariant (reconcretizeEach registry graph names).1 := by
  induction names generalizing graph with
  | nil => exact holds
  | cons name rest ih =>
      simp only [reconcretizeEach]
      cases done : graph.reconcretize name registry with
      | ok next => exact ih (step graph next name holds done)
      | error error => exact holds

theorem attempt_invariant {invariant : Graph → Prop} {outcome : Except GraphError Graph}
    (holds : invariant graph) (step : ∀ next, outcome = .ok next → invariant next) :
    invariant (graph.attempt outcome).1 := by
  cases outcome with
  | ok next => exact step next rfl
  | error error => exact holds

theorem Consistent.reconcretizeAll (consistent : graph.Consistent registry) :
    (graph.reconcretizeAll registry).1.Consistent registry := by
  unfold Graph.reconcretizeAll
  split
  · exact consistent
  · exact reconcretizeEach_invariant (fun _ _ _ => Consistent.reconcretize) consistent _

theorem Consistent.apply (consistent : graph.Consistent registry) (valid : registry.Consistent)
    (edit : Edit) : (graph.apply registry edit).1.Consistent registry := by
  cases edit with
  | addNode key name => exact attempt_invariant consistent fun _ => consistent.addNode valid
  | removeNode name =>
      refine attempt_invariant consistent fun next done => ?_
      obtain ⟨⟨next, removed⟩, taken, rfl⟩ := Outcome.map_eq_ok.mp done
      exact consistent.removeNode taken
  | connect edge =>
      simp only [Graph.apply]
      cases connected : graph.connect edge registry with
      | ok result => exact consistent.connect connected
      | error error => exact consistent
  | deleteEdges edges => exact consistent.deleteEdges edges
  | setPortField node port path value =>
      exact attempt_invariant consistent fun _ =>
        consistent.changeNode fun _ _ done => (Node.differsAt_setPortField done).shape
  | setField node address value =>
      exact attempt_invariant consistent fun _ =>
        consistent.changeNode fun _ _ => Node.sameShape_setField
  | clearPin node port =>
      exact attempt_invariant consistent fun _ =>
        consistent.changeNode fun _ _ done => (Node.differsAt_clearPin done).shape
  | selectVariant node id =>
      refine attempt_invariant consistent fun _ => consistent.changeNode fun found changed done => ?_
      cases done
      exact Node.sameShape_selectVariant found id
  | reconcretize node => exact attempt_invariant consistent fun _ => consistent.reconcretize
  | reconcretizeAll => exact consistent.reconcretizeAll

theorem Consistent.applyAll (consistent : graph.Consistent registry) (valid : registry.Consistent)
    (edits : List Edit) : (graph.applyAll registry edits).Consistent registry := by
  induction edits generalizing graph with
  | nil => exact consistent
  | cons edit rest ih => exact ih (consistent.apply valid edit)

/-- Every graph made by edits is consistent, failing edits included. -/
theorem consistent_ofHistory (valid : registry.Consistent) (name : String) (edits : List Edit) :
    (ofHistory registry name edits).Consistent registry :=
  (consistent_empty registry name).applyAll valid edits

end Graph

end ShadingGraph
