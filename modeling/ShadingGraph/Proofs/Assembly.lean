import Mathlib.Data.List.Nodup
import ShadingGraph.Assembly.Basic
import ShadingGraph.Proofs.Feeding

/-! # Declarations of an assembled graph

Each port is declared in the fragment of its node, and fragments stand in dependency
order. A connected input is initialized with the identifier of its source even where
the source port is gone or the input is pinned. Apart from these two cases, what an
initializer names is declared before, and it is the value that concretization takes.
-/

namespace ShadingGraph

variable {registry : Registry} {settings : AssemblySettings} {graph : Graph}

/-- What a graph declares for a port of a node. -/
structure Port.DeclaredAs (settings : AssemblySettings) (registry : Registry) (graph : Graph)
    (node : String) (port : Port) (declaration : Declaration) : Prop where
  identifier : declaration.identifier = portIdentifier settings node port.name
  linked : port.usage = .input → ∀ edge, graph.incoming? node port.name = some edge →
    declaration.initializer = some (portIdentifier settings edge.fromNode edge.fromPort)
  plain : (port.usage = .input → graph.incoming? node port.name = none) →
    ∃ type, registry.type port.typeKey = .ok type ∧
      declaration.initializer = if port.usage.hasInlineValue then type.literal? port.field else none

/-- The fragment of a node within a graph. -/
structure Node.AssembledAs (settings : AssemblySettings) (registry : Registry) (graph : Graph)
    (node : Node) (fragment : Fragment) : Prop where
  name : fragment.node = node.name
  declarations :
    List.Forall₂ (Port.DeclaredAs settings registry graph node.name) node.ports fragment.declarations

/-- Identifiers of the ports of a node, each with the port that takes it. -/
def Node.identifiers (settings : AssemblySettings) (node : Node) : Assembly.TakenNames :=
  node.ports.map fun port => (portIdentifier settings node.name port.name, ⟨node.name, port.name⟩)

/-- A fragment with the initializers of the connected inputs of its node. -/
def Fragment.linkedIn (settings : AssemblySettings) (graph : Graph) (node : Node)
    (fragment : Fragment) : Fragment :=
  { fragment with
    declarations :=
      List.zipWith (Assembly.link settings graph node.name) node.ports fragment.declarations }

namespace Assembly

theorem declaredAs_link {node : String} {port : Port} {declaration : Declaration}
    (declared : declare settings registry node port = .ok declaration) :
    port.DeclaredAs settings registry graph node (link settings graph node port declaration) := by
  obtain ⟨type, known, made⟩ := Outcome.bind_eq_ok.mp declared
  cases Outcome.pure_eq_ok.mp made
  unfold link
  by_cases input : port.usage = .input
  · rw [if_pos input]
    cases incoming : graph.incoming? node port.name with
    | none =>
        refine ⟨rfl, fun _ edge found => ?_, fun _ => ⟨type, known, rfl⟩⟩
        cases incoming.symm.trans found
    | some edge =>
        refine ⟨rfl, fun _ other found => ?_, fun unfed => ?_⟩
        · cases incoming.symm.trans found
          rfl
        · cases incoming.symm.trans (unfed input)
  · rw [if_neg input]
    exact ⟨rfl, fun asInput => absurd asInput input, fun _ => ⟨type, known, rfl⟩⟩

theorem declareAll_eq_ok {node : String} {ports : List Port} {declarations : List Declaration}
    (declared : declareAll settings registry node ports = .ok declarations) :
    List.Forall₂ (fun port declaration => declare settings registry node port = .ok declaration)
      ports declarations := by
  induction ports generalizing declarations with
  | nil =>
      cases declared
      exact .nil
  | cons port rest ih =>
      obtain ⟨declaration, first, remaining⟩ := Outcome.bind_eq_ok.mp declared
      obtain ⟨others, later, made⟩ := Outcome.bind_eq_ok.mp remaining
      cases Outcome.pure_eq_ok.mp made
      exact .cons first (ih later)

theorem assemble_eq_ok {node : Node} {fragment : Fragment}
    (assembled : assemble settings registry node = .ok fragment) :
    fragment.node = node.name ∧
      declareAll settings registry node.name node.ports = .ok fragment.declarations := by
  obtain ⟨definition, -, chosen⟩ := Outcome.bind_eq_ok.mp assembled
  cases selected : definition.variant? node.selectedVariant with
  | none =>
      rw [selected] at chosen
      cases chosen
  | some variant =>
      rw [selected] at chosen
      obtain ⟨declarations, declared, remaining⟩ := Outcome.bind_eq_ok.mp chosen
      obtain ⟨body, -, made⟩ := Outcome.bind_eq_ok.mp remaining
      cases Outcome.pure_eq_ok.mp made
      exact ⟨rfl, Outcome.mapError_eq_ok.mp declared⟩

theorem assembledAs_linkedIn {node : Node} {fragment : Fragment}
    (assembled : assemble settings registry node = .ok fragment) :
    node.AssembledAs settings registry graph (fragment.linkedIn settings graph node) := by
  obtain ⟨name, declared⟩ := assemble_eq_ok assembled
  exact ⟨name, (declareAll_eq_ok declared).zipWith fun _ _ => declaredAs_link⟩

variable {taken taken' : TakenNames}

theorem takeNames_eq_ok {node : Node} (distinct : (Table.keys taken).Nodup) :
    takeNames settings node.name taken node.ports = .ok taken' ↔
      taken' = taken ++ node.identifiers settings ∧ (Table.keys taken').Nodup := by
  unfold Node.identifiers
  generalize node.name = name
  induction node.ports generalizing taken with
  | nil =>
      simp only [takeNames, Except.ok.injEq, List.map_nil, List.append_nil, eq_comm (a := taken)]
      exact ⟨fun same => ⟨same, same ▸ distinct⟩, And.left⟩
  | cons port rest ih =>
      simp only [takeNames]
      cases found : Table.find? taken (portIdentifier settings name port.name) with
      | some first =>
          simp only [reduceCtorEq, List.map_cons, false_iff, not_and]
          rintro rfl
          have inside : portIdentifier settings name port.name ∈ Table.keys taken :=
            List.mem_map_of_mem (f := (·.1)) (Table.mem_of_find?_eq_some found)
          simp only [Table.keys, List.map_append, List.map_cons] at inside ⊢
          exact fun nodup => (List.nodup_append.mp nodup).2.2 _ inside _ List.mem_cons_self rfl
      | none =>
          have fresh := Table.find?_eq_none.mp found
          have distinct' : (Table.keys
              (taken ++ [(portIdentifier settings name port.name, ⟨name, port.name⟩)])).Nodup := by
            rw [Table.keys, List.map_append, List.map_singleton, ← List.concat_eq_append]
            exact distinct.concat fresh
          simp only [ih distinct', List.append_assoc, List.map_cons, List.cons_append, List.nil_append]

/-- Each node is assembled by itself and its identifiers are new. -/
theorem assembleEach_eq_ok_iff {names : List String} {fragments : List Fragment}
    (distinct : (Table.keys taken).Nodup) :
    assembleEach settings registry graph taken names = .ok fragments ↔
      List.Forall₂ (fun node fragment => ∃ own, assemble settings registry node = .ok own ∧
        fragment = own.linkedIn settings graph node) (names.filterMap graph.node?) fragments ∧
      (Table.keys (taken ++ (names.filterMap graph.node?).flatMap (·.identifiers settings))).Nodup := by
  induction names generalizing taken fragments with
  | nil =>
      simp only [assembleEach, Except.ok.injEq, List.filterMap_nil, List.forall₂_nil_left_iff,
        List.flatMap_nil, List.append_nil, distinct, and_true, eq_comm]
  | cons name rest ih =>
      simp only [assembleEach]
      cases found : graph.node? name with
      | none => simp only [List.filterMap_cons_none found, ih distinct]
      | some node =>
          simp only [List.filterMap_cons_some found, List.forall₂_cons_left_iff, List.flatMap_cons,
            Outcome.bind_eq_ok, Outcome.pure_eq_ok, takeNames_eq_ok distinct, ← List.append_assoc]
          constructor
          · rintro ⟨own, assembled, -, ⟨rfl, distinct'⟩, fragments, remaining, rfl⟩
            obtain ⟨paired, all⟩ := (ih distinct').mp remaining
            exact ⟨⟨_, fragments, ⟨own, assembled, rfl⟩, paired, rfl⟩, all⟩
          · rintro ⟨⟨_, fragments, ⟨own, assembled, rfl⟩, paired, rfl⟩, all⟩
            have distinct' : (Table.keys (taken ++ node.identifiers settings)).Nodup := by
              rw [Table.keys, List.map_append] at all
              exact (List.nodup_append.mp all).1
            exact ⟨own, assembled, _, ⟨rfl, distinct'⟩, fragments, (ih distinct').mpr ⟨paired, all⟩, rfl⟩

theorem assembleGraph_eq_ok {fragments : List Fragment}
    (assembled : assembleGraph settings registry graph = .ok fragments) :
    ∃ names, graph.order? = some names ∧
      List.Forall₂ (Node.AssembledAs settings registry graph) (names.filterMap graph.node?) fragments := by
  unfold assembleGraph at assembled
  cases order : graph.order? with
  | none =>
      rw [order] at assembled
      cases assembled
  | some names =>
      rw [order] at assembled
      have none : (Table.keys ([] : TakenNames)).Nodup := List.nodup_nil
      refine ⟨names, rfl, ((assembleEach_eq_ok_iff none).mp assembled).1.imp ?_⟩
      rintro node fragment ⟨own, alone, rfl⟩
      exact assembledAs_linkedIn alone

end Assembly

def Declares (fragments : List Fragment) (identifier : String) : Prop :=
  ∃ fragment ∈ fragments, ∃ declaration ∈ fragment.declarations, declaration.identifier = identifier

instance (fragments : List Fragment) (identifier : String) :
    Decidable (Declares fragments identifier) :=
  inferInstanceAs (Decidable (∃ fragment ∈ fragments, _))

theorem declares_iff {nodes : List Node} {fragments : List Fragment} {identifier : String}
    (paired : List.Forall₂ (Node.AssembledAs settings registry graph) nodes fragments) :
    Declares fragments identifier ↔
      ∃ node ∈ nodes, ∃ port ∈ node.ports, portIdentifier settings node.name port.name = identifier := by
  constructor
  · rintro ⟨fragment, inside, declaration, declared, rfl⟩
    obtain ⟨node, member, assembled⟩ := paired.exists_mem_left inside
    obtain ⟨port, among, declaredAs⟩ := assembled.declarations.exists_mem_left declared
    exact ⟨node, member, port, among, declaredAs.identifier.symm⟩
  · rintro ⟨node, member, port, among, rfl⟩
    obtain ⟨fragment, inside, assembled⟩ := paired.exists_mem_right member
    obtain ⟨declaration, declared, declaredAs⟩ := assembled.declarations.exists_mem_right among
    exact ⟨fragment, inside, declaration, declared, declaredAs.identifier⟩

/-- Every initializer that is taken from an edge is declared in an earlier fragment. -/
def LinksDeclared (graph : Graph) (fragments : List Fragment) : Prop :=
  ∀ before fragment after, fragments = before ++ fragment :: after →
    ∀ node, graph.node? fragment.node = some node →
      ∀ (k : Nat) (port : Port), node.ports[k]? = some port → port.usage = .input →
        ∀ edge, graph.incoming? node.name port.name = some edge →
          ∃ declaration identifier, fragment.declarations[k]? = some declaration ∧
            declaration.initializer = some identifier ∧ Declares before identifier

namespace Graph

/-- Another port, of a node before the target of the edge, has the identifier that the
edge stands for. -/
def Shadowed (settings : AssemblySettings) (graph : Graph) (edge : Edge) : Prop :=
  ∃ before after, graph.order? = some (before ++ edge.toNode :: after) ∧
    ∃ node ∈ before.filterMap graph.node?, ∃ port ∈ node.ports,
      (⟨node.name, port.name⟩ : PortRef) ≠ edge.source ∧
        portIdentifier settings node.name port.name =
          portIdentifier settings edge.fromNode edge.fromPort

theorem exists_fragment {names : List String} {fragments : List Fragment}
    (paired : List.Forall₂ (Node.AssembledAs settings registry graph) (names.filterMap graph.node?)
      fragments) {node : Node} (found : graph.node? node.name = some node) (listed : node.name ∈ names) :
    ∃ earlier later before fragment after, names = earlier ++ node.name :: later ∧
      fragments = before ++ fragment :: after ∧ node.AssembledAs settings registry graph fragment ∧
      List.Forall₂ (Node.AssembledAs settings registry graph) (earlier.filterMap graph.node?) before := by
  obtain ⟨earlier, later, rfl⟩ := List.append_of_mem listed
  have split : (earlier ++ node.name :: later).filterMap graph.node? =
      earlier.filterMap graph.node? ++ node :: later.filterMap graph.node? := by
    rw [List.filterMap_append, List.filterMap_cons_some found]
  obtain ⟨before, fragment, after, fragments_eq, pairedBefore, assembled⟩ :=
    paired.flip.exists_split_left split
  exact ⟨earlier, later, before, fragment, after, rfl, fragments_eq, assembled, pairedBefore.flip⟩

theorem exists_node {names : List String} {before after : List Fragment} {fragment : Fragment}
    (paired : List.Forall₂ (Node.AssembledAs settings registry graph) (names.filterMap graph.node?)
      (before ++ fragment :: after)) {node : Node} (found : graph.node? fragment.node = some node) :
    ∃ earlier later, names = earlier ++ node.name :: later ∧
      node.AssembledAs settings registry graph fragment ∧
      List.Forall₂ (Node.AssembledAs settings registry graph) (earlier.filterMap graph.node?) before := by
  obtain ⟨nodesBefore, node', nodesAfter, split, pairedBefore, assembled⟩ :=
    paired.exists_split_left rfl
  obtain ⟨first, rest, rfl, rfl, remaining⟩ := List.filterMap_eq_append_iff.mp split
  obtain ⟨absent, name, later, rfl, none, found', rfl⟩ := List.filterMap_eq_cons_iff.mp remaining
  have named : node'.name = name := name_of_node? found'
  rw [assembled.name, named, found'] at found
  cases found
  refine ⟨first ++ absent, later, by rw [named, List.append_assoc], assembled, ?_⟩
  rw [List.filterMap_append, List.filterMap_eq_nil_iff.mpr none, List.append_nil]
  exact pairedBefore

theorem declares_of_linksDeclared {names : List String} {fragments : List Fragment}
    (consistent : graph.Consistent registry) (all : ∀ name ∈ graph.names, name ∈ names)
    (paired : List.Forall₂ (Node.AssembledAs settings registry graph) (names.filterMap graph.node?)
      fragments)
    (linked : LinksDeclared graph fragments) {node : Node} (inside : node ∈ graph.nodes) {port : Port}
    (among : port ∈ node.ports) (input : port.usage = .input) {edge : Edge}
    (incoming : graph.incoming? node.name port.name = some edge) :
    ∃ earlier later before after, names = earlier ++ node.name :: later ∧
      fragments = before ++ after ∧
      List.Forall₂ (Node.AssembledAs settings registry graph) (earlier.filterMap graph.node?) before ∧
      Declares before (portIdentifier settings edge.fromNode edge.fromPort) := by
  have found : graph.node? node.name = some node := node?_of_mem consistent.distinctNames inside
  obtain ⟨earlier, later, before, fragment, after, split, rfl, made, pairedBefore⟩ :=
    exists_fragment paired found (all _ (List.mem_map_of_mem inside))
  obtain ⟨k, at_k⟩ := List.mem_iff_getElem?.mp among
  obtain ⟨declaration, identifier, at_declaration, initializer, declares⟩ :=
    linked before fragment after rfl node (made.name ▸ found) k port at_k input edge incoming
  obtain ⟨_, at_declaration', declaredAs⟩ := made.declarations.exists_getElem? at_k
  cases at_declaration.symm.trans at_declaration'
  cases initializer.symm.trans (declaredAs.linked input edge incoming)
  exact ⟨earlier, later, before, fragment :: after, split, rfl, pairedBefore, declares⟩

/-- A source that exists is declared before the target of its edge. -/
theorem declares_of_port? {earlier later : List String} {before : List Fragment} {edge : Edge}
    (ordered : graph.Ordered (earlier ++ edge.toNode :: later))
    (paired : List.Forall₂ (Node.AssembledAs settings registry graph) (earlier.filterMap graph.node?)
      before)
    (inside : edge ∈ graph.edges) {source : Port} (found : graph.port? edge.source = some source) :
    Declares before (portIdentifier settings edge.fromNode edge.fromPort) := by
  obtain ⟨node, foundNode, foundPort⟩ := Option.bind_eq_some_iff.mp found
  have feeding : edge.fromNode ∈ graph.sources edge.toNode :=
    mem_sources.mpr ⟨edge, inside, rfl, rfl⟩
  have listed := ordered.sourcesFirst earlier edge.toNode later rfl _ feeding
  have name : node.name = edge.fromNode := name_of_node? foundNode
  have portName : source.name = edge.fromPort := Node.name_of_port? foundPort
  rw [declares_iff paired]
  exact ⟨node, List.mem_filterMap.mpr ⟨edge.fromNode, listed, foundNode⟩, source,
    List.mem_of_find?_eq_some foundPort, by rw [name, portName]⟩

theorem linksDeclared_iff {fragments : List Fragment} (valid : registry.Consistent)
    (consistent : graph.Consistent registry)
    (assembled : assembleGraph settings registry graph = .ok fragments) :
    LinksDeclared graph fragments ↔
      ∀ node ∈ graph.nodes, ∀ port ∈ node.ports, port.usage = .input →
        ∀ edge, graph.incoming? node.name port.name = some edge →
          (∃ source, graph.port? edge.source = some source) ∨ graph.Shadowed settings edge := by
  obtain ⟨names, order, paired⟩ := Assembly.assembleGraph_eq_ok assembled
  obtain ⟨ordered, all⟩ := order?_sound order
  constructor
  · intro linked node inside port among input edge incoming
    obtain ⟨earlier, later, before, -, rfl, -, pairedBefore, declares⟩ :=
      declares_of_linksDeclared consistent all paired linked inside among input incoming
    obtain ⟨source, listed, sourcePort, amongSource, same⟩ := (declares_iff pairedBefore).mp declares
    by_cases real : (⟨source.name, sourcePort.name⟩ : PortRef) = edge.source
    · left
      obtain ⟨name, -, foundSource⟩ := List.mem_filterMap.mp listed
      have conforms := consistent.conforms source (mem_of_node? foundSource)
      rw [← real, port?, name_of_node? foundSource, foundSource, Option.bind_some]
      exact ⟨sourcePort, Node.port?_of_mem (conforms.distinctPorts valid) amongSource⟩
    · right
      obtain ⟨-, target⟩ := (incoming?_eq_some consistent.distinctTargets).mp incoming
      have toNode : edge.toNode = node.name := congrArg PortRef.node target
      exact ⟨earlier, later, toNode ▸ order, source, listed, sourcePort, amongSource, real, same⟩
  · intro sound before fragment after split node found k port at_k input edge incoming
    subst split
    obtain ⟨earlier, later, rfl, made, pairedBefore⟩ := exists_node paired found
    obtain ⟨declaration, at_declaration, declaredAs⟩ := made.declarations.exists_getElem? at_k
    refine ⟨declaration, _, at_declaration, declaredAs.linked input edge incoming, ?_⟩
    obtain ⟨member, target⟩ := (incoming?_eq_some consistent.distinctTargets).mp incoming
    have toNode : edge.toNode = node.name := congrArg PortRef.node target
    rw [← toNode] at order ordered
    rcases sound node (mem_of_node? found) port (List.mem_of_getElem? at_k) input edge incoming with
      ⟨source, foundSource⟩ | ⟨earlier', later', order', source, listed, sourcePort, among, -, same⟩
    · exact declares_of_port? ordered pairedBefore member foundSource
    · cases ordered.before_unique rfl (Option.some.inj (order.symm.trans order'))
      exact (declares_iff pairedBefore).mpr ⟨source, listed, sourcePort, among, same⟩

theorem assembleGraph_chain : ∃ fragments,
    assembleGraph .standard (.ofHistory standardHistory) (settle chainEdits).1 = .ok fragments ∧
      fragments.length = 3 :=
  Outcome.exists_of_yields (by decide +kernel)

/-- What is taken from edges is declared before unless an edge into an existing input has
lost its source port and no port before shares the identifier. -/
theorem linksDeclared_ofHistory_iff (history : List Registration) (name : String)
    (edits : List Edit) (settings : AssemblySettings) {fragments : List Fragment}
    (done : (ofHistory (.ofHistory history) name edits).reconcretizeAll (.ofHistory history) =
      (graph, none))
    (assembled : assembleGraph settings (.ofHistory history) graph = .ok fragments) :
    LinksDeclared graph fragments ↔
      ∀ node ∈ graph.nodes, ∀ port ∈ node.ports, port.usage = .input →
        ∀ edge, graph.incoming? node.name port.name = some edge →
          (∃ source, graph.port? edge.source = some source) ∨ graph.Shadowed settings edge :=
  linksDeclared_iff (Registry.consistent_ofHistory history) (settled_ofHistory done).1 assembled

theorem linksDeclared_chain :
    ∃ fragments, assembleGraph .standard (.ofHistory standardHistory) (settle chainEdits).1 =
      .ok fragments ∧ LinksDeclared (settle chainEdits).1 fragments := by
  obtain ⟨fragments, assembled, -⟩ := assembleGraph_chain
  have joined : ∀ edge ∈ (settle chainEdits).1.edges,
      (settle chainEdits).1.Joins (.ofHistory standardHistory) edge :=
    joins_of_checkConnection (by decide +kernel)
  refine ⟨fragments, assembled, (linksDeclared_ofHistory_iff standardHistory "Edited" chainEdits
    .standard (settle_eq (by decide +kernel)) assembled).mpr ?_⟩
  intro node inside port among input edge incoming
  exact Or.inl (joined edge (List.mem_of_find?_eq_some incoming)).exists_source

/-- The input `A` of `sum` is initialized with the identifier of a port that is gone. -/
theorem not_linksDeclared_stranded :
    (settle strandedEdits).2 = none ∧ ∃ fragments,
      assembleGraph .standard (.ofHistory standardHistory) (settle strandedEdits).1 = .ok fragments ∧
      (∃ fragment ∈ fragments, ⟨"sum_A", "float", some "imposter_UV1"⟩ ∈ fragment.declarations) ∧
      ¬LinksDeclared (settle strandedEdits).1 fragments := by
  have succeeded : (settle strandedEdits).2 = none := by decide +kernel
  obtain ⟨fragments, assembled, initialized, undeclared⟩ : ∃ fragments,
      assembleGraph .standard (.ofHistory standardHistory) (settle strandedEdits).1 = .ok fragments ∧
      (∃ fragment ∈ fragments, ⟨"sum_A", "float", some "imposter_UV1"⟩ ∈ fragment.declarations) ∧
      ¬Declares fragments (portIdentifier .standard "imposter" "UV1") :=
    Outcome.exists_of_yields (by decide +kernel)
  refine ⟨succeeded, fragments, assembled, initialized, fun linked => undeclared ?_⟩
  obtain ⟨node, inside, port, among, input, incoming⟩ : ∃ node ∈ (settle strandedEdits).1.nodes,
      ∃ port ∈ node.ports, port.usage = .input ∧
        (settle strandedEdits).1.incoming? node.name port.name = some ⟨"imposter", "UV1", "sum", "A"⟩ := by
    decide +kernel
  obtain ⟨names, order, paired⟩ := Assembly.assembleGraph_eq_ok assembled
  obtain ⟨-, -, before, after, -, rfl, -, fragment, member, declares⟩ :=
    declares_of_linksDeclared (settled_ofHistory (settle_eq succeeded)).1 (order?_sound order).2 paired
      linked inside among input incoming
  exact ⟨fragment, List.mem_append_left _ member, declares⟩

/-- Each input is initialized as concretization fills it: with the identifier of a source
exactly when it takes the field of that source, and with the literal of its own field if
it takes that of none. -/
def InitializedAsFilled (settings : AssemblySettings) (registry : Registry) (graph : Graph)
    (fragments : List Fragment) : Prop :=
  ∀ fragment ∈ fragments, ∀ node, graph.node? fragment.node = some node →
    ∀ (k : Nat) (port : Port), node.ports[k]? = some port → port.usage = .input →
      ∃ declaration, fragment.declarations[k]? = some declaration ∧
        (∀ edge, graph.incoming? node.name port.name = some edge →
          (declaration.initializer = some (portIdentifier settings edge.fromNode edge.fromPort) ↔
            graph.FedBy registry node k edge)) ∧
        ((∀ edge, ¬graph.FedBy registry node k edge) →
          ∃ type, registry.type port.typeKey = .ok type ∧
            declaration.initializer = type.literal? port.field)

theorem initializedAsFilled_iff {fragments : List Fragment} (valid : registry.Consistent)
    (consistent : graph.Consistent registry) (settled : graph.Settled registry)
    (joined : ∀ edge ∈ graph.edges, graph.Joins registry edge)
    (assembled : assembleGraph settings registry graph = .ok fragments) :
    graph.InitializedAsFilled settings registry fragments ↔
      ∀ node ∈ graph.nodes, ∀ port ∈ node.ports, port.usage = .input → port.pinned = true →
        graph.incoming? node.name port.name = none := by
  obtain ⟨names, order, paired⟩ := Assembly.assembleGraph_eq_ok assembled
  have fedBy : ∀ {node}, node ∈ graph.nodes → ∀ {k : Nat} {port : Port}, node.ports[k]? = some port →
      ∀ {edge}, graph.FedBy registry node k edge ↔ port.usage = .input ∧ port.pinned = false ∧
        graph.incoming? node.name port.name = some edge :=
    fun inside _ _ at_k _ => fedBy_iff valid consistent (settled.nodes _ inside) inside (joined _) at_k
  constructor
  · intro agree node inside port among input pinned
    have found : graph.node? node.name = some node := node?_of_mem consistent.distinctNames inside
    have listed : node.name ∈ names := (order?_sound order).2 _ (List.mem_map_of_mem inside)
    obtain ⟨-, -, before, fragment, after, -, rfl, made, -⟩ := exists_fragment paired found listed
    obtain ⟨k, at_k⟩ := List.mem_iff_getElem?.mp among
    obtain ⟨declaration, at_declaration, filled, -⟩ :=
      agree fragment (by simp) node (made.name ▸ found) k port at_k input
    obtain ⟨_, at_declaration', declaredAs⟩ := made.declarations.exists_getElem? at_k
    cases at_declaration.symm.trans at_declaration'
    cases incoming : graph.incoming? node.name port.name with
    | none => rfl
    | some edge =>
        have fed := (filled edge incoming).mp (declaredAs.linked input edge incoming)
        rw [((fedBy inside at_k).mp fed).2.1] at pinned
        cases pinned
  · intro unpinned fragment member node found k port at_k input
    obtain ⟨before, after, rfl⟩ := List.append_of_mem member
    obtain ⟨-, -, -, made, -⟩ := exists_node paired found
    have inside : node ∈ graph.nodes := mem_of_node? found
    obtain ⟨declaration, at_declaration, declaredAs⟩ := made.declarations.exists_getElem? at_k
    have fed : ∀ {edge}, graph.incoming? node.name port.name = some edge →
        graph.FedBy registry node k edge := by
      intro edge incoming
      refine (fedBy inside at_k).mpr ⟨input, ?_, incoming⟩
      cases pinned : port.pinned with
      | false => rfl
      | true =>
          have unfed := unpinned node inside port (List.mem_of_getElem? at_k) input pinned
          cases incoming.symm.trans unfed
    refine ⟨declaration, at_declaration, fun edge incoming => ?_, fun unfed => ?_⟩
    · exact iff_of_true (declaredAs.linked input edge incoming) (fed incoming)
    · have alone : graph.incoming? node.name port.name = none := by
        cases incoming : graph.incoming? node.name port.name with
        | none => rfl
        | some edge => exact absurd (fed incoming) (unfed edge)
      obtain ⟨type, known, initializer⟩ := declaredAs.plain fun _ => alone
      exact ⟨type, known, by simpa [input, Usage.hasInlineValue] using initializer⟩

/-- Assembly follows concretization in a graph whose edges all join two ports exactly when
no pinned input is connected. -/
theorem initializedAsFilled_ofHistory_iff (history : List Registration) (name : String)
    (edits : List Edit) (settings : AssemblySettings) {fragments : List Fragment}
    (done : (ofHistory (.ofHistory history) name edits).reconcretizeAll (.ofHistory history) =
      (graph, none))
    (joined : ∀ edge ∈ graph.edges, graph.Joins (.ofHistory history) edge)
    (assembled : assembleGraph settings (.ofHistory history) graph = .ok fragments) :
    graph.InitializedAsFilled settings (.ofHistory history) fragments ↔
      ∀ node ∈ graph.nodes, ∀ port ∈ node.ports, port.usage = .input → port.pinned = true →
        graph.incoming? node.name port.name = none := by
  obtain ⟨consistent, settled⟩ := settled_ofHistory done
  exact initializedAsFilled_iff (Registry.consistent_ofHistory history) consistent settled joined
    assembled

theorem initializedAsFilled_chain :
    ∃ fragments, assembleGraph .standard (.ofHistory standardHistory) (settle chainEdits).1 =
      .ok fragments ∧ (settle chainEdits).1.InitializedAsFilled .standard
        (.ofHistory standardHistory) fragments := by
  obtain ⟨fragments, assembled, -⟩ := assembleGraph_chain
  exact ⟨fragments, assembled, (initializedAsFilled_ofHistory_iff standardHistory "Edited" chainEdits
    .standard (settle_eq (by decide +kernel)) (joins_of_checkConnection (by decide +kernel))
    assembled).mpr (by decide +kernel)⟩

/-- The pinned input `A` of `total` keeps its two components, and is initialized with the
identifier of an output all the same. -/
theorem not_initializedAsFilled_overridden :
    (settle overriddenEdits).2 = none ∧
      (∀ edge ∈ (settle overriddenEdits).1.edges,
        (settle overriddenEdits).1.Joins (.ofHistory standardHistory) edge) ∧
      ∃ fragments, assembleGraph .standard (.ofHistory standardHistory) (settle overriddenEdits).1 =
        .ok fragments ∧
        (∃ fragment ∈ fragments, ⟨"total_A", "float2", some "sum_Out"⟩ ∈ fragment.declarations) ∧
        ¬(settle overriddenEdits).1.InitializedAsFilled .standard (.ofHistory standardHistory)
          fragments := by
  have succeeded : (settle overriddenEdits).2 = none := by decide +kernel
  have joined : ∀ edge ∈ (settle overriddenEdits).1.edges,
      (settle overriddenEdits).1.Joins (.ofHistory standardHistory) edge :=
    joins_of_checkConnection (by decide +kernel)
  obtain ⟨fragments, assembled, initialized⟩ : ∃ fragments,
      assembleGraph .standard (.ofHistory standardHistory) (settle overriddenEdits).1 = .ok fragments ∧
      ∃ fragment ∈ fragments, ⟨"total_A", "float2", some "sum_Out"⟩ ∈ fragment.declarations :=
    Outcome.exists_of_yields (by decide +kernel)
  obtain ⟨consistent, settled⟩ := settled_ofHistory (settle_eq succeeded)
  refine ⟨succeeded, joined, fragments, assembled, initialized, ?_⟩
  rw [initializedAsFilled_iff (Registry.consistent_ofHistory standardHistory) consistent settled joined
    assembled]
  decide +kernel

end Graph

end ShadingGraph
