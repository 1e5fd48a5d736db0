import ShadingGraph.Proofs.Assembly

/-! # Completeness of assembly

Assembly takes the identifier of each port once, in dependency order, and stops at the
first that is taken already. So a graph is assembled exactly when no edges run in a cycle,
each node can be assembled by itself and no two ports share an identifier. The code of a
node is then the same as by itself, up to the initializers of connected inputs. Whether a node
of the shape of its variant can be assembled by itself depends on the body of the variant, not
on what its ports hold.
-/

namespace ShadingGraph

variable {registry : Registry} {settings : AssemblySettings} {graph : Graph}

namespace Assembly

variable {taken : TakenNames}

theorem takeNames_eq_error {node : Node} {error : AssemblyError}
    (failed : takeNames settings node.name taken node.ports = .error error) :
    ∃ identifier first second before after, error = .duplicateIdentifier identifier first second ∧
      node.identifiers settings = before ++ (identifier, second) :: after ∧
      Table.find? (taken ++ before) identifier = some first := by
  unfold Node.identifiers
  generalize node.name = name at failed ⊢
  generalize node.ports = ports at failed ⊢
  induction ports generalizing taken with
  | nil => cases failed
  | cons port rest ih =>
      simp only [takeNames] at failed
      cases found : Table.find? taken (portIdentifier settings name port.name) with
      | some first =>
          rw [found] at failed
          cases failed
          exact ⟨_, _, _, [], _, rfl, rfl, by rwa [List.append_nil]⟩
      | none =>
          rw [found] at failed
          obtain ⟨identifier, first, second, before, after, rfl, split, taken⟩ := ih failed
          refine ⟨identifier, first, second,
            (portIdentifier settings name port.name, ⟨name, port.name⟩) :: before, after, rfl, ?_, ?_⟩
          · rw [List.map_cons, split, List.cons_append]
          · rwa [List.append_assoc] at taken

theorem expand_ne_duplicate {node : String} {variant : Variant} {token : Token} {identifier : String}
    {first second : PortRef} : expand settings registry node variant token ≠
      .error (.duplicateIdentifier identifier first second) := by
  intro failed
  cases token with
  | char | sigil => cases failed
  | reference name member =>
      simp only [expand] at failed
      split at failed
      · cases failed
      · split at failed
        · cases failed
        · split at failed
          · cases failed
          · split at failed <;> cases failed

theorem expandAll_ne_duplicate {node : String} {variant : Variant} {tokens : List Token}
    {identifier : String} {first second : PortRef} :
    expandAll settings registry node variant tokens ≠
      .error (.duplicateIdentifier identifier first second) := by
  induction tokens with
  | nil => nofun
  | cons token rest ih =>
      intro failed
      rcases Outcome.bind_eq_error.mp failed with failed | ⟨code, -, failed⟩
      · exact expand_ne_duplicate failed
      · rcases Outcome.bind_eq_error.mp failed with failed | ⟨codes, -, failed⟩
        · exact ih failed
        · cases failed

theorem assemble_ne_duplicate {node : Node} {identifier : String} {first second : PortRef} :
    assemble settings registry node ≠ .error (.duplicateIdentifier identifier first second) := by
  intro failed
  rcases Outcome.bind_eq_error.mp failed with failed | ⟨definition, -, failed⟩
  · obtain ⟨_, -, kind⟩ := Outcome.mapError_eq_error.mp failed
    cases kind
  · cases selected : definition.variant? node.selectedVariant with
    | none =>
        rw [selected] at failed
        cases failed
    | some variant =>
        rw [selected] at failed
        rcases Outcome.bind_eq_error.mp failed with failed | ⟨declarations, -, failed⟩
        · obtain ⟨_, -, kind⟩ := Outcome.mapError_eq_error.mp failed
          cases kind
        · rcases Outcome.bind_eq_error.mp failed with failed | ⟨body, -, failed⟩
          · exact expandAll_ne_duplicate (Outcome.map_eq_error.mp failed)
          · cases failed

/-- An identifier that is reported has been taken by an earlier port. -/
theorem assembleEach_eq_duplicate {names : List String} {identifier : String} {first second : PortRef}
    (distinct : (Table.keys taken).Nodup)
    (failed : assembleEach settings registry graph taken names =
      .error (.duplicateIdentifier identifier first second)) :
    ∃ before after, (names.filterMap graph.node?).flatMap (·.identifiers settings) =
        before ++ (identifier, second) :: after ∧
      Table.find? (taken ++ before) identifier = some first := by
  induction names generalizing taken with
  | nil => cases failed
  | cons name rest ih =>
      simp only [assembleEach] at failed
      cases found : graph.node? name with
      | none =>
          rw [found] at failed
          rw [List.filterMap_cons_none found]
          exact ih distinct failed
      | some node =>
          rw [found] at failed
          rw [List.filterMap_cons_some found, List.flatMap_cons]
          rcases Outcome.bind_eq_error.mp failed with failed | ⟨own, -, failed⟩
          · exact absurd failed assemble_ne_duplicate
          -- The identifier is one of this node, or it is one of a later node.
          rcases Outcome.bind_eq_error.mp failed with failed | ⟨taken', took, failed⟩
          · obtain ⟨identifier, first, second, before, after, same, split, taken⟩ :=
              takeNames_eq_error failed
            cases same
            exact ⟨before, after ++ _, by rw [split, List.append_assoc, List.cons_append], taken⟩
          rcases Outcome.bind_eq_error.mp failed with failed | ⟨fragments, -, failed⟩
          · obtain ⟨rfl, distinct'⟩ := (takeNames_eq_ok distinct).mp took
            obtain ⟨before, after, split, taken⟩ := ih distinct' failed
            exact ⟨node.identifiers settings ++ before, after, by rw [split, List.append_assoc],
              by rwa [List.append_assoc] at taken⟩
          · cases failed

theorem exists_declareAll {ports : List Port}
    (known : ∀ port ∈ ports, ∃ type, registry.type port.typeKey = .ok type) (node : String) :
    ∃ declarations, declareAll settings registry node ports = .ok declarations := by
  induction ports with
  | nil => exact ⟨[], rfl⟩
  | cons port rest ih =>
      obtain ⟨⟨type, here⟩, later⟩ := List.forall_mem_cons.mp known
      obtain ⟨declarations, declared⟩ := ih later
      simp only [declareAll, declare, here, declared]
      exact ⟨_, rfl⟩

/-- A node can be assembled if it has its variant and the references of the body can be
resolved. -/
theorem exists_assemble_iff_of_conforms (valid : registry.Consistent) {node : Node}
    (conforms : node.Conforms registry) :
    (∃ fragment, assemble settings registry node = .ok fragment) ↔
      ∃ definition variant body, registry.node node.definitionKey = .ok definition ∧
        definition.variant? node.selectedVariant = some variant ∧
        substitute settings registry node.name variant = .ok body := by
  obtain ⟨definition, known, former, declared, ports⟩ := conforms
  -- The ports may be those of a variant that the node does not select any more.
  have types : ∀ port ∈ node.ports, ∃ type, registry.type port.typeKey = .ok type := by
    intro port inside
    obtain ⟨parameter, listed, signature⟩ := List.mem_map.mp (ports ▸ List.mem_map_of_mem inside)
    obtain ⟨type, covered⟩ := valid.covered _ _ (Registry.node_eq_ok.mp known) former declared
      parameter listed
    have key : parameter.typeKey = port.typeKey := congrArg (·.2.1) signature
    exact ⟨type, Registry.type_eq_ok.mpr (key ▸ covered)⟩
  obtain ⟨declarations, declaredAs⟩ : ∃ declarations,
      declareAll settings registry node.name node.ports = .ok declarations :=
    exists_declareAll types node.name
  cases selected : definition.variant? node.selectedVariant with
  | none =>
      refine iff_of_false ?_ ?_
      · simp only [assemble, known, Outcome.mapError_eq_ok.mpr rfl, Outcome.ok_bind, selected]
        rintro ⟨fragment, assembled⟩
        cases assembled
      · rintro ⟨_, _, _, known', selected', -⟩
        cases known.symm.trans known'
        cases selected.symm.trans selected'
  | some variant =>
      have run : assemble settings registry node =
          (substitute settings registry node.name variant).map fun body =>
            ⟨node.name, variant.id, declarations, body, variant.includes⟩ := by
        simp only [assemble, known, declaredAs, Outcome.mapError_eq_ok.mpr rfl, Outcome.ok_bind, selected]
        rfl
      rw [run]
      constructor
      · rintro ⟨fragment, assembled⟩
        obtain ⟨body, substituted, -⟩ := Outcome.map_eq_ok.mp assembled
        exact ⟨definition, variant, body, known, selected, substituted⟩
      · rintro ⟨_, _, body, known', selected', substituted⟩
        cases known.symm.trans known'
        cases selected.symm.trans selected'
        exact ⟨_, Outcome.map_eq_ok.mpr ⟨body, substituted, rfl⟩⟩

theorem exists_assemble_iff (valid : registry.Consistent) {node : Node}
    (shaped : node.ShapedBy registry node.selectedVariant) :
    (∃ fragment, assemble settings registry node = .ok fragment) ↔
      ∃ definition variant body, registry.node node.definitionKey = .ok definition ∧
        definition.variant? node.selectedVariant = some variant ∧
        substitute settings registry node.name variant = .ok body :=
  exists_assemble_iff_of_conforms valid shaped.conforms

end Assembly

namespace Graph

/-- No two ports, of one node or of two, have the same identifier. -/
def DistinctIdentifiers (settings : AssemblySettings) (graph : Graph) : Prop :=
  ∀ first second : PortRef, (∃ port, graph.port? first = some port) →
    (∃ port, graph.port? second = some port) →
    portIdentifier settings first.node first.port = portIdentifier settings second.node second.port →
    first = second

def identifiers (settings : AssemblySettings) (graph : Graph) : Assembly.TakenNames :=
  graph.nodes.flatMap (·.identifiers settings)

section Identifiers

variable {origin : Registry} (valid : origin.Consistent) (consistent : graph.Consistent origin)

include valid consistent

theorem mem_identifiers {identifier : String} {ref : PortRef} :
    (identifier, ref) ∈ graph.identifiers settings ↔
      (∃ port, graph.port? ref = some port) ∧
        portIdentifier settings ref.node ref.port = identifier := by
  simp only [identifiers, Node.identifiers, List.mem_flatMap, List.mem_map, Prod.mk.injEq]
  constructor
  · rintro ⟨node, inside, port, among, same, rfl⟩
    have distinct := (consistent.conforms node inside).distinctPorts valid
    refine ⟨⟨port, ?_⟩, same⟩
    rw [port?, node?_of_mem consistent.distinctNames inside, Option.bind_some]
    exact Node.port?_of_mem distinct among
  · rintro ⟨⟨port, found⟩, same⟩
    obtain ⟨node, foundNode, foundPort⟩ := Option.bind_eq_some_iff.mp found
    have name : node.name = ref.node := name_of_node? foundNode
    have portName : port.name = ref.port := Node.name_of_port? foundPort
    refine ⟨node, mem_of_node? foundNode, port, List.mem_of_find?_eq_some foundPort, ?_, ?_⟩
    · rw [name, portName, same]
    · rw [name, portName]

theorem nodup_refs : ((graph.identifiers settings).map (·.2)).Nodup := by
  -- The names of ports tell those of one node apart, and the names of nodes all others.
  rw [identifiers, List.map_flatMap, List.nodup_flatMap]
  constructor
  · intro node inside
    have distinct := (consistent.conforms node inside).distinctPorts valid
    rw [Node.identifiers, List.map_map]
    refine List.Nodup.of_map (·.port) ?_
    rw [List.map_map]
    exact distinct
  · refine (List.pairwise_map.mp consistent.distinctNames).imp fun {node other} different => ?_
    intro ref inside inside'
    simp only [Node.identifiers, List.map_map, List.mem_map, Function.comp_apply] at inside inside'
    obtain ⟨port, -, rfl⟩ := inside
    obtain ⟨port', -, same⟩ := inside'
    exact different (congrArg PortRef.node same).symm

theorem nodup_keys_identifiers_iff :
    (Table.keys (graph.identifiers settings)).Nodup ↔ graph.DistinctIdentifiers settings := by
  have refs : ((graph.identifiers settings).map (·.2)).Nodup := nodup_refs valid consistent
  rw [Table.keys, List.nodup_map_iff_inj_on (List.Nodup.of_map _ refs)]
  constructor
  · intro injective first second exists_ exists' same
    have inside :
        (portIdentifier settings first.node first.port, first) ∈ graph.identifiers settings :=
      (mem_identifiers valid consistent).mpr ⟨exists_, rfl⟩
    have inside' :
        (portIdentifier settings second.node second.port, second) ∈ graph.identifiers settings :=
      (mem_identifiers valid consistent).mpr ⟨exists', rfl⟩
    exact congrArg (·.2) (injective _ inside _ inside' same)
  · rintro distinct ⟨identifier, first⟩ inside ⟨_, second⟩ inside' rfl
    obtain ⟨exists_, same⟩ := (mem_identifiers valid consistent).mp inside
    obtain ⟨exists', same'⟩ := (mem_identifiers valid consistent).mp inside'
    rw [distinct first second exists_ exists' (same.trans same'.symm)]

end Identifiers

/-! ## The whole graph -/

/-- A fragment of the graph is that of the node by itself, except for the initializers of
inputs at which an edge ends. -/
structure SameUpToLinks (graph : Graph) (node : Node) (own fragment : Fragment) : Prop where
  rest : { fragment with declarations := own.declarations } = own
  length_own : own.declarations.length = node.ports.length
  length : fragment.declarations.length = node.ports.length
  declarations : ∀ (k : Nat) (port : Port), node.ports[k]? = some port →
    ∃ declaration linked, own.declarations[k]? = some declaration ∧
      fragment.declarations[k]? = some linked ∧
      linked = { declaration with initializer := linked.initializer } ∧
      (linked = declaration ∨
        port.usage = .input ∧ ∃ edge ∈ graph.edges, edge.target = ⟨node.name, port.name⟩)

theorem sameUpToLinks_linkedIn {node : Node} {own : Fragment}
    (assembled : assemble settings registry node = .ok own) :
    graph.SameUpToLinks node own (own.linkedIn settings graph node) := by
  have paired := Assembly.declareAll_eq_ok (Assembly.assemble_eq_ok assembled).2
  refine ⟨rfl, paired.length_eq.symm, ?_, fun k port at_k => ?_⟩
  · rw [Fragment.linkedIn, List.length_zipWith, paired.length_eq, Nat.min_self]
  · obtain ⟨declaration, at_declaration, -⟩ := paired.exists_getElem? at_k
    refine ⟨declaration, Assembly.link settings graph node.name port declaration, at_declaration,
      ?_, ?_⟩
    · rw [Fragment.linkedIn, List.getElem?_zipWith, at_k, at_declaration]
    · unfold Assembly.link
      by_cases input : port.usage = .input
      · rw [if_pos input]
        cases incoming : graph.incoming? node.name port.name with
        | none => exact ⟨rfl, Or.inl rfl⟩
        | some edge =>
            have targets := List.find?_some incoming
            rw [Edge.targets_eq, decide_eq_true_eq] at targets
            exact ⟨rfl, Or.inr ⟨input, edge, List.mem_of_find?_eq_some incoming, targets⟩⟩
      · rw [if_neg input]
        exact ⟨rfl, Or.inl rfl⟩

/-- Fragments of all nodes of a graph, sources first, in which no identifier is declared
twice and each node has its own code. -/
structure Completes (settings : AssemblySettings) (registry : Registry) (graph : Graph)
    (fragments : List Fragment) : Prop where
  nodes : (fragments.map (·.node)).Perm graph.names
  sourceBefore : ∀ edge ∈ graph.edges, ∃ before target after,
    fragments = before ++ target :: after ∧ target.node = edge.toNode ∧
      edge.fromNode ∈ before.map (·.node)
  distinct : (fragments.flatMap fun fragment => fragment.declarations.map (·.identifier)).Nodup
  code : ∀ fragment ∈ fragments, ∃ node own, graph.node? fragment.node = some node ∧
    assemble settings registry node = .ok own ∧ graph.SameUpToLinks node own fragment

/-- When a graph is assembled, what that gives, and what a shared identifier stands for. -/
structure AssemblesExactly (settings : AssemblySettings) (registry : Registry) (graph : Graph) :
    Prop where
  succeeds_iff : (∃ fragments, assembleGraph settings registry graph = .ok fragments) ↔
    (∀ name, ¬graph.OnCycle name) ∧
    (∀ node ∈ graph.nodes, ∃ own, assemble settings registry node = .ok own) ∧
    graph.DistinctIdentifiers settings
  completes : ∀ fragments, assembleGraph settings registry graph = .ok fragments →
    graph.Completes settings registry fragments
  collides : ∀ identifier first second,
    assembleGraph settings registry graph = .error (.duplicateIdentifier identifier first second) →
    first ≠ second ∧
    (∃ port, graph.port? first = some port) ∧ (∃ port, graph.port? second = some port) ∧
    portIdentifier settings first.node first.port = identifier ∧
    portIdentifier settings second.node second.port = identifier

section Whole

variable {origin : Registry} (valid : origin.Consistent) (consistent : graph.Consistent origin)
  {names : List String}

include consistent

theorem perm_nodes_of_order? (order : graph.order? = some names) :
    (names.filterMap graph.node?).Perm graph.nodes := by
  have perm := perm_names_of_order? consistent.distinctNames consistent.sourceExists order
  exact nodes_eq_filterMap consistent.distinctNames ▸ perm.filterMap graph.node?

theorem map_name_filterMap_node? (order : graph.order? = some names) :
    (names.filterMap graph.node?).map (·.name) = names := by
  have found : ∀ name ∈ names, (graph.node? name).map (·.name) = some name := by
    intro name listed
    have inside := mem_names_of_order? consistent.sourceExists order name listed
    obtain ⟨node, found⟩ := node?_isSome.mpr inside
    rw [found, Option.map_some, name_of_node? found]
  rw [List.map_filterMap, List.filterMap_congr found, List.filterMap_some]

include valid

theorem nodup_keys_flatMap_identifiers_iff (order : graph.order? = some names) :
    (Table.keys ((names.filterMap graph.node?).flatMap (·.identifiers settings))).Nodup ↔
      graph.DistinctIdentifiers settings := by
  have perm := (perm_nodes_of_order? consistent order).flatMap_right (·.identifiers settings)
  rw [← nodup_keys_identifiers_iff valid consistent]
  exact (perm.map (·.1)).nodup_iff

theorem assembleGraph_eq_ok_iff {fragments : List Fragment} (order : graph.order? = some names) :
    assembleGraph settings registry graph = .ok fragments ↔
      List.Forall₂ (fun node fragment => ∃ own, assemble settings registry node = .ok own ∧
        fragment = own.linkedIn settings graph node) (names.filterMap graph.node?) fragments ∧
      graph.DistinctIdentifiers settings := by
  rw [assembleGraph, order, ← nodup_keys_flatMap_identifiers_iff valid consistent order]
  exact Assembly.assembleEach_eq_ok_iff List.nodup_nil

/-- Each fragment is that of a node by itself, with the initializers of connected inputs. -/
theorem exists_linkedIn {fragments : List Fragment} {fragment : Fragment}
    (assembled : assembleGraph settings registry graph = .ok fragments) (inside : fragment ∈ fragments) :
    ∃ node own, graph.node? node.name = some node ∧ assemble settings registry node = .ok own ∧
      fragment = own.linkedIn settings graph node := by
  obtain ⟨names, order, -⟩ := Assembly.assembleGraph_eq_ok assembled
  obtain ⟨paired, -⟩ := (assembleGraph_eq_ok_iff valid consistent order).mp assembled
  obtain ⟨node, listed, own, alone, linked⟩ := paired.exists_mem_left inside
  have member : node ∈ graph.nodes := (perm_nodes_of_order? consistent order).mem_iff.mp listed
  exact ⟨node, own, node?_of_mem consistent.distinctNames member, alone, linked⟩

theorem exists_assembleGraph_iff :
    (∃ fragments, assembleGraph settings registry graph = .ok fragments) ↔
    (∀ name, ¬graph.OnCycle name) ∧
    (∀ node ∈ graph.nodes, ∃ own, assemble settings registry node = .ok own) ∧
    graph.DistinctIdentifiers settings := by
  cases order : graph.order? with
  | none =>
      obtain ⟨name, cycle⟩ := (order?_eq_none_iff_onCycle consistent.sourceExists).mp order
      refine iff_of_false ?_ fun ⟨acyclic, _⟩ => acyclic name cycle
      rw [assembleGraph, order]
      rintro ⟨fragments, assembled⟩
      cases assembled
  | some names =>
      have acyclic : ∀ name, ¬graph.OnCycle name := fun name cycle =>
        nomatch order.symm.trans ((order?_eq_none_iff_onCycle consistent.sourceExists).mpr ⟨name, cycle⟩)
      have perm := perm_nodes_of_order? consistent order
      simp only [assembleGraph_eq_ok_iff valid consistent order, exists_and_right, ← and_assoc]
      refine and_congr_left fun _ => ⟨?_, ?_⟩
      · rintro ⟨fragments, paired⟩
        refine ⟨acyclic, fun node inside => ?_⟩
        obtain ⟨_, -, own, assembled, -⟩ := paired.exists_mem_right (perm.mem_iff.mpr inside)
        exact ⟨own, assembled⟩
      · rintro ⟨-, each⟩
        refine List.Forall₂.exists_of_forall fun node inside => ?_
        obtain ⟨own, assembled⟩ := each node (perm.mem_iff.mp inside)
        exact ⟨_, own, assembled, rfl⟩

theorem completes_of_assembleGraph {fragments : List Fragment}
    (assembled : assembleGraph settings registry graph = .ok fragments) :
    graph.Completes settings registry fragments := by
  obtain ⟨names, order, made⟩ := Assembly.assembleGraph_eq_ok assembled
  have distinct := ((assembleGraph_eq_ok_iff valid consistent order).mp assembled).2
  obtain ⟨ordered, all⟩ := order?_sound order
  have nodes : fragments.map (·.node) = names := by
    rw [← made.map_eq_map fun node fragment made => made.name.symm]
    exact map_name_filterMap_node? consistent order
  refine ⟨?_, fun edge inside => ?_, ?_, fun fragment inside => ?_⟩
  · exact nodes ▸ perm_names_of_order? consistent.distinctNames consistent.sourceExists order
  · obtain ⟨earlier, later, split⟩ := List.append_of_mem (all _ (consistent.targetExists edge inside))
    have feeds : edge.fromNode ∈ graph.sources edge.toNode :=
      mem_sources.mpr ⟨edge, inside, rfl, rfl⟩
    have listed := ordered.sourcesFirst earlier edge.toNode later split _ feeds
    obtain ⟨before, rest, rfl, rfl, remaining⟩ := List.map_eq_append_iff.mp (nodes.trans split)
    obtain ⟨target, after, rfl, name, -⟩ := List.map_eq_cons_iff.mp remaining
    exact ⟨before, target, after, rfl, name, listed⟩
  · have declared : (names.filterMap graph.node?).map (fun node =>
        (node.identifiers settings).map (·.1)) =
          fragments.map fun fragment => fragment.declarations.map (·.identifier) := by
      refine made.map_eq_map fun node fragment made => ?_
      rw [Node.identifiers, List.map_map]
      exact made.declarations.map_eq_map fun port declaration declared => declared.identifier.symm
    have nodup := (nodup_keys_flatMap_identifiers_iff valid consistent order).mpr distinct
    rwa [Table.keys, List.map_flatMap, List.flatMap_def, declared, ← List.flatMap_def] at nodup
  · obtain ⟨node, own, found, alone, rfl⟩ := exists_linkedIn valid consistent assembled inside
    have name : own.node = node.name := (Assembly.assemble_eq_ok alone).1
    exact ⟨node, own, name ▸ found, alone, sameUpToLinks_linkedIn alone⟩

theorem collides_of_assembleGraph {identifier : String} {first second : PortRef}
    (failed : assembleGraph settings registry graph =
      .error (.duplicateIdentifier identifier first second)) :
    first ≠ second ∧ (identifier, first) ∈ graph.identifiers settings ∧
      (identifier, second) ∈ graph.identifiers settings := by
  cases order : graph.order? with
  | none =>
      rw [assembleGraph, order] at failed
      cases failed
  | some names =>
      rw [assembleGraph, order] at failed
      have none : (Table.keys ([] : Assembly.TakenNames)).Nodup := List.nodup_nil
      obtain ⟨before, after, split, taken⟩ := Assembly.assembleEach_eq_duplicate none failed
      have earlier : (identifier, first) ∈ before := Table.mem_of_find?_eq_some taken
      have perm : (before ++ (identifier, second) :: after).Perm (graph.identifiers settings) :=
        split ▸ (perm_nodes_of_order? consistent order).flatMap_right (·.identifiers settings)
      have refs : ((graph.identifiers settings).map (·.2)).Nodup := nodup_refs valid consistent
      rw [← (perm.map (·.2)).nodup_iff, List.map_append, List.nodup_append] at refs
      refine ⟨?_, perm.mem_iff.mp (List.mem_append_left _ earlier), perm.mem_iff.mp (by simp)⟩
      exact refs.2.2 first (List.mem_map_of_mem (f := (·.2)) earlier) second (by simp)

end Whole

/-- Assembly of a graph over any registry goes through exactly where no edges run in a
cycle, each node can be assembled and no two ports share an identifier; it then gives the
code of each node once, sources first. -/
theorem assemblesExactly_ofHistory (history : List Registration) (name : String) (edits : List Edit)
    (settings : AssemblySettings) (registry : Registry) :
    (ofHistory (.ofHistory history) name edits).AssemblesExactly settings registry := by
  have valid := Registry.consistent_ofHistory history
  have consistent := consistent_ofHistory valid name edits
  refine ⟨exists_assembleGraph_iff valid consistent,
    fun _ => completes_of_assembleGraph valid consistent, fun identifier first second failed => ?_⟩
  obtain ⟨different, inside, inside'⟩ := collides_of_assembleGraph valid consistent failed
  obtain ⟨exists_, same⟩ := (mem_identifiers valid consistent).mp inside
  obtain ⟨exists', same'⟩ := (mem_identifiers valid consistent).mp inside'
  exact ⟨different, exists_, exists', same, same'⟩

/-- Names that differ only by a space and an underscore give the same identifiers. -/
example : Outcome.failsWith (assembleGraph .standard .standard (ofHistory .standard "Colliding"
    [.addNode ⟨"Add", 1⟩ "a b", .addNode ⟨"Add", 1⟩ "a_b"]))
      (.duplicateIdentifier "a_b_A" ⟨"a b", "A"⟩ ⟨"a_b", "A"⟩) = true := by
  decide +kernel

end Graph

end ShadingGraph
