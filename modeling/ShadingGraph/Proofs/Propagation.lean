import ShadingGraph.Proofs.Settlement

/-! # Propagation in any order

Concretizing the nodes of a graph one by one, each after its sources, leads to the same
graph in whatever order that is done, and from whatever order nodes and edges were put
in. Whether it succeeds is a matter of the selected variants alone. The graph reached is
settled, so that concretizing any of its nodes again changes nothing.
-/

namespace ShadingGraph.Graph

variable {registry : Registry} {graph other : Graph}

/-- The same nodes and edges in another order. What a port without a pin holds may differ. -/
structure Rearranges (graph other : Graph) : Prop where
  nodes : ∃ nodes, graph.nodes.Perm nodes ∧ List.Forall₂ Node.SamePins nodes other.nodes
  edges : graph.edges.Perm other.edges

theorem Rearranges.alike (rearranges : graph.Rearranges other) (distinct : graph.names.Nodup) :
    graph.Alike registry other := by
  obtain ⟨nodes, perm, paired⟩ := rearranges.nodes
  refine ⟨fun name => ?_, rearranges.edges⟩
  have found : Option.Rel Node.SamePins (nodes.find? (·.name = name)) (other.node? name) :=
    paired.find? fun _ _ same => by rw [same.name]
  rw [node?, Table.find?_key_perm distinct perm]
  exact found.imp fun _ _ same => same.alike

theorem Alike.sourceExists (alike : graph.Alike registry other)
    (sourceExists : ∀ edge ∈ graph.edges, edge.fromNode ∈ graph.names) :
    ∀ edge ∈ other.edges, edge.fromNode ∈ other.names := by
  intro edge inside
  exact alike.mem_names.mp (sourceExists edge (alike.edges.mem_iff.mpr inside))

theorem Alike.exists_order? (alike : graph.Alike registry other)
    (ordered : ∃ names, graph.order? = some names) : ∃ names, other.order? = some names := by
  obtain ⟨names, found⟩ := ordered
  obtain ⟨ordered, all⟩ := order?_sound found
  refine Graph.exists_order? (ordered.mono fun _ _ => alike.mem_sources.mpr) fun name inside => ?_
  exact all name (alike.mem_names.mpr inside)

theorem Alike.succeeds (alike : graph.Alike registry other) (valid : registry.Consistent)
    (sourceExists : ∀ edge ∈ graph.edges, edge.fromNode ∈ graph.names)
    (succeeded : (graph.reconcretizeAll registry).2 = none) :
    (other.reconcretizeAll registry).2 = none := by
  rw [reconcretizeAll_eq_none_iff valid sourceExists] at succeeded
  rw [reconcretizeAll_eq_none_iff valid (alike.sourceExists sourceExists)]
  obtain ⟨ordered, able⟩ := succeeded
  refine ⟨alike.exists_order? ordered, fun name inside => ?_⟩
  exact alike.concretizable (able name (alike.mem_names.mpr inside))

theorem eq_of_settled {first second : Graph} {names : List String}
    (consistent : graph.Consistent registry) (ordered : graph.Ordered names)
    (all : ∀ name ∈ graph.names, name ∈ names)
    (alike : graph.Alike registry first) (alike' : graph.Alike registry second)
    (kept : first.name = graph.name ∧ first.names = graph.names ∧ first.edges = graph.edges)
    (kept' : second.name = graph.name ∧ second.names = graph.names ∧ second.edges = graph.edges)
    (settled : ∀ node ∈ first.nodes, first.SettledAt registry node)
    (settled' : ∀ node ∈ second.nodes, second.SettledAt registry node) : first = second := by
  obtain ⟨name, names_eq, edges⟩ := kept
  obtain ⟨name', names', edges'⟩ := kept'
  have distinctTargets : (first.edges.map Edge.target).Nodup := edges ▸ consistent.distinctTargets
  have distinctNames : first.names.Nodup := names_eq ▸ consistent.distinctNames
  refine eq_of_node? distinctNames (name.trans name'.symm) (names_eq.trans names'.symm)
    (edges.trans edges'.symm) fun other => ?_
  exact (alike.symm.trans alike').node?_eq distinctTargets settled settled'
    (ordered.congr edges.symm) (names_eq ▸ all) other

/-- Concretizing the nodes in any dependency order is concretizing them in the order that
the walk finds. -/
theorem reconcretizeEach_eq_iff (valid : registry.Consistent) (consistent : graph.Consistent registry)
    {names : List String} (perm : names.Perm graph.names) (ordered : graph.Ordered names)
    (final : Graph) :
    reconcretizeEach registry graph names = (final, none) ↔
      graph.reconcretizeAll registry = (final, none) := by
  have all : ∀ name ∈ graph.names, name ∈ names := fun _ => perm.mem_iff.mpr
  have succeeds : (reconcretizeEach registry graph names).2 = none ↔
      (graph.reconcretizeAll registry).2 = none := by
    have found : ∃ order, graph.order? = some order := exists_order? ordered all
    rw [reconcretizeEach_eq_none_iff valid,
      reconcretizeAll_eq_none_iff valid consistent.sourceExists]
    simp only [found, true_and, perm.mem_iff]
  have equal : (reconcretizeEach registry graph names).2 = none →
      reconcretizeEach registry graph names = graph.reconcretizeAll registry := by
    intro done
    have run : reconcretizeEach registry graph names =
        ((reconcretizeEach registry graph names).1, none) := Prod.ext rfl done
    have run' : graph.reconcretizeAll registry = ((graph.reconcretizeAll registry).1, none) :=
      Prod.ext rfl (succeeds.mp done)
    obtain ⟨kept, settled⟩ := settledAt_of_run ordered all run
    obtain ⟨settled', kept'⟩ := settled_of_reconcretizeAll run'
    refine Prod.ext ?_ (done.trans (succeeds.mp done).symm)
    exact eq_of_settled consistent ordered all (.of_reconcretizeEach graph names)
      (.of_reconcretizeAll graph) kept kept' settled settled'.nodes
  constructor
  · intro run
    have done : (reconcretizeEach registry graph names).2 = none := by rw [run]
    rw [← equal done, run]
  · intro run
    have done : (graph.reconcretizeAll registry).2 = none := by rw [run]
    rw [equal (succeeds.mpr done), run]

theorem Rearranges.node?_reconcretizeAll (rearranges : graph.Rearranges other)
    (consistent : graph.Consistent registry)
    (succeeded : (graph.reconcretizeAll registry).2 = none)
    (succeeded' : (other.reconcretizeAll registry).2 = none) (name : String) :
    (other.reconcretizeAll registry).1.node? name = (graph.reconcretizeAll registry).1.node? name := by
  obtain ⟨settled, -, names, edges⟩ := settled_of_reconcretizeAll (Prod.ext rfl succeeded)
  obtain ⟨settled', -⟩ := settled_of_reconcretizeAll (Prod.ext rfl succeeded')
  obtain ⟨order, found, -⟩ := settled.ordered
  obtain ⟨ordered, all⟩ := order?_sound found
  have alike : (graph.reconcretizeAll registry).1.Alike registry (other.reconcretizeAll registry).1 :=
    ((Alike.of_reconcretizeAll graph).symm.trans (rearranges.alike consistent.distinctNames)).trans
      (.of_reconcretizeAll other)
  exact (alike.node?_eq (edges ▸ consistent.distinctTargets) settled.nodes settled'.nodes ordered all
    name).symm

theorem replaceNode_self (distinct : graph.names.Nodup) {node : Node} {name : String}
    (found : graph.node? name = some node) : graph.replaceNode node = graph := by
  have kept : ∀ member ∈ graph.nodes, (if member.name = node.name then node else member) = member := by
    intro member inside
    split
    · rename_i same
      exact (List.inj_on_of_nodup_map distinct inside (mem_of_node? found) same).symm
    · rfl
  simp only [replaceNode, List.map_congr_left kept, List.map_id']

theorem reconcretize_eq_self_iff (distinct : graph.names.Nodup) {node : Node} {name : String}
    (found : graph.node? name = some node) :
    graph.reconcretize name registry = .ok graph ↔ graph.SettledAt registry node := by
  constructor
  · intro unchanged
    obtain ⟨_, definition, ports, found', known, concretized, same⟩ := reconcretize_eq_ok.mp unchanged
    cases found.symm.trans found'
    obtain rfl : node.name = name := name_of_node? found
    have replaced : graph.node? node.name = some { node with ports } := by
      rw [same, node?_replaceNode, found, Option.map_some, if_pos rfl]
    have kept : ports = node.ports := congrArg Node.ports (Option.some.inj (replaced.symm.trans found))
    exact ⟨definition, known, kept ▸ concretized⟩
  · rintro ⟨definition, known, concretized⟩
    rw [name_of_node? found] at concretized
    exact reconcretize_eq_ok.mpr ⟨node, definition, node.ports, found, known, concretized,
      (replaceNode_self distinct found).symm⟩

theorem Settled.reconcretize (settled : graph.Settled registry) (distinct : graph.names.Nodup)
    {name : String} (inside : name ∈ graph.names) :
    graph.reconcretize name registry = .ok graph := by
  obtain ⟨node, found⟩ := node?_isSome.mpr inside
  exact (reconcretize_eq_self_iff distinct found).mpr (settled.nodes node (mem_of_node? found))

/-- All ways to concretize every node after its sources come to the same. -/
structure Confluent (registry : Registry) (graph : Graph) : Prop where
  /-- In any dependency order the nodes settle in the same graph, or in none. -/
  ordered : ∀ names final, names.Perm graph.names → graph.Ordered names →
    (reconcretizeEach registry graph names = (final, none) ↔
      graph.reconcretizeAll registry = (final, none))
  /-- The order in which nodes and edges were put in does not show in the ports. -/
  rearranged : ∀ other, graph.Rearranges other →
    ((other.reconcretizeAll registry).2 = none ↔ (graph.reconcretizeAll registry).2 = none) ∧
      ((graph.reconcretizeAll registry).2 = none → ∀ name,
        (other.reconcretizeAll registry).1.node? name = (graph.reconcretizeAll registry).1.node? name)
  /-- Nothing changes any more in the graph that is reached. -/
  settled : ∀ final, graph.reconcretizeAll registry = (final, none) →
    final.reconcretizeAll registry = (final, none) ∧
      ∀ name ∈ final.names, final.reconcretize name registry = .ok final

/-- Propagation through every graph made by edits is confluent. -/
theorem confluent_ofHistory (history : List Registration) (name : String) (edits : List Edit) :
    (ofHistory (.ofHistory history) name edits).Confluent (.ofHistory history) := by
  have valid := Registry.consistent_ofHistory history
  have consistent := consistent_ofHistory valid name edits
  constructor
  · intro names final perm ordered
    exact reconcretizeEach_eq_iff valid consistent perm ordered final
  · intro other rearranges
    have alike : (ofHistory (.ofHistory history) name edits).Alike (.ofHistory history) other :=
      rearranges.alike consistent.distinctNames
    have succeeds := alike.succeeds valid consistent.sourceExists
    refine ⟨⟨?_, succeeds⟩, fun succeeded => ?_⟩
    · exact alike.symm.succeeds valid (alike.sourceExists consistent.sourceExists)
    · exact rearranges.node?_reconcretizeAll consistent succeeded (succeeds succeeded)
  · intro final run
    obtain ⟨consistent', settled⟩ := settled_ofHistory run
    refine ⟨reconcretizeAll_of_settled valid consistent' settled, fun name inside => ?_⟩
    exact settled.reconcretize consistent'.distinctNames inside

/-- A sum of two nodes, of which the second has three components. -/
def forkEdits : List Edit :=
  [ .addNode ⟨"Add", 1⟩ "left", .addNode ⟨"Add", 1⟩ "right", .addNode ⟨"Add", 1⟩ "sum",
    .setPortField "right" "A" "Length" (.tag "Three"), .connect ⟨"left", "Out", "sum", "A"⟩,
    .connect ⟨"right", "Out", "sum", "B"⟩ ]

/-- The walk begins at `left`, and beginning at `right` leads to the same graph. -/
theorem confluent_ofHistory_fork :
    (settle forkEdits).2 = none ∧
      reconcretizeEach (.ofHistory standardHistory)
        (ofHistory (.ofHistory standardHistory) "Edited" forkEdits) ["right", "left", "sum"] =
          ((settle forkEdits).1, none) := by
  have succeeded : (settle forkEdits).2 = none := by decide +kernel
  have ordered : (ofHistory (.ofHistory standardHistory) "Edited" forkEdits).Ordered
      ["right", "left", "sum"] :=
    (((Ordered.nil _).snoc (by decide) (by decide +kernel)).snoc (by decide) (by decide +kernel)).snoc
      (by decide) (by decide +kernel)
  have confluent := confluent_ofHistory standardHistory "Edited" forkEdits
  exact ⟨succeeded, (confluent.ordered _ _ (by decide +kernel) ordered).mpr (settle_eq succeeded)⟩

end ShadingGraph.Graph
