import ShadingGraph.Proofs.Propagation

/-! # Deleting edges

Deletion reports the edges that it removes, each once, and thereby the nodes that lose a source.
In a settled graph these are the only ones that concretization may give other ports: all
others are still settled, and those that no reported node leads to have the ports that
concretizing everything gives them.
-/

namespace ShadingGraph

theorem nodup_eraseDups {α : Type} [DecidableEq α] : ∀ items : List α, items.eraseDups.Nodup
  | [] => by simp
  | item :: rest => by
      rw [List.eraseDups_cons, List.nodup_cons]
      refine ⟨?_, nodup_eraseDups _⟩
      rw [List.mem_eraseDups, List.mem_filter]
      simp
  termination_by items => items.length
  decreasing_by exact Nat.lt_succ_of_le (List.length_filter_le _ _)

def Edge.ends (edge : Edge) : List PortRef :=
  [edge.source, edge.target]

namespace Graph

variable {registry : Registry} {graph next : Graph} {name : String}

theorem deleteEdges_go (distinct : graph.edges.Nodup) (removal : EdgeRemoval) (edges : List Edge) :
    deleteEdges.go graph removal edges =
      ({ graph with edges := graph.edges.filter (· ∉ edges) },
        ⟨removal.removed ++ (edges.filter (· ∈ graph.edges)).eraseDups,
          ((edges.filter (· ∈ graph.edges)).eraseDups.flatMap Edge.ends).foldl Table.addNew
            removal.affected⟩) := by
  induction edges generalizing graph removal with
  | nil => simp [deleteEdges.go]
  | cons edge rest ih =>
      rw [deleteEdges.go]
      split
      · rename_i inside
        have left : (graph.edges.erase edge).filter (· ∉ rest) =
            graph.edges.filter (· ∉ edge :: rest) := by
          rw [distinct.erase_eq_filter, List.filter_filter]
          exact List.filter_congr fun other _ => by rw [Bool.eq_iff_iff]; simp [and_comm]
        have later : rest.filter (· ∈ graph.edges.erase edge) =
            (rest.filter (· ∈ graph.edges)).filter fun other => !other == edge := by
          rw [List.filter_filter]
          exact List.filter_congr fun other _ => by rw [Bool.eq_iff_iff]; simp [distinct.mem_erase_iff]
        rw [ih (distinct.erase edge)]
        simp only [left, later, List.filter_cons, inside, decide_true, if_true, List.eraseDups_cons,
          List.flatMap_cons, Edge.ends, List.foldl_append, List.foldl_cons, List.foldl_nil,
          List.append_assoc, List.singleton_append]
      · rename_i absent
        have kept : graph.edges.filter (· ∉ rest) = graph.edges.filter (· ∉ edge :: rest) := by
          refine List.filter_congr fun other inside => ?_
          have different : other ≠ edge := fun same => absent (same ▸ inside)
          simp [different]
        rw [ih distinct, kept, List.filter_cons_of_neg (by simpa using absent)]

theorem deleteEdges_eq (distinct : graph.edges.Nodup) (edges : List Edge) :
    graph.deleteEdges edges =
      ({ graph with edges := graph.edges.filter (· ∉ edges) },
        ⟨(edges.filter (· ∈ graph.edges)).eraseDups,
          ((edges.filter (· ∈ graph.edges)).eraseDups.flatMap Edge.ends).foldl Table.addNew []⟩) :=
  deleteEdges_go distinct ⟨[], []⟩ edges

theorem mem_toReconcretize (removal : EdgeRemoval) : removal.toReconcretize.Nodup ∧
    ∀ name, name ∈ removal.toReconcretize ↔ ∃ edge ∈ removal.removed, edge.toNode = name := by
  have added : removal.toReconcretize = (removal.removed.map Edge.toNode).foldl Table.addNew [] := by
    rw [EdgeRemoval.toReconcretize, List.foldl_map]
  obtain ⟨distinct, members⟩ := Table.foldl_addNew (removal.removed.map Edge.toNode) List.nodup_nil
  rw [added]
  refine ⟨distinct, fun name => ?_⟩
  rw [members, List.mem_map, or_iff_right List.not_mem_nil]

theorem feeds_filter {keep : Edge → Bool}
    (kept : ∀ edge ∈ graph.edges, edge.toNode = name → keep edge = true) :
    { graph with edges := graph.edges.filter keep }.feeds name = graph.feeds name := by
  have same : (graph.edges.filter keep).filter (·.toNode = name) =
      graph.edges.filter (·.toNode = name) := by
    rw [List.filter_filter]
    refine List.filter_congr fun edge inside => ?_
    by_cases ends : edge.toNode = name
    · simp [ends, kept edge inside ends]
    · simp [ends]
  simp only [feeds, same]
  rfl

theorem settledAt_filter {keep : Edge → Bool} {node : Node}
    (kept : ∀ edge ∈ graph.edges, edge.toNode = node.name → keep edge = true)
    (settled : graph.SettledAt registry node) :
    { graph with edges := graph.edges.filter keep }.SettledAt registry node := by
  obtain ⟨definition, known, concretized⟩ := settled
  exact ⟨definition, known, (feeds_filter kept).symm ▸ concretized⟩

theorem SettledAt.concretizable {node : Node} (settled : graph.SettledAt registry node)
    (found : next.node? name = some node) : next.Concretizable registry name := by
  obtain ⟨definition, known, concretized⟩ := settled
  obtain ⟨variant, selected, -⟩ := realizes_of_concretize concretized
  exact ⟨node, found, definition, variant, known, selected⟩

/-- Concretizing everything leaves a node as it is if the unsettled nodes do not lead to it. -/
theorem node?_reconcretizeAll_of_apart (consistent : graph.Consistent registry) {final : Graph}
    (run : graph.reconcretizeAll registry = (final, none)) {unsettled : String → Prop}
    (settled : ∀ other node, graph.node? other = some node → ¬unsettled other →
      graph.SettledAt registry node)
    (apart : ∀ other, unsettled other → ¬Relation.ReflTransGen graph.LeadsTo other name) :
    final.node? name = graph.node? name := by
  obtain ⟨settled', -, -, edges⟩ := settled_of_reconcretizeAll run
  obtain ⟨names, found, -⟩ := settled'.ordered
  obtain ⟨ordered, all⟩ := order?_sound found
  have alike : graph.Alike registry final := by
    have reached : graph.Alike registry (graph.reconcretizeAll registry).1 := .of_reconcretizeAll graph
    rwa [run] at reached
  -- What is apart from the unsettled nodes has only sources that are.
  have closed : ∀ target,
      (∀ other, unsettled other → ¬Relation.ReflTransGen graph.LeadsTo other target) →
      ∀ source ∈ graph.sources target, ∀ other, unsettled other →
        ¬Relation.ReflTransGen graph.LeadsTo other source := by
    intro target apart source feeds other unset leads
    exact apart other unset (leads.tail (mem_sources_iff_leadsTo.mp feeds))
  by_cases inside : name ∈ graph.names
  · refine (alike.node?_eq_of_closed consistent.distinctTargets (ordered.congr edges) closed ?_ ?_ name
      (all name (alike.mem_names.mp inside)) apart).symm
    · exact fun other apart node found => settled other node found fun unset => apart other unset .refl
    · exact fun other _ node found => settled'.nodes node (mem_of_node? found)
  · rw [node?_eq_none.mpr inside, node?_eq_none.mpr (alike.mem_names.not.mp inside)]

/-- What deleting edges does in a settled graph. -/
structure Disconnects (registry : Registry) (graph : Graph) (edges : List Edge) (next : Graph)
    (removal : EdgeRemoval) : Prop where
  /-- The listed edges are gone, and all else is as it was. -/
  rest : next = { graph with edges := graph.edges.filter (· ∉ edges) }
  /-- The edges removed are those of the list that were there, in its order and each once. -/
  removed : removal.removed = (edges.filter (· ∈ graph.edges)).eraseDups ∧ removal.removed.Nodup ∧
    ∀ edge, edge ∈ removal.removed ↔ edge ∈ edges ∧ edge ∈ graph.edges
  affected : removal.affected.Nodup ∧
    ∀ ref, ref ∈ removal.affected ↔ ∃ edge ∈ removal.removed, ref ∈ edge.ends
  reported : removal.toReconcretize.Nodup ∧
    ∀ name, name ∈ removal.toReconcretize ↔ ∃ edge ∈ removal.removed, edge.toNode = name
  /-- All nodes but those reported are still settled. -/
  settled : ∀ name ∈ next.names, name ∉ removal.toReconcretize →
    next.reconcretize name registry = .ok next
  /-- If there is a dependency order, everything can be concretized, and a node that no reported
  one leads to has the ports that this gives it. -/
  current : ∀ names, next.order? = some names → ∃ final,
    next.reconcretizeAll registry = (final, none) ∧
      ∀ name, (∀ reported ∈ removal.toReconcretize,
          ¬Relation.ReflTransGen next.LeadsTo reported name) →
        final.node? name = next.node? name

theorem disconnects_of_settled (valid : registry.Consistent) (consistent : graph.Consistent registry)
    (settled : ∀ name ∈ graph.names, graph.reconcretize name registry = .ok graph) (edges : List Edge) :
    graph.Disconnects registry edges (graph.deleteEdges edges).1 (graph.deleteEdges edges).2 := by
  have consistent' := consistent.deleteEdges edges
  have mem_removed : ∀ edge, edge ∈ (edges.filter (· ∈ graph.edges)).eraseDups ↔
      edge ∈ edges ∧ edge ∈ graph.edges := fun edge => by
    rw [List.mem_eraseDups, List.mem_filter, decide_eq_true_eq]
  rw [deleteEdges_eq (List.Nodup.of_map _ consistent.distinctTargets)] at consistent' ⊢
  generalize removal_eq : EdgeRemoval.mk (edges.filter (· ∈ graph.edges)).eraseDups _ = removal
  have removed : removal.removed = (edges.filter (· ∈ graph.edges)).eraseDups := by rw [← removal_eq]
  rw [← removed] at mem_removed
  obtain ⟨distinct, reported⟩ := mem_toReconcretize removal
  have settledAt : ∀ name node, graph.node? name = some node → graph.SettledAt registry node :=
    fun name node found => (reconcretize_eq_self_iff consistent.distinctNames found).mp
      (settled name (node?_isSome.mp ⟨node, found⟩))
  have settledAt' : ∀ name node, graph.node? name = some node → name ∉ removal.toReconcretize →
      { graph with edges := graph.edges.filter (· ∉ edges) }.SettledAt registry node := by
    intro name node found unreported
    refine settledAt_filter (fun edge inside ends => ?_) (settledAt name node found)
    refine decide_eq_true fun listed => unreported ((reported name).mpr ⟨edge, ?_, ?_⟩)
    · exact (mem_removed edge).mpr ⟨listed, inside⟩
    · rw [ends, name_of_node? found]
  constructor
  case rest => rfl
  case removed => exact ⟨removed, removed ▸ nodup_eraseDups _, mem_removed⟩
  case affected =>
    obtain ⟨distinct, ends⟩ := Table.foldl_addNew (removal.removed.flatMap Edge.ends) List.nodup_nil
    have affected : removal.affected = (removal.removed.flatMap Edge.ends).foldl Table.addNew [] := by
      rw [← removal_eq]
    rw [affected]
    refine ⟨distinct, fun ref => ?_⟩
    rw [ends, List.mem_flatMap, or_iff_right List.not_mem_nil]
  case reported => exact ⟨distinct, reported⟩
  case settled =>
    intro name inside unreported
    obtain ⟨node, found⟩ := node?_isSome.mpr inside
    exact (reconcretize_eq_self_iff consistent'.distinctNames found).mpr
      (settledAt' name node found unreported)
  case current =>
    intro names ordered
    have able : ∀ name ∈ graph.names,
        { graph with edges := graph.edges.filter (· ∉ edges) }.Concretizable registry name := by
      intro name inside
      obtain ⟨node, found⟩ := node?_isSome.mpr inside
      exact (settledAt name node found).concretizable found
    have succeeded := (reconcretizeAll_eq_none_iff valid consistent'.sourceExists).mpr
      ⟨⟨names, ordered⟩, able⟩
    refine ⟨_, Prod.ext rfl succeeded, fun name apart => ?_⟩
    exact node?_reconcretizeAll_of_apart consistent' (Prod.ext rfl succeeded) settledAt' apart

/-- In every graph made by edits whose nodes are all settled, deletion reports all nodes that
concretization has to be run for. -/
theorem disconnects_ofHistory (history : List Registration) (name : String) (edits : List Edit)
    (edges : List Edge)
    (settled : ∀ other ∈ (ofHistory (.ofHistory history) name edits).names,
      (ofHistory (.ofHistory history) name edits).reconcretize other (.ofHistory history) =
        .ok (ofHistory (.ofHistory history) name edits)) :
    (ofHistory (.ofHistory history) name edits).Disconnects (.ofHistory history) edges
      ((ofHistory (.ofHistory history) name edits).deleteEdges edges).1
      ((ofHistory (.ofHistory history) name edits).deleteEdges edges).2 :=
  have valid := Registry.consistent_ofHistory history
  disconnects_of_settled valid (consistent_ofHistory valid name edits) settled edges

theorem ofHistory_settled (edits : List Edit) :
    ofHistory (.ofHistory standardHistory) "Edited" (edits ++ [.reconcretizeAll]) = (settle edits).1 := by
  rw [ofHistory, applyAll, List.foldl_append]
  rfl

/-- The first edge of the chain twice, and between these one that is not in it. -/
def cutEdges : List Edge :=
  [⟨"imposter", "Grid", "sum", "A"⟩, ⟨"scaled", "Out", "sum", "A"⟩, ⟨"imposter", "Grid", "sum", "A"⟩]

/-- Only the sum has to be concretized. The node that it leads to is still settled, and the one
before it has its ports for good. -/
theorem disconnects_chain : ∃ graph next removal,
    graph = ofHistory (.ofHistory standardHistory) "Edited" (chainEdits ++ [.reconcretizeAll]) ∧
    graph.deleteEdges cutEdges = (next, removal) ∧
    next.edges = [⟨"sum", "Out", "scaled", "A"⟩] ∧
    removal.removed = [⟨"imposter", "Grid", "sum", "A"⟩] ∧ removal.toReconcretize = ["sum"] ∧
    next.reconcretize "scaled" (.ofHistory standardHistory) = .ok next ∧
    ∃ final, next.reconcretizeAll (.ofHistory standardHistory) = (final, none) ∧
      final.node? "imposter" = next.node? "imposter" := by
  have run : settle chainEdits = ((settle chainEdits).1, none) := settle_eq (by decide +kernel)
  obtain ⟨consistent, settled⟩ := settled_ofHistory run
  have disconnects := disconnects_ofHistory standardHistory "Edited" (chainEdits ++ [.reconcretizeAll])
    cutEdges (by
      rw [ofHistory_settled]
      exact fun _ => settled.reconcretize consistent.distinctNames)
  rw [ofHistory_settled] at disconnects ⊢
  have edges : ((settle chainEdits).1.deleteEdges cutEdges).1.edges =
      [⟨"sum", "Out", "scaled", "A"⟩] := by
    decide +kernel
  have reported : ((settle chainEdits).1.deleteEdges cutEdges).2.toReconcretize = ["sum"] := by
    decide +kernel
  obtain ⟨final, concretized, current⟩ :=
    disconnects.current ["imposter", "sum", "scaled"] (by decide +kernel)
  refine ⟨_, _, _, rfl, rfl, edges, by decide +kernel, reported, ?_, final, concretized, ?_⟩
  · exact disconnects.settled "scaled" (by decide +kernel) (by rw [reported]; decide)
  · refine current "imposter" fun other among leads => ?_
    rw [reported, List.mem_singleton] at among
    subst among
    rcases leads.cases_tail with same | ⟨_, -, edge, inside, -, into⟩
    · exact absurd same (by decide)
    · rw [edges, List.mem_singleton] at inside
      rw [inside] at into
      exact absurd into (by decide)

end Graph

end ShadingGraph
