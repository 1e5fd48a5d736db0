import ShadingGraph.Proofs.Settlement

/-! # Shapes of nodes along edit histories

Selecting a variant leaves the ports of a node as they are until the node is
concretized. So the ports tell which variant was selected at that time, not which one
is selected now. A ledger kept beside the graph says which one that was, and along
every history each node has the ports of the variant in the ledger. With consistency this
makes up `Graph.Sound`, what every graph satisfies at all times.
-/

namespace ShadingGraph

variable {registry : Registry} {graph next : Graph}

/-- For each name the variant that its node had selected when it was last concretized. -/
abbrev Ledger := String → Option String

namespace Ledger

variable {ledger : Ledger}

/-- Note the variant that the node of a name selects. Concretizing the node has left its
selection as it was. -/
def note (ledger : Ledger) (graph : Graph) (name : String) : Ledger :=
  Function.update ledger name ((graph.node? name).map (·.selectedVariant))

theorem note_eq_some {name : String} {node : Node} (found : graph.node? name = some node) :
    ledger.note graph name name = some node.selectedVariant := by
  rw [note, Function.update_self, found, Option.map_some]

theorem note_of_ne {name other : String} (different : other ≠ name) :
    ledger.note graph name other = ledger other :=
  Function.update_of_ne different _ _

/-- Ledger after nodes are concretized one after the other, up to the first failure. -/
def noteEach (registry : Registry) (graph : Graph) (ledger : Ledger) : List String → Ledger
  | [] => ledger
  | name :: rest =>
    match graph.reconcretize name registry with
    | .ok next => noteEach registry next (ledger.note next name) rest
    | .error _ => ledger

/-- Ledger after an edit of the graph. Only three edits concretize nodes. What is noted of
a removed node stays until one of its name is added. -/
def apply (registry : Registry) (graph : Graph) (ledger : Ledger) : Edit → Ledger
  | .addNode key name =>
    match graph.addNode key name registry with
    | .ok next => ledger.note next name
    | .error _ => ledger
  | .reconcretize name => ledger.noteEach registry graph [name]
  | .reconcretizeAll =>
    match graph.order? with
    | some names => ledger.noteEach registry graph names
    | none => ledger
  | .removeNode .. | .connect .. | .deleteEdges .. | .setPortField .. | .setField .. | .clearPin ..
  | .selectVariant .. => ledger

def applyAll (registry : Registry) (graph : Graph) (ledger : Ledger) : List Edit → Ledger
  | [] => ledger
  | edit :: rest =>
    applyAll registry (graph.apply registry edit).1 (ledger.apply registry graph edit) rest

def ofHistory (registry : Registry) (name : String) (edits : List Edit) : Ledger :=
  applyAll registry (.empty name) (fun _ => none) edits

end Ledger

namespace Graph

variable {ledger : Ledger} {name : String}

/-- Each node has the ports of the variant in the ledger. -/
def Recorded (registry : Registry) (ledger : Ledger) (graph : Graph) : Prop :=
  ∀ node ∈ graph.nodes, ∃ id, ledger node.name = some id ∧ node.ShapedBy registry id

namespace Recorded

theorem of_subset (recorded : graph.Recorded registry ledger)
    (fewer : ∀ node ∈ next.nodes, node ∈ graph.nodes) : next.Recorded registry ledger :=
  fun node inside => recorded node (fewer node inside)

theorem changeNode (recorded : graph.Recorded registry ledger)
    {change : Node → Except NodeError Node}
    (kept : ∀ node changed, change node = .ok changed → node.SameShape changed)
    (done : graph.changeNode name change = .ok next) : next.Recorded registry ledger := by
  obtain ⟨node, changed, found, made, rfl⟩ := changeNode_eq_ok.mp done
  have same := kept node changed made
  intro other inside
  obtain ⟨former, member, rfl⟩ := List.mem_map.mp inside
  split
  · obtain ⟨id, noted, shaped⟩ := recorded node (mem_of_node? found)
    exact ⟨id, same.name ▸ noted, shaped.of_sameShape same⟩
  · exact recorded former member

theorem addNode (recorded : graph.Recorded registry ledger) (valid : registry.Consistent) {key : Key}
    (added : graph.addNode key name registry = .ok next) :
    next.Recorded registry (ledger.note next name) := by
  obtain ⟨definition, ports, unused, known, concretized, rfl⟩ := addNode_eq_ok.mp added
  have keyed : definition.key = key := valid.nodeKeyed key definition (Registry.node_eq_ok.mp known)
  intro node inside
  rcases List.mem_append.mp inside with earlier | last
  · have different : node.name ≠ name := by
      rintro rfl
      exact unused (List.mem_map_of_mem earlier)
    rw [Ledger.note_of_ne different]
    exact recorded node earlier
  · cases List.mem_singleton.mp last
    refine ⟨definition.defaultVariant, ?_, ?_⟩
    · exact Ledger.note_eq_some (node?_withNode { Node.fresh name definition with ports } unused)
    · exact Node.shapedBy_of_concretize (by rw [Node.fresh, keyed, known]) concretized

theorem reconcretize (recorded : graph.Recorded registry ledger)
    (done : graph.reconcretize name registry = .ok next) :
    next.Recorded registry (ledger.note next name) := by
  obtain ⟨node, definition, ports, found, known, concretized, rfl⟩ := reconcretize_eq_ok.mp done
  obtain rfl : node.name = name := name_of_node? found
  intro other inside
  obtain ⟨former, member, rfl⟩ := List.mem_map.mp inside
  split
  · have replaced : (graph.replaceNode { node with ports }).node? node.name =
        some { node with ports } := by
      rw [node?_replaceNode, found, Option.map_some, if_pos rfl]
    refine ⟨node.selectedVariant, ?_, Node.shapedBy_of_concretize known concretized⟩
    rw [Ledger.note_eq_some replaced]
  · rename_i different
    rw [Ledger.note_of_ne different]
    exact recorded former member

/-- A run that stops at a failure has noted the nodes before it. -/
theorem reconcretizeEach (recorded : graph.Recorded registry ledger) (names : List String) :
    (reconcretizeEach registry graph names).1.Recorded registry
      (ledger.noteEach registry graph names) := by
  induction names generalizing graph ledger with
  | nil => exact recorded
  | cons name rest ih =>
      rw [Graph.reconcretizeEach, Ledger.noteEach]
      cases done : graph.reconcretize name registry with
      | ok next => exact ih (recorded.reconcretize done)
      | error error => exact recorded

theorem reconcretizeAll (recorded : graph.Recorded registry ledger) :
    (graph.reconcretizeAll registry).1.Recorded registry
      (ledger.apply registry graph .reconcretizeAll) := by
  rw [Graph.reconcretizeAll, Ledger.apply]
  cases graph.order? with
  | none => exact recorded
  | some names => exact recorded.reconcretizeEach names

theorem apply (recorded : graph.Recorded registry ledger) (consistent : graph.Consistent registry)
    (valid : registry.Consistent) (edit : Edit) :
    (graph.apply registry edit).1.Recorded registry (ledger.apply registry graph edit) := by
  cases edit with
  | addNode key name =>
      rw [Graph.apply, Ledger.apply]
      cases added : graph.addNode key name registry with
      | ok next => exact recorded.addNode valid added
      | error error => exact recorded
  | removeNode name =>
      refine attempt_invariant recorded fun next done => ?_
      obtain ⟨⟨next, removed⟩, taken, rfl⟩ := Outcome.map_eq_ok.mp done
      rw [removeNode_eq_ok taken]
      exact recorded.of_subset fun node inside => List.eraseP_sublist.subset inside
  | connect edge =>
      rw [Graph.apply]
      cases connected : graph.connect edge registry with
      | error error => exact recorded
      | ok result =>
          obtain ⟨-, -, joined⟩ := (connect_eq_ok consistent.distinctTargets).mp connected
          rw [joined]
          exact recorded
  | deleteEdges edges =>
      refine recorded.of_subset fun node inside => ?_
      rw [← (deleteEdges_sublist graph edges).1]
      exact inside
  | setPortField node port path value =>
      exact attempt_invariant recorded fun _ =>
        recorded.changeNode fun _ _ done => (Node.differsAt_setPortField done).shape
  | setField node address value =>
      exact attempt_invariant recorded fun _ => recorded.changeNode fun _ _ => Node.sameShape_setField
  | clearPin node port =>
      exact attempt_invariant recorded fun _ =>
        recorded.changeNode fun _ _ done => (Node.differsAt_clearPin done).shape
  | selectVariant node id =>
      refine attempt_invariant recorded fun _ => recorded.changeNode fun found changed done => ?_
      cases done
      exact Node.sameShape_selectVariant found id
  | reconcretize name =>
      rw [Graph.apply, Ledger.apply, Ledger.noteEach]
      cases done : graph.reconcretize name registry with
      | ok next => exact recorded.reconcretize done
      | error error => exact recorded
  | reconcretizeAll => exact recorded.reconcretizeAll

theorem applyAll (recorded : graph.Recorded registry ledger) (consistent : graph.Consistent registry)
    (valid : registry.Consistent) (edits : List Edit) :
    (graph.applyAll registry edits).Recorded registry (ledger.applyAll registry graph edits) := by
  induction edits generalizing graph ledger with
  | nil => exact recorded
  | cons edit rest ih =>
      exact ih (recorded.apply consistent valid edit) (consistent.apply valid edit)

end Recorded

/-- What the nodes and edges of a graph satisfy at all times. -/
structure Sound (registry : Registry) (ledger : Ledger) (graph : Graph) : Prop where
  /-- An input is the target of at most one edge. -/
  fedOnce : ∀ edge ∈ graph.edges, ∀ other ∈ graph.edges, edge.target = other.target → edge = other
  distinctEdges : graph.edges.Nodup
  endsExist : ∀ edge ∈ graph.edges,
    (∃ node, graph.node? edge.fromNode = some node) ∧ ∃ node, graph.node? edge.toNode = some node
  endsDiffer : ∀ edge ∈ graph.edges, edge.fromNode ≠ edge.toNode
  /-- A node is found under its own name and under no other. -/
  keyed : ∀ name node, graph.node? name = some node ↔ node ∈ graph.nodes ∧ node.name = name
  distinctPorts : ∀ node ∈ graph.nodes, (node.ports.map (·.name)).Nodup
  recorded : graph.Recorded registry ledger

/-- Every graph made by edits is sound, failing edits included. -/
theorem sound_ofHistory (history : List Registration) (name : String) (edits : List Edit) :
    (ofHistory (.ofHistory history) name edits).Sound (.ofHistory history)
      (.ofHistory (.ofHistory history) name edits) := by
  have valid := Registry.consistent_ofHistory history
  have consistent := consistent_ofHistory valid name edits
  have empty : (empty name).Recorded (.ofHistory history) fun _ => none := by
    intro node inside
    cases inside
  constructor
  · intro edge inside other inside' same
    exact List.inj_on_of_nodup_map consistent.distinctTargets inside inside' same
  · exact List.Nodup.of_map _ consistent.distinctTargets
  · intro edge inside
    exact ⟨node?_isSome.mpr (consistent.sourceExists edge inside),
      node?_isSome.mpr (consistent.targetExists edge inside)⟩
  · exact consistent.noLoop
  · intro other node
    exact Table.find?_key_eq_some consistent.distinctNames
  · intro node inside
    exact (consistent.conforms node inside).distinctPorts valid
  · exact empty.applyAll (consistent_empty _ name) valid edits

/-- The node selects `OneFrame` by now and keeps its ports until it is concretized. -/
example : Ledger.ofHistory (.ofHistory standardHistory) "Edited" strandedEdits "imposter" =
    some "ThreeFrames" := by
  decide +kernel

end Graph

end ShadingGraph
