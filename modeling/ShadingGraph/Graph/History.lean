import ShadingGraph.Graph.Order

/-! # Edit histories

The graphs that editing can reach: those that a sequence of edits makes from an
empty graph over one registry. A failing edit leaves the graph as it was, except
that a failing `reconcretizeAll` keeps the nodes it has done.
-/

namespace ShadingGraph

inductive Edit where
  | addNode (key : Key) (name : String)
  | removeNode (name : String)
  | connect (edge : Edge)
  | deleteEdges (edges : List Edge)
  | setPortField (node port path : String) (value : Field)
  | setField (node address : String) (value : Field)
  | clearPin (node port : String)
  | selectVariant (node id : String)
  | reconcretize (node : String)
  | reconcretizeAll

inductive EditError where
  | graph (error : GraphError)
  | connection (error : ConnectionError)
  deriving DecidableEq, Repr

namespace Graph

/-- Graph after an attempt, and the error if it failed. -/
def attempt (graph : Graph) : Except GraphError Graph → Graph × Option EditError
  | .ok next => (next, none)
  | .error error => (graph, some (.graph error))

/-- Carry out an edit: the graph afterwards and the error, if it failed. -/
def apply (registry : Registry) (graph : Graph) : Edit → Graph × Option EditError
  | .addNode key name => graph.attempt (graph.addNode key name registry)
  | .removeNode name => graph.attempt ((graph.removeNode name).map (·.1))
  | .connect edge =>
    match graph.connect edge registry with
    | .ok (next, _) => (next, none)
    | .error error => (graph, some (.connection error))
  | .deleteEdges edges => ((graph.deleteEdges edges).1, none)
  | .setPortField node port path value =>
    graph.attempt (graph.changeNode node (·.setPortField port path value))
  | .setField node address value =>
    graph.attempt (graph.changeNode node (·.setField address value))
  | .clearPin node port => graph.attempt (graph.changeNode node (·.clearPin port))
  | .selectVariant node id =>
    graph.attempt (graph.changeNode node fun found => .ok (found.selectVariant id))
  | .reconcretize node => graph.attempt (graph.reconcretize node registry)
  | .reconcretizeAll =>
    let (next, error) := graph.reconcretizeAll registry
    (next, error.map .graph)

/-- Graph after a sequence of edits, failing ones included. -/
def applyAll (registry : Registry) (graph : Graph) (edits : List Edit) : Graph :=
  edits.foldl (fun current edit => (current.apply registry edit).1) graph

/-- Graph made from an empty one by a sequence of edits. -/
def ofHistory (registry : Registry) (name : String) (edits : List Edit) : Graph :=
  (empty name).applyAll registry edits

end Graph

end ShadingGraph
