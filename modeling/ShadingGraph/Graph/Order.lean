import ShadingGraph.Graph.Basic

/-! # Dependency order

Nodes in dependency order: the source of every edge before its target. The order is
found by a depth-first walk against the edges, which starts from the nodes in their
own order and lists a name when all its sources are listed. A walk that comes back
to a name on its own path has met a cycle. Names that only edges mention take part
as well.
-/

namespace ShadingGraph

namespace Graph

/-- Nodes at the sources of the edges into a node, in the order of the edges. -/
def sources (graph : Graph) (name : String) : List String :=
  (graph.edges.filter (·.toNode = name)).map (·.fromNode)

/-- List a name after its sources. `path` holds the names whose sources are being
listed, `order` those listed already; `none` means a cycle. The fuel is an upper
bound on the length of a path without repetitions. -/
def visit (graph : Graph) : Nat → List String → List String → String → Option (List String)
  | 0, _, _, _ => none
  | fuel + 1, path, order, name =>
    if name ∈ path then none
    else if name ∈ order then some order
    else do
      let listed ← (graph.sources name).foldlM (visit graph fuel (name :: path)) order
      return listed ++ [name]

/-- Names in dependency order, or `none` if the walk meets a cycle. -/
def order? (graph : Graph) : Option (List String) :=
  graph.names.foldlM (graph.visit (graph.nodes.length + graph.edges.length + 1) []) []

/-- Concretize nodes one after the other as long as that succeeds: the graph reached,
and the error that stopped it. -/
def reconcretizeEach (registry : Registry) (graph : Graph) :
    List String → Graph × Option GraphError
  | [] => (graph, none)
  | name :: rest =>
    match graph.reconcretize name registry with
    | .ok next => reconcretizeEach registry next rest
    | .error error => (graph, some error)

/-- Concretize all nodes in dependency order. After a failure the nodes before the
failing one stay concretized. -/
def reconcretizeAll (graph : Graph) (registry : Registry) : Graph × Option GraphError :=
  match graph.order? with
  | none => (graph, some .cycle)
  | some names => reconcretizeEach registry graph names

end Graph

end ShadingGraph
