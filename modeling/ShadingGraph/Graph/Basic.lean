import ShadingGraph.Concretization

/-! # Graphs

A graph holds named nodes in the order in which they were added, and edges in the
order in which they were connected. Every operation here changes the structure or a
single node; the ports of other nodes stay as they are until they are concretized
again.
-/

namespace ShadingGraph

inductive GraphError where
  | duplicateNodeName (name : String)
  | unknownNode (name : String)
  | unknownPort (port : PortRef)
  | unknownVariant (node variant : String)
  | field (error : FieldError)
  | registry (error : RegistryError)
  | cycle
  deriving DecidableEq, Repr

def GraphError.ofNode : NodeError → GraphError
  | .unknownPort port => .unknownPort port
  | .field error => .field error

def GraphError.ofConcretization : ConcretizationError → GraphError
  | .unknownVariant node variant => .unknownVariant node variant
  | .registry error => .registry error

inductive ConnectionError where
  | nodeNotFound (name : String)
  | portNotFound (port : PortRef)
  | usageMismatch (source target : Usage)
  | incompatiblePorts (source target : Key)
  | selfLoop
  | registry (error : RegistryError)
  deriving DecidableEq, Repr

structure Graph where
  name : String
  nodes : List Node
  edges : List Edge
  deriving Repr

/-- What a deletion of edges removed and touched. -/
structure EdgeRemoval where
  removed : List Edge
  /-- Ends of the removed edges, each once. -/
  affected : List PortRef
  deriving DecidableEq, Repr

/-- Nodes that lost a source, each once. -/
def EdgeRemoval.toReconcretize (removal : EdgeRemoval) : List String :=
  removal.removed.foldl (fun names edge => Table.addNew names edge.toNode) []

namespace Graph

def empty (name : String) : Graph := ⟨name, [], []⟩

def untitled : String := "Untitled"

def names (graph : Graph) : List String :=
  graph.nodes.map (·.name)

def node? (graph : Graph) (name : String) : Option Node :=
  graph.nodes.find? (·.name = name)

def port? (graph : Graph) (ref : PortRef) : Option Port :=
  (graph.node? ref.node).bind (·.port? ref.port)

/-- Put a node in the place of the one of its name. -/
def replaceNode (graph : Graph) (node : Node) : Graph :=
  { graph with nodes := graph.nodes.map fun other => if other.name = node.name then node else other }

/-- Sources of the inputs of a node, in the order of the edges. -/
def feeds (graph : Graph) (name : String) : List Feed :=
  (graph.edges.filter (·.toNode = name)).filterMap fun edge =>
    (graph.port? edge.source).map (⟨edge.toPort, ·⟩)

/-- The first edge into a port. -/
def incoming? (graph : Graph) (node port : String) : Option Edge :=
  graph.edges.find? (·.targets node port)

def edgesAt (graph : Graph) (node : String) : List Edge :=
  graph.edges.filter (·.involves node)

/-- Add a node of a registered definition under an unused name, with the default
variant and without sources. -/
def addNode (graph : Graph) (key : Key) (name : String) (registry : Registry) :
    Except GraphError Graph :=
  if (graph.node? name).isSome then .error (.duplicateNodeName name)
  else
    match registry.node key with
    | .error error => .error (.registry error)
    | .ok definition =>
      let fresh := Node.fresh name definition
      match concretize fresh definition [] registry with
      | .error error => .error (.ofConcretization error)
      | .ok ports => .ok { graph with nodes := graph.nodes ++ [{ fresh with ports }] }

/-- Remove a node and all edges at it: the graph without it, and the node. -/
def removeNode (graph : Graph) (name : String) : Except GraphError (Graph × Node) :=
  match graph.node? name with
  | none => .error (.unknownNode name)
  | some node =>
    .ok ({ graph with
      nodes := graph.nodes.eraseP (·.name = name)
      edges := graph.edges.filter (!·.involves name) }, node)

/-- Port at the end of an edge that is to be connected. -/
def connectionPort (graph : Graph) (ref : PortRef) : Except ConnectionError Port :=
  match graph.node? ref.node with
  | none => .error (.nodeNotFound ref.node)
  | some node =>
    match node.port? ref.port with
    | none => .error (.portNotFound ref)
    | some port => .ok port

def checkConnection (graph : Graph) (edge : Edge) (registry : Registry) :
    Except ConnectionError Unit := do
  let source ← graph.connectionPort edge.source
  let target ← graph.connectionPort edge.target
  unless source.usage.canFeed target.usage do
    throw (.usageMismatch source.usage target.usage)
  let sourceType ← (registry.type source.typeKey).mapError .registry
  let targetType ← (registry.type target.typeKey).mapError .registry
  unless targetType.accepts sourceType do
    throw (.incompatiblePorts source.typeKey target.typeKey)
  if edge.fromNode = edge.toNode then
    throw .selfLoop

/-- Connect an output to an input: the graph with the edge, and the edge that fed the
input before and is replaced. -/
def connect (graph : Graph) (edge : Edge) (registry : Registry) :
    Except ConnectionError (Graph × Option Edge) := do
  graph.checkConnection edge registry
  let replaced := graph.incoming? edge.toNode edge.toPort
  let others := match replaced with
    | some previous => graph.edges.erase previous
    | none => graph.edges
  return ({ graph with edges := Table.addNew others edge }, replaced)

/-- Connect an output to an input: the graph afterwards, and whether that succeeded. -/
def tryConnect (graph : Graph) (edge : Edge) (registry : Registry) : Graph × Bool :=
  match graph.connect edge registry with
  | .ok (next, _) => (next, true)
  | .error _ => (graph, false)

/-- Remove edges; those that are not in the graph are passed over. -/
def deleteEdges (graph : Graph) : List Edge → Graph × EdgeRemoval
  | edges => go graph ⟨[], []⟩ edges
where
  go (graph : Graph) (removal : EdgeRemoval) : List Edge → Graph × EdgeRemoval
    | [] => (graph, removal)
    | edge :: rest =>
      if edge ∈ graph.edges then
        go { graph with edges := graph.edges.erase edge }
          ⟨removal.removed ++ [edge],
            Table.addNew (Table.addNew removal.affected edge.source) edge.target⟩ rest
      else go graph removal rest

def changeNode (graph : Graph) (name : String) (change : Node → Except NodeError Node) :
    Except GraphError Graph :=
  match graph.node? name with
  | none => .error (.unknownNode name)
  | some node =>
    match change node with
    | .ok changed => .ok (graph.replaceNode changed)
    | .error error => .error (.ofNode error)

/-- Concretize a node again with its present variant, pins and sources. -/
def reconcretize (graph : Graph) (name : String) (registry : Registry) : Except GraphError Graph :=
  match graph.node? name with
  | none => .error (.unknownNode name)
  | some node =>
    match registry.node node.definitionKey with
    | .error error => .error (.registry error)
    | .ok definition =>
      match concretize node definition (graph.feeds name) registry with
      | .error error => .error (.ofConcretization error)
      | .ok ports => .ok (graph.replaceNode { node with ports })

end Graph

end ShadingGraph
