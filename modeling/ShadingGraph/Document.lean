import ShadingGraph.Graph.Order

/-! # Documents

A document holds what cannot be recomputed of a graph: names, definitions, variants,
pinned fields and edges. A graph is rebuilt from it by adding the nodes, restoring
the pins, connecting the edges and concretizing everything.
-/

namespace ShadingGraph

/-- A node as a document holds it. -/
structure NodeRecord where
  name : String
  definition : Key
  variant : String
  /-- Fields of pinned ports by port name. -/
  pinned : List (String × Field)
  deriving Repr

/-- The lasting part of a graph. -/
structure GraphDocument where
  version : UInt32
  name : String
  nodes : List NodeRecord
  edges : List Edge
  deriving Repr

inductive RebuildError where
  | graph (error : GraphError)
  | connection (error : ConnectionError)
  deriving DecidableEq, Repr

namespace NodeRecord

def ofNode (node : Node) : NodeRecord where
  name := node.name
  definition := node.definitionKey
  variant := node.selectedVariant
  pinned := Table.ofList ((node.ports.filter (·.pinned)).map fun port => (port.name, port.field))

/-- Equality of two tables of pinned fields, order apart. -/
def equalsPinned (a b : List (String × Field)) : Bool :=
  (Field.composite a).equals (.composite b)

/-- Equality of two records, fields compared as fields are. -/
def equals (a b : NodeRecord) : Bool :=
  a.name = b.name && a.definition = b.definition && a.variant = b.variant
    && equalsPinned a.pinned b.pinned

def equalsAll : List NodeRecord → List NodeRecord → Bool
  | [], [] => true
  | a :: as, b :: bs => a.equals b && equalsAll as bs
  | _, _ => false

end NodeRecord

namespace GraphDocument

/-- Newest version of a document that can be read. -/
def currentVersion : UInt32 := 1

def ofGraph (graph : Graph) : GraphDocument :=
  ⟨currentVersion, graph.name, graph.nodes.map NodeRecord.ofNode, graph.edges⟩

def equals (a b : GraphDocument) : Bool :=
  a.version = b.version && a.name = b.name && NodeRecord.equalsAll a.nodes b.nodes
    && a.edges = b.edges

/-- Write pinned fields into the ports of a node. -/
def restorePins (graph : Graph) (node : String) :
    List (String × Field) → Except GraphError Graph
  | [] => .ok graph
  | (port, field) :: rest =>
    match graph.changeNode node (·.setPortField port "" field) with
    | .ok next => restorePins next node rest
    | .error error => .error error

/-- Add the node of a record, with its variant and its pinned fields. -/
def addRecord (registry : Registry) (graph : Graph) (record : NodeRecord) :
    Except GraphError Graph := do
  let added ← graph.addNode record.definition record.name registry
  let selected ← added.changeNode record.name fun node => .ok (node.selectVariant record.variant)
  let shaped ← selected.reconcretize record.name registry
  restorePins shaped record.name record.pinned

def addRecords (registry : Registry) : Graph → List NodeRecord → Except GraphError Graph
  | graph, [] => .ok graph
  | graph, record :: rest =>
    match addRecord registry graph record with
    | .ok next => addRecords registry next rest
    | .error error => .error error

def connectEdges (registry : Registry) : Graph → List Edge → Except ConnectionError Graph
  | graph, [] => .ok graph
  | graph, edge :: rest =>
    match graph.connect edge registry with
    | .ok (next, _) => connectEdges registry next rest
    | .error error => .error error

def rebuild (registry : Registry) (document : GraphDocument) : Except RebuildError Graph :=
  match addRecords registry (Graph.empty document.name) document.nodes with
  | .error error => .error (.graph error)
  | .ok populated =>
    match connectEdges registry populated document.edges with
    | .error error => .error (.connection error)
    | .ok connected =>
      match connected.reconcretizeAll registry with
      | (graph, none) => .ok graph
      | (_, some error) => .error (.graph error)

end GraphDocument

end ShadingGraph
