import ShadingGraph.Field.Path
import ShadingGraph.Field.Tag
import ShadingGraph.Key

/-! # Ports and edges

A node carries ports; an edge leads from an output port to an input port.
-/

namespace ShadingGraph

/-- How a port takes part in a graph. -/
inductive Usage where
  /-- Fed by at most one edge, or by its own value. -/
  | input
  /-- Feeds edges. -/
  | output
  /-- Holds a value that no edge can feed. -/
  | static
  deriving DecidableEq, Repr

instance : Tagged Usage where
  alternatives := [.input, .output, .static]
  tag
    | .input => "In"
    | .output => "Out"
    | .static => "Static"

namespace Usage

/-- Whether an edge may lead from a port of this usage to one of the other. -/
def canFeed (usage other : Usage) : Bool :=
  usage = .output && other = .input

/-- Whether a port of this usage is declared with a value. -/
def hasInlineValue (usage : Usage) : Bool :=
  usage = .input || usage = .static

end Usage

structure Port where
  name : String
  usage : Usage
  typeKey : Key
  field : Field
  /-- Whether the field was written by hand, so that it is not recomputed. -/
  pinned : Bool
  deriving Repr

namespace Port

/-- Whether name, type and usage all agree. -/
def hasSignature (port : Port) (name : String) (typeKey : Key) (usage : Usage) : Bool :=
  port.name = name && port.typeKey = typeKey && port.usage = usage

/-- Equality of two ports, their fields compared as fields are. -/
def equals (a b : Port) : Bool :=
  a.name = b.name && a.usage = b.usage && a.typeKey = b.typeKey && a.field.equals b.field
    && a.pinned = b.pinned

def equalsAll : List Port → List Port → Bool
  | [], [] => true
  | a :: as, b :: bs => a.equals b && equalsAll as bs
  | _, _ => false

end Port

structure PortRef where
  node : String
  port : String
  deriving DecidableEq, Repr

structure Edge where
  fromNode : String
  fromPort : String
  toNode : String
  toPort : String
  deriving DecidableEq, Repr

namespace Edge

/-- Whether one of the ends is at the node. -/
def involves (edge : Edge) (node : String) : Bool :=
  edge.fromNode = node || edge.toNode = node

def targets (edge : Edge) (node port : String) : Bool :=
  edge.toNode = node && edge.toPort = port

def source (edge : Edge) : PortRef := ⟨edge.fromNode, edge.fromPort⟩

def target (edge : Edge) : PortRef := ⟨edge.toNode, edge.toPort⟩

end Edge

end ShadingGraph
