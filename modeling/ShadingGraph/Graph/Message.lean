import ShadingGraph.Graph.Basic
import ShadingGraph.Text.Escape

/-! # Texts of graph errors -/

namespace ShadingGraph

/-- Reference to a port as error texts show it, names in quotes. -/
def PortRef.shown (ref : PortRef) : String :=
  "PortRef \x7b node: " ++ String.ofList (Text.quoted false ref.node) ++ ", port: "
    ++ String.ofList (Text.quoted false ref.port) ++ " \x7d"

def unknownVariantText (node variant : String) : String :=
  "Node " ++ node ++ " selects unknown variant '" ++ variant ++ "'"

def cycleText : String := "Graph contains a cycle"

def ConcretizationError.message : ConcretizationError → String
  | .unknownVariant node variant => unknownVariantText node variant
  | .registry error => error.message

def GraphError.message : GraphError → String
  | .duplicateNodeName name => "Duplicate node name: " ++ name
  | .unknownNode name => "Unknown node: " ++ name
  | .unknownPort port => "Unknown port: " ++ port.shown
  | .unknownVariant node variant => unknownVariantText node variant
  | .field error => error.message
  | .registry error => error.message
  | .cycle => cycleText

def ConnectionError.message : ConnectionError → String
  | .nodeNotFound name => "Node not found: " ++ name
  | .portNotFound port => "Port not found: " ++ port.shown
  | .usageMismatch source target =>
    "Cannot connect " ++ Tagged.tag source ++ " port to " ++ Tagged.tag target ++ " port"
  | .incompatiblePorts source target =>
    "Incompatible port types: " ++ source.text ++ " -> " ++ target.text
  | .selfLoop => "Self-loop not allowed"
  | .registry error => error.message

end ShadingGraph
