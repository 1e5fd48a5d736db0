import ShadingGraph.Codec.Field
import ShadingGraph.Document

/-! # Codecs of graphs and documents -/

namespace ShadingGraph

/-- A whole graph as it is written: nodes under their names, and edges. -/
structure GraphSnapshot where
  name : String
  nodes : List (String × Node)
  edges : List Edge
  deriving Repr

def GraphSnapshot.ofGraph (graph : Graph) : GraphSnapshot :=
  ⟨graph.name, graph.nodes.map fun node => (node.name, node), graph.edges⟩

namespace Codec

instance : Codec Port where
  datum port := .record "PortInstance"
    [ ("name", datum port.name), ("usage", datum port.usage), ("type_key", datum port.typeKey),
      ("field", datum port.field), ("pinned", datum port.pinned) ]
  read? source := do
    let members ← Source.record? "PortInstance"
      [ ("name", .required), ("usage", .required), ("type_key", .required),
        ("field", .required), ("pinned", .required) ] source
    return ⟨← member? members "name", ← member? members "usage", ← member? members "type_key",
      ← member? members "field", ← member? members "pinned"⟩

instance : Codec PortRef where
  datum ref := .record "PortRef" [("node", datum ref.node), ("port", datum ref.port)]
  read? source := do
    let members ← Source.record? "PortRef" [("node", .required), ("port", .required)] source
    return ⟨← member? members "node", ← member? members "port"⟩

instance : Codec Edge where
  datum edge := .record "Edge"
    [ ("from_node", datum edge.fromNode), ("from_port", datum edge.fromPort),
      ("to_node", datum edge.toNode), ("to_port", datum edge.toPort) ]
  read? source := do
    let members ← Source.record? "Edge"
      [ ("from_node", .required), ("from_port", .required), ("to_node", .required),
        ("to_port", .required) ] source
    return ⟨← member? members "from_node", ← member? members "from_port",
      ← member? members "to_node", ← member? members "to_port"⟩

instance : Codec Node where
  datum node := .record "NodeInstance"
    [ ("name", datum node.name), ("definition_key", datum node.definitionKey),
      ("selected_variant", datum node.selectedVariant), ("ports", datum node.ports) ]
  read? source := do
    let members ← Source.record? "NodeInstance"
      [ ("name", .required), ("definition_key", .required), ("selected_variant", .required),
        ("ports", .required) ] source
    return ⟨← member? members "name", ← member? members "definition_key",
      ← member? members "selected_variant", ← member? members "ports"⟩

instance : Codec GraphSnapshot where
  datum graph := .record "GraphHandler"
    [ ("name", datum graph.name),
      ("nodes", .map (graph.nodes.map fun (name, node) => (name, datum node))),
      ("edges", datum graph.edges) ]
  read? source := do
    let members ← Source.record? "GraphHandler"
      [("name", .required), ("nodes", .required), ("edges", .required)] source
    let entries ← (Table.find? members "nodes").bind Source.map?
    let nodes ← entries.mapM fun (name, node) => return (name, ← read? node)
    let edges : List Edge ← member? members "edges"
    return ⟨← member? members "name", Table.ofList nodes, edges.foldl Table.addNew []⟩

instance : Codec NodeRecord where
  datum record := .record "NodeRecord"
    [ ("name", datum record.name), ("definition", datum record.definition),
      ("variant", datum record.variant), ("pinned", .map (Field.memberData record.pinned)) ]
  read? source := do
    let members ← Source.record? "NodeRecord"
      [ ("name", .required), ("definition", .required), ("variant", .required),
        ("pinned", .defaulted) ] source
    let pinned ← match Table.find? members "pinned" with
      | some entries => Field.readMembers? entries
      | none => some []
    return ⟨← member? members "name", ← member? members "definition",
      ← member? members "variant", pinned⟩

instance : Codec GraphDocument where
  datum document := .record "GraphDocument"
    [ ("version", datum document.version), ("name", datum document.name),
      ("nodes", datum document.nodes), ("edges", datum document.edges) ]
  read? source := do
    let members ← Source.record? "GraphDocument"
      [ ("version", .required), ("name", .required), ("nodes", .required),
        ("edges", .defaulted) ] source
    return ⟨← member? members "version", ← member? members "name", ← member? members "nodes",
      ← memberOr? [] members "edges"⟩

end Codec

end ShadingGraph
