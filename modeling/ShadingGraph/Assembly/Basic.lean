import ShadingGraph.Assembly.Fragment
import ShadingGraph.Assembly.Template
import ShadingGraph.Graph.Message
import ShadingGraph.Graph.Order

/-! # Assembly

Assembling a node declares each port under its identifier, with the literal of its
field where it holds an inline value, and puts identifiers for the references in the
body. Assembling a graph does so for every node in dependency order; a connected
input is initialized with the identifier of its source instead.
-/

namespace ShadingGraph

inductive AssemblyError where
  | unresolvedReference (node variant name : String)
  | unknownVariant (node variant : String)
  | duplicateIdentifier (identifier : String) (first second : PortRef)
  | registry (error : RegistryError)
  | cycle
  deriving DecidableEq, Repr

def AssemblyError.message : AssemblyError → String
  | .unresolvedReference node variant name =>
    "Node " ++ node ++ " (" ++ variant ++ ") references unknown parameter '" ++ name ++ "'"
  | .unknownVariant node variant => unknownVariantText node variant
  | .duplicateIdentifier identifier first second =>
    "Ports " ++ first.shown ++ " and " ++ second.shown ++ " both assemble to '" ++ identifier
      ++ "'"
  | .registry error => error.message
  | .cycle => cycleText

namespace Assembly

/-- Declaration of a port with the value it holds. -/
def declare (settings : AssemblySettings) (registry : Registry) (node : String) (port : Port) :
    Except RegistryError Declaration := do
  let type ← registry.type port.typeKey
  return {
    identifier := portIdentifier settings node port.name
    shaderType := type.shaderType port.field
    initializer := if port.usage.hasInlineValue then type.literal? port.field else none }

def declareAll (settings : AssemblySettings) (registry : Registry) (node : String) :
    List Port → Except RegistryError (List Declaration)
  | [] => .ok []
  | port :: rest => do
    let declaration ← declare settings registry node port
    let declarations ← declareAll settings registry node rest
    return declaration :: declarations

/-- Code for a token. A reference to a resource that names no member means the
default member of its type. -/
def expand (settings : AssemblySettings) (registry : Registry) (node : String)
    (variant : Variant) : Token → Except AssemblyError (List Char)
  | .char c => .ok [c]
  | .sigil => .ok [settings.sigil]
  | .reference name member =>
    match variant.parameter? name with
    | none => .error (.unresolvedReference node variant.id name)
    | some parameter =>
      let identifier := (portIdentifier settings node parameter.name).toList
      if member then .ok identifier
      else
        match registry.type parameter.typeKey with
        | .error error => .error (.registry error)
        | .ok type =>
          match type.defaultMember? with
          | some memberName => .ok (identifier ++ '.' :: memberName.toList)
          | none => .ok identifier

def expandAll (settings : AssemblySettings) (registry : Registry) (node : String)
    (variant : Variant) : List Token → Except AssemblyError (List Char)
  | [] => .ok []
  | token :: rest => do
    let code ← expand settings registry node variant token
    let codes ← expandAll settings registry node variant rest
    return code ++ codes

/-- Body of a variant with every reference replaced. -/
def substitute (settings : AssemblySettings) (registry : Registry) (node : String)
    (variant : Variant) : Except AssemblyError String :=
  (expandAll settings registry node variant
    (Template.tokens settings.sigil variant.body.toList)).map String.ofList

end Assembly

/-- Code of one node by itself; edges are not consulted. -/
def assemble (settings : AssemblySettings) (registry : Registry) (node : Node) :
    Except AssemblyError Fragment := do
  let definition ← (registry.node node.definitionKey).mapError .registry
  match definition.variant? node.selectedVariant with
  | none => .error (.unknownVariant node.name node.selectedVariant)
  | some variant =>
    let declarations ← (Assembly.declareAll settings registry node.name node.ports).mapError
      .registry
    let body ← Assembly.substitute settings registry node.name variant
    return ⟨node.name, variant.id, declarations, body, variant.includes⟩

namespace Assembly

/-- Identifiers that are taken, with the ports that took them. -/
abbrev TakenNames := List (String × PortRef)

/-- Take the identifiers of the ports of a node, none of which may be taken. -/
def takeNames (settings : AssemblySettings) (node : String) :
    TakenNames → List Port → Except AssemblyError TakenNames
  | taken, [] => .ok taken
  | taken, port :: rest =>
    let identifier := portIdentifier settings node port.name
    match Table.find? taken identifier with
    | some first => .error (.duplicateIdentifier identifier first ⟨node, port.name⟩)
    | none => takeNames settings node (taken ++ [(identifier, ⟨node, port.name⟩)]) rest

/-- Declaration of a port within a graph: a connected input is initialized with the
identifier of its source. -/
def link (settings : AssemblySettings) (graph : Graph) (node : String) (port : Port)
    (declaration : Declaration) : Declaration :=
  if port.usage = .input then
    match graph.incoming? node port.name with
    | some edge =>
      { declaration with
        initializer := some (portIdentifier settings edge.fromNode edge.fromPort) }
    | none => declaration
  else declaration

/-- Fragments of nodes in order. Names without a node are passed over. -/
def assembleEach (settings : AssemblySettings) (registry : Registry) (graph : Graph) :
    TakenNames → List String → Except AssemblyError (List Fragment)
  | _, [] => .ok []
  | taken, name :: rest =>
    match graph.node? name with
    | none => assembleEach settings registry graph taken rest
    | some node => do
      let fragment ← assemble settings registry node
      let taken ← takeNames settings node.name taken node.ports
      let fragments ← assembleEach settings registry graph taken rest
      let declarations :=
        List.zipWith (link settings graph node.name) node.ports fragment.declarations
      return { fragment with declarations } :: fragments

end Assembly

/-- Code of all nodes of a graph in dependency order. -/
def assembleGraph (settings : AssemblySettings) (registry : Registry) (graph : Graph) :
    Except AssemblyError (List Fragment) :=
  match graph.order? with
  | none => .error .cycle
  | some names => Assembly.assembleEach settings registry graph [] names

end ShadingGraph
