import ShadingGraph.Definition
import ShadingGraph.Text.Split

/-! # Nodes

A node is a named use of a definition with one of its variants selected. Its ports
are those of the variant at the last concretization. A dotted address reaches into
the field of a port: the name of the port, the word `TypeField`, and a path.
-/

namespace ShadingGraph

structure Node where
  name : String
  definitionKey : Key
  selectedVariant : String
  ports : List Port
  deriving Repr

structure Address where
  port : String
  path : String
  deriving DecidableEq, Repr

namespace Address

/-- Word between the name of a port and the path into its field. -/
def marker : String := "TypeField"

/-- Address written as `Port.TypeField.path`, or `Port.TypeField` for the whole
field. The name of the port ends at the first point. -/
def ofText? (text : String) : Option Address := do
  let (port, rest) ← Text.splitFirst? '.' text.toList
  let rest ← Text.dropStart? marker.toList rest
  match rest with
  | [] => some ⟨String.ofList port, ""⟩
  | '.' :: path => some ⟨String.ofList port, String.ofList path⟩
  | _ => none

end Address

inductive NodeError where
  | unknownPort (port : PortRef)
  | field (error : FieldError)
  deriving DecidableEq, Repr

namespace Node

/-- Fresh node of a definition, without ports. -/
def fresh (name : String) (definition : Definition) : Node :=
  ⟨name, definition.key, definition.defaultVariant, []⟩

/-- The first port of a name. -/
def port? (node : Node) (name : String) : Option Port :=
  node.ports.find? (·.name = name)

/-- Change the first port of a name. -/
def changePort (node : Node) (name : String) (change : Port → Except NodeError Port) :
    Except NodeError Node :=
  go node.ports |>.map fun ports => { node with ports }
where
  go : List Port → Except NodeError (List Port)
    | [] => .error (.unknownPort ⟨node.name, name⟩)
    | port :: rest =>
      if port.name = name then (change port).map (· :: rest) else (go rest).map (port :: ·)

/-- Write into the field of a port and pin the port. -/
def setPortField (node : Node) (port path : String) (value : Field) : Except NodeError Node :=
  node.changePort port fun target =>
    match target.field.set path value with
    | .ok field => .ok { target with field, pinned := true }
    | .error error => .error (.field error)

/-- Write at an address and pin the port. -/
def setField (node : Node) (address : String) (value : Field) : Except NodeError Node :=
  match Address.ofText? address with
  | some ⟨port, path⟩ => node.setPortField port path value
  | none => .error (.field (.invalidPath address))

/-- Unpin a port; its field stays until the next concretization. -/
def clearPin (node : Node) (port : String) : Except NodeError Node :=
  node.changePort port fun target => .ok { target with pinned := false }

/-- Select a variant; the ports stay until the next concretization. -/
def selectVariant (node : Node) (id : String) : Node :=
  { node with selectedVariant := id }

def getField? (node : Node) (address : String) : Option Field := do
  let ⟨port, path⟩ ← Address.ofText? address
  (← node.port? port).field.get? path

/-- Equality of two nodes, their fields compared as fields are. -/
def equals (a b : Node) : Bool :=
  a.name = b.name && a.definitionKey = b.definitionKey && a.selectedVariant = b.selectedVariant
    && Port.equalsAll a.ports b.ports

end Node

end ShadingGraph
