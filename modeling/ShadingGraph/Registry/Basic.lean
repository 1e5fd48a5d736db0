import ShadingGraph.DataType.Basic
import ShadingGraph.Definition

/-! # Registry

A registry holds data types and node definitions under their keys, in the order of
registration. No key names both, and a definition is accepted only when it is
consistent and its types are there.
-/

namespace ShadingGraph

inductive RegistryError where
  | duplicateKey (key : Key)
  | unknownKey (key : Key)
  | invalidDefinition (key : Key) (fault : DefinitionFault)
  deriving DecidableEq, Repr

def RegistryError.message : RegistryError → String
  | .duplicateKey key => "Duplicate registry key: " ++ key.text
  | .unknownKey key => "Unknown registry key: " ++ key.text
  | .invalidDefinition key fault => "Invalid definition " ++ key.text ++ ": " ++ fault.message

structure Registry where
  types : List (Key × DataType)
  nodes : List (Key × Definition)
  deriving Repr

/-- What a key names. -/
inductive Entry where
  | type (type : DataType)
  | node (definition : Definition)
  deriving Repr

namespace Registry

def empty : Registry := ⟨[], []⟩

def type (registry : Registry) (key : Key) : Except RegistryError DataType :=
  match Table.find? registry.types key with
  | some type => .ok type
  | none => .error (.unknownKey key)

def node (registry : Registry) (key : Key) : Except RegistryError Definition :=
  match Table.find? registry.nodes key with
  | some definition => .ok definition
  | none => .error (.unknownKey key)

def lookup (registry : Registry) (key : Key) : Except RegistryError Entry :=
  match Table.find? registry.types key with
  | some type => .ok (.type type)
  | none => (registry.node key).map .node

def contains (registry : Registry) (key : Key) : Bool :=
  Table.contains registry.types key || Table.contains registry.nodes key

/-- Register a type under its key, which must be unused. -/
def registerType (registry : Registry) (type : DataType) : Except RegistryError Registry :=
  if registry.contains type.key then .error (.duplicateKey type.key)
  else .ok { registry with types := Table.insert registry.types type.key type }

/-- The first parameter of a variant whose type is not registered. -/
def unregisteredIn? (registry : Registry) (variant : Variant) : Option DefinitionFault :=
  (variant.parameters.find? fun parameter => !Table.contains registry.types parameter.typeKey).map
    fun parameter => .unregisteredType parameter.name variant.id parameter.typeKey

def unregistered? (registry : Registry) (definition : Definition) : Option DefinitionFault :=
  definition.variants.findSome? registry.unregisteredIn?

/-- Register a definition under its key. Registering an equal one again changes
nothing. -/
def registerDefinition (registry : Registry) (definition : Definition) :
    Except RegistryError Registry :=
  match definition.fault? with
  | some fault => .error (.invalidDefinition definition.key fault)
  | none =>
    match Table.find? registry.nodes definition.key with
    | some existing =>
      if existing.equals definition then .ok registry else .error (.duplicateKey definition.key)
    | none =>
      if Table.contains registry.types definition.key then .error (.duplicateKey definition.key)
      else match registry.unregistered? definition with
        | some fault => .error (.invalidDefinition definition.key fault)
        | none =>
          .ok { registry with nodes := Table.insert registry.nodes definition.key definition }

/-- Register a node that is described. Its definition is checked by itself first. -/
def registerDescriptor (registry : Registry) (descriptor : Descriptor) :
    Except RegistryError Registry :=
  match descriptor.definition.fault? with
  | some fault => .error (.invalidDefinition descriptor.definition.key fault)
  | none => registry.registerDefinition descriptor.definition

/-- Register a variant as a node of its own. -/
def registerVariant (registry : Registry) (variant : Variant) : Except RegistryError Registry :=
  registry.registerDefinition (.ofVariant variant)

end Registry

end ShadingGraph
