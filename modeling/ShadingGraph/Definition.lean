import ShadingGraph.DataType.Default
import ShadingGraph.Port

/-! # Node definitions

A definition offers one or more variants of a node. A variant has a body of shader
code and the parameters that become the ports of a node.
-/

namespace ShadingGraph

structure Parameter where
  name : String
  typeKey : Key
  usage : Usage
  default : Option DeclaredDefault
  deriving Repr

namespace Parameter

/-- Equality of two parameters, their defaults compared as fields are. -/
def equals (a b : Parameter) : Bool :=
  a.name = b.name && a.typeKey = b.typeKey && a.usage = b.usage
    && DeclaredDefault.equalsOption a.default b.default

def equalsAll : List Parameter → List Parameter → Bool
  | [], [] => true
  | a :: as, b :: bs => a.equals b && equalsAll as bs
  | _, _ => false

end Parameter

/-- One way a node can be computed. -/
structure Variant where
  id : String
  displayName : String
  /-- Version under which the variant is registered as a node of its own. -/
  version : UInt32
  /-- Template of the code. -/
  body : String
  /-- Parameters in the order of the ports. -/
  parameters : List Parameter
  includes : List String
  deriving Repr

namespace Variant

/-- The first parameter of a name. -/
def parameter? (variant : Variant) (name : String) : Option Parameter :=
  variant.parameters.find? (·.name = name)

def equals (a b : Variant) : Bool :=
  a.id = b.id && a.displayName = b.displayName && a.version = b.version && a.body = b.body
    && Parameter.equalsAll a.parameters b.parameters && a.includes = b.includes

def equalsAll : List Variant → List Variant → Bool
  | [], [] => true
  | a :: as, b :: bs => a.equals b && equalsAll as bs
  | _, _ => false

end Variant

/-- Why a definition contradicts itself or the registry. -/
inductive DefinitionFault where
  | noVariants
  | duplicateVariant (id : String)
  | duplicateParameter (name variant : String)
  | missingDefaultVariant (id : String)
  | unregisteredType (name variant : String) (typeKey : Key)
  deriving DecidableEq, Repr

def DefinitionFault.message : DefinitionFault → String
  | .noVariants => "node has no function variants"
  | .duplicateVariant id => "duplicate variant id '" ++ id ++ "'"
  | .duplicateParameter name variant =>
    "duplicate parameter '" ++ name ++ "' in variant '" ++ variant ++ "'"
  | .missingDefaultVariant id => "default variant '" ++ id ++ "' is not defined"
  | .unregisteredType name variant typeKey =>
    "parameter '" ++ name ++ "' of variant '" ++ variant ++ "' uses unregistered type "
      ++ typeKey.text

structure Definition where
  key : Key
  variants : List Variant
  /-- Variant that a fresh node selects. -/
  defaultVariant : String
  deriving Repr

/-- A definition as it is described for registration, with its name and version as
members of its own. -/
structure Descriptor where
  definition : Definition
  deriving Repr

namespace Definition

/-- Definition with the variant as its only one. -/
def ofVariant (variant : Variant) : Definition :=
  ⟨⟨variant.id, variant.version⟩, [variant], variant.id⟩

/-- The first variant of an id. -/
def variant? (definition : Definition) (id : String) : Option Variant :=
  definition.variants.find? (·.id = id)

/-- Whether a node of the definition always has the same ports. -/
def isFixedShape (definition : Definition) : Bool :=
  definition.variants.length == 1

def equals (a b : Definition) : Bool :=
  a.key = b.key && Variant.equalsAll a.variants b.variants && a.defaultVariant = b.defaultVariant

/-- The first name that occurs again among the parameters after those seen. -/
def repeatedParameter? (seen : List String) : List Parameter → Option String
  | [] => none
  | parameter :: rest =>
    if parameter.name ∈ seen then some parameter.name
    else repeatedParameter? (parameter.name :: seen) rest

/-- The first repeated variant id, or repeated parameter of a variant. -/
def repeatedName? (seen : List String) : List Variant → Option DefinitionFault
  | [] => none
  | variant :: rest =>
    if variant.id ∈ seen then some (.duplicateVariant variant.id)
    else match repeatedParameter? [] variant.parameters with
      | some name => some (.duplicateParameter name variant.id)
      | none => repeatedName? (variant.id :: seen) rest

/-- What is wrong with a definition taken by itself. -/
def fault? (definition : Definition) : Option DefinitionFault :=
  if definition.variants.isEmpty then some .noVariants
  else match repeatedName? [] definition.variants with
    | some fault => some fault
    | none =>
      if definition.variants.any (·.id = definition.defaultVariant) then none
      else some (.missingDefaultVariant definition.defaultVariant)

end Definition

end ShadingGraph
