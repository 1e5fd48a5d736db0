import ShadingGraph.Node
import ShadingGraph.Registry.Basic

/-! # Concretization

Concretizing a node gives it the ports of its selected variant, one for each
parameter, and settles their fields. A pinned port keeps its field, in the form of
its type. A connected input takes the field that its source adapts to it. Any other
port is free: it starts from its declared default, so that nothing of its former
value is left, and then takes the dimension of its shape group. The dimension of a
group is the largest that a pinned or connected member states or that a free one
declares; without any it is that of the type.
-/

namespace ShadingGraph

inductive ConcretizationError where
  | unknownVariant (node variant : String)
  | registry (error : RegistryError)
  deriving DecidableEq, Repr

/-- Source of an input: an output port of another node. -/
structure Feed where
  /-- Name of the input that is fed. -/
  toPort : String
  source : Port
  deriving Repr

/-- Where the field of a port comes from. -/
inductive Origin where
  | pinned
  | connected
  | free
  deriving DecidableEq, Repr

/-- A parameter on its way to a port. -/
structure Slot where
  parameter : Parameter
  type : DataType
  field : Field
  origin : Origin
  deriving Repr

namespace Slot

/-- Slot of a parameter: the pinned port of its name, type and usage if the node has
one, else the declared default. -/
def initial (ports : List Port) (parameter : Parameter) (type : DataType) : Slot :=
  match ports.find? (·.hasSignature parameter.name parameter.typeKey parameter.usage) with
  | some port =>
    if port.pinned then ⟨parameter, type, type.normalize port.field, .pinned⟩
    else ⟨parameter, type, type.defaultField parameter.default, .free⟩
  | none => ⟨parameter, type, type.defaultField parameter.default, .free⟩

/-- Feed that reaches an input: the first one into it, if its type is registered and
accepted. -/
def feed? (registry : Registry) (feeds : List Feed) (slot : Slot) : Option (DataType × Field) := do
  let feed ← feeds.find? (·.toPort = slot.parameter.name)
  let sourceType ← Table.find? registry.types feed.source.typeKey
  if slot.type.accepts sourceType then some (sourceType, feed.source.field) else none

/-- Take over the adapted field of the source, for an input that is not pinned. -/
def connect (registry : Registry) (feeds : List Feed) (slot : Slot) : Slot :=
  if slot.parameter.usage = .input ∧ slot.origin = .free then
    match slot.feed? registry feeds with
    | some (sourceType, field) =>
      { slot with field := sourceType.adapt field slot.type, origin := .connected }
    | none => slot
  else slot

/-- Dimension of the declared default, if there is one. -/
def declaredDimension? (slot : Slot) : Option Nat :=
  slot.parameter.default.bind fun default =>
    slot.type.dimension? (slot.type.defaultField (some default))

/-- Dimension that the slot states to its group. -/
def statedDimension? (slot : Slot) : Option Nat :=
  if slot.origin = .free then slot.declaredDimension? else slot.type.dimension? slot.field

def resize (dimension : Nat) (slot : Slot) : Slot :=
  if slot.origin = .free ∧ slot.type.dimension? slot.field ≠ some dimension then
    { slot with field := slot.type.resize slot.field dimension }
  else slot

def port (slot : Slot) : Port :=
  ⟨slot.parameter.name, slot.parameter.usage, slot.parameter.typeKey, slot.field,
    slot.origin = .pinned⟩

end Slot

namespace Concretization

/-- Slots of parameters in order; every type has to be registered. -/
def initialSlots (registry : Registry) (ports : List Port) :
    List Parameter → Except RegistryError (List Slot)
  | [] => .ok []
  | parameter :: rest => do
    let type ← registry.type parameter.typeKey
    let slots ← initialSlots registry ports rest
    return Slot.initial ports parameter type :: slots

def largest? : List Nat → Option Nat
  | [] => none
  | n :: rest => some (rest.foldl max n)

def membersOf (group : ShapeGroup) (slots : List Slot) : List Slot :=
  slots.filter (·.type.shapeGroup? = some group)

/-- Dimension of a group; `none` when the group has no member. -/
def groupDimension? (slots : List Slot) (group : ShapeGroup) : Option Nat :=
  match membersOf group slots with
  | [] => none
  | first :: rest =>
    some ((largest? ((first :: rest).filterMap Slot.statedDimension?)).getD
      first.type.intrinsicDimension)

/-- Bring every free slot to the dimension of its group. -/
def shareDimensions (slots : List Slot) : List Slot :=
  slots.map fun slot =>
    match slot.type.shapeGroup?.bind (groupDimension? slots) with
    | some dimension => slot.resize dimension
    | none => slot

end Concretization

/-- Ports of a node for its selected variant of a definition, with the sources that
feed its inputs. -/
def concretize (node : Node) (definition : Definition) (feeds : List Feed) (registry : Registry) :
    Except ConcretizationError (List Port) :=
  match definition.variant? node.selectedVariant with
  | none => .error (.unknownVariant node.name node.selectedVariant)
  | some variant =>
    match Concretization.initialSlots registry node.ports variant.parameters with
    | .error error => .error (.registry error)
    | .ok slots =>
      .ok ((Concretization.shareDimensions (slots.map (Slot.connect registry feeds))).map Slot.port)

end ShadingGraph
