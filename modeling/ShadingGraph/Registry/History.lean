import ShadingGraph.Registry.Standard

/-! # Registration histories

A registry is filled by a sequence of registrations. A failing one leaves the
registry as it was, except that the two that register a whole list keep what they
registered before the failure.
-/

namespace ShadingGraph

/-- A call that may change a registry. -/
inductive Registration where
  | type (type : DataType)
  | variant (variant : Variant)
  | definition (definition : Definition)
  | builtinTypes
  | standardNodes

namespace Registry

/-- Carry out a registration: the registry afterwards and the error, if it failed. -/
def register (registry : Registry) : Registration → Registry × Option RegistryError
  | .type type =>
    match registry.registerType type with
    | .ok next => (next, none)
    | .error error => (registry, some error)
  | .variant variant =>
    match registry.registerVariant variant with
    | .ok next => (next, none)
    | .error error => (registry, some error)
  | .definition definition =>
    match registry.registerDefinition definition with
    | .ok next => (next, none)
    | .error error => (registry, some error)
  | .builtinTypes => registry.registerBuiltinTypes
  | .standardNodes => registry.registerStandardNodes

/-- Registry after a sequence of registrations, failing ones included. -/
def registerAll (registry : Registry) (history : List Registration) : Registry :=
  history.foldl (fun current registration => (current.register registration).1) registry

/-- Registry filled from nothing by a sequence of registrations. -/
def ofHistory (history : List Registration) : Registry :=
  empty.registerAll history

end Registry

end ShadingGraph
