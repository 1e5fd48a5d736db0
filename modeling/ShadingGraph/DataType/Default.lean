import ShadingGraph.Field.Basic

/-! # Declared defaults

The default that a parameter of a node may declare for its port.
-/

namespace ShadingGraph

inductive DeclaredDefault where
  /-- Numbers of the components, first to last. -/
  | components (values : List Binary32)
  | int (value : Int32)
  | bool (value : Bool)
  /-- Name of a value the shader provides, such as `UV0`. -/
  | reference (name : String)
  /-- A whole field, taken as it stands. -/
  | field (value : Field)
  deriving Repr

namespace DeclaredDefault

/-- Equality item by item, as arithmetic compares numbers. -/
def equalsNumbers : List Binary32 → List Binary32 → Bool
  | [], [] => true
  | x :: xs, y :: ys => x.equals y && equalsNumbers xs ys
  | _, _ => false

/-- Equality of two defaults, as fields compare. -/
def equals : DeclaredDefault → DeclaredDefault → Bool
  | .components xs, .components ys => equalsNumbers xs ys
  | .int x, .int y => x == y
  | .bool x, .bool y => x == y
  | .reference x, .reference y => x == y
  | .field x, .field y => x.equals y
  | _, _ => false

def equalsOption : Option DeclaredDefault → Option DeclaredDefault → Bool
  | none, none => true
  | some x, some y => x.equals y
  | _, _ => false

end DeclaredDefault

end ShadingGraph
