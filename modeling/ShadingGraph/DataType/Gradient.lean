import ShadingGraph.DataType.Default
import ShadingGraph.Field.Tag
import ShadingGraph.Number.Layout

/-! # Gradients

A gradient has a mode, a list of colour keys and a list of alpha keys. Its field
holds at most eight keys of each kind, and so does its shader code, which is always
padded to eight.
-/

namespace ShadingGraph

/-- How colours between two keys are found. -/
inductive GradientMode where
  | blend
  | fixed
  | perceptualBlend
  deriving DecidableEq, Repr

instance : Tagged GradientMode where
  alternatives := [.blend, .fixed, .perceptualBlend]
  tag
    | .blend => "Blend"
    | .fixed => "Fixed"
    | .perceptualBlend => "PerceptualBlend"

/-- Number of a mode in shader code. -/
def GradientMode.index : GradientMode → Nat
  | .blend => 0
  | .fixed => 1
  | .perceptualBlend => 2

/-- A colour at a position. -/
structure ColorKey where
  red : Binary32
  green : Binary32
  blue : Binary32
  time : Binary32
  deriving DecidableEq, Repr

/-- An opacity at a position. -/
structure AlphaKey where
  alpha : Binary32
  time : Binary32
  deriving DecidableEq, Repr

structure Gradient where
  mode : GradientMode
  colorKeys : List ColorKey
  alphaKeys : List AlphaKey
  deriving DecidableEq, Repr

namespace ColorKey

def toField (key : ColorKey) : Field :=
  .composite
    [("r", .float key.red), ("g", .float key.green), ("b", .float key.blue),
      ("time", .float key.time)]

/-- Key held by a field, if all four numbers are there. -/
def ofField? (field : Field) : Option ColorKey := do
  let red ← (← field.child? "r").real?
  let green ← (← field.child? "g").real?
  let blue ← (← field.child? "b").real?
  let time ← (← field.child? "time").real?
  return ⟨red, green, blue, time⟩

/-- Equality as arithmetic compares numbers. -/
def equals (a b : ColorKey) : Bool :=
  a.red.equals b.red && a.green.equals b.green && a.blue.equals b.blue && a.time.equals b.time

def shaderText (key : ColorKey) : String :=
  "float4(" ++ key.red.shaderText ++ ", " ++ key.green.shaderText ++ ", " ++ key.blue.shaderText
    ++ ", " ++ key.time.shaderText ++ ")"

end ColorKey

namespace AlphaKey

def toField (key : AlphaKey) : Field :=
  .composite [("alpha", .float key.alpha), ("time", .float key.time)]

/-- Key held by a field, if both numbers are there. -/
def ofField? (field : Field) : Option AlphaKey := do
  let alpha ← (← field.child? "alpha").real?
  let time ← (← field.child? "time").real?
  return ⟨alpha, time⟩

def equals (a b : AlphaKey) : Bool :=
  a.alpha.equals b.alpha && a.time.equals b.time

def shaderText (key : AlphaKey) : String :=
  "float2(" ++ key.alpha.shaderText ++ ", " ++ key.time.shaderText ++ ")"

end AlphaKey

namespace Gradient

/-- Greatest number of keys of one kind that a field or shader code holds. -/
def maxKeys : Nat := 8

/-- Black to white, opaque. -/
def standard : Gradient where
  mode := .blend
  colorKeys := [⟨.zero, .zero, .zero, .zero⟩, ⟨.one, .one, .one, .one⟩]
  alphaKeys := [⟨.one, .zero⟩, ⟨.one, .one⟩]

/-- Field of a gradient. Keys past the eighth are dropped. -/
def toField (gradient : Gradient) : Field :=
  .composite
    [("Mode", .ofTagged gradient.mode),
      ("ColorKeys", .list ((gradient.colorKeys.take maxKeys).map ColorKey.toField)),
      ("AlphaKeys", .list ((gradient.alphaKeys.take maxKeys).map AlphaKey.toField))]

/-- Gradient held by a field; every key has to be complete. -/
def ofField? (field : Field) : Option Gradient := do
  let mode ← (field.taggedChild? "Mode" : Option GradientMode)
  let colorKeys ← (← (← field.child? "ColorKeys").items?).mapM ColorKey.ofField?
  let alphaKeys ← (← (← field.child? "AlphaKeys").items?).mapM AlphaKey.ofField?
  return ⟨mode, colorKeys, alphaKeys⟩

/-- Equality of two lists, item by item. -/
def equalsKeys {κ : Type} (equals : κ → κ → Bool) : List κ → List κ → Bool
  | [], [] => true
  | a :: as, b :: bs => equals a b && equalsKeys equals as bs
  | _, _ => false

def equals (a b : Gradient) : Bool :=
  decide (a.mode = b.mode) && equalsKeys ColorKey.equals a.colorKeys b.colorKeys
    && equalsKeys AlphaKey.equals a.alphaKeys b.alphaKeys

/-- The first eight of a list of keys, filled up with a key of zeros. -/
def padded {κ : Type} (keys : List κ) (zero : κ) : List κ :=
  keys.take maxKeys ++ List.replicate (maxKeys - keys.length) zero

/-- Arguments of the constructor call in shader code: mode, key counts, eight colour
keys and eight alpha keys. -/
def arguments (gradient : Gradient) : List String :=
  [toString gradient.mode.index, toString (min gradient.colorKeys.length maxKeys),
    toString (min gradient.alphaKeys.length maxKeys)]
    ++ (padded gradient.colorKeys ⟨.zero, .zero, .zero, .zero⟩).map ColorKey.shaderText
    ++ (padded gradient.alphaKeys ⟨.zero, .zero⟩).map AlphaKey.shaderText

def shaderText (gradient : Gradient) : String :=
  "NewGradient(" ++ String.intercalate ", " gradient.arguments ++ ")"

end Gradient

end ShadingGraph
