import ShadingGraph.Registry.Basic

/-! # Standard registry

The built-in types and a small library of material nodes on top of them.
-/

namespace ShadingGraph

namespace StandardNode

def parameter (name typeName : String) (usage : Usage) : Parameter :=
  ⟨name, ⟨typeName, 1⟩, usage, none⟩

def input (name typeName : String) : Parameter :=
  parameter name typeName .input

def output (name typeName : String) : Parameter :=
  parameter name typeName .output

/-- Parameter with a default. -/
def withDefault (parameter : Parameter) (default : DeclaredDefault) : Parameter :=
  { parameter with default := some default }

/-- Number written with one significand and one scale, both exact. -/
def number (n : Nat) : Binary32 :=
  Binary32.ofInt n

/-- Variant of version one. -/
def variant (id displayName body : String) (parameters : List Parameter) : Variant :=
  ⟨id, displayName, 1, body, parameters, []⟩

def add : Definition :=
  .ofVariant <| variant "Add" "Add" "$Out = $A + $B;"
    [input "A" "Vector", input "B" "Vector", output "Out" "Vector"]

def multiply : Definition :=
  .ofVariant <| variant "Multiply" "Multiply" "$Out = $A * $B;"
    [ input "A" "Vector",
      withDefault (input "B" "Vector") (.components [number 2]),
      output "Out" "Vector" ]

/-- A constant matrix of two rows, the unit matrix by default. -/
def matrix2x2 : Definition :=
  .ofVariant <| variant "Matrix2x2" "Matrix 2x2" "$Out = $Matrix2x2;"
    [ withDefault (parameter "Matrix2x2" "Mat2" .static)
        (.components [number 1, number 0, number 0, number 1]),
      output "Out" "Mat2" ]

def gradient : Definition :=
  .ofVariant <| variant "GradientNode" "Gradient" "$Out = $Gradient;"
    [ withDefault (parameter "Gradient" "Gradient" .static) (.field Gradient.standard.toField),
      output "Out" "Gradient" ]

/-- Colour of a texture at a position. -/
def sampleTexture : Definition :=
  .ofVariant <| variant "SampleTexture2D" "Sample Texture 2D"
    "$RGBA = SAMPLE_TEXTURE2D($Texture, $Sampler.samplerstate, $UV.xy);"
    [ input "Texture" "Texture2D",
      withDefault (input "UV" "Vec4") (.reference "UV0"),
      input "Sampler" "SamplerState",
      output "RGBA" "Vec4" ]

/-- Inputs that both imposter variants share. -/
def imposterInputs : List Parameter :=
  [ withDefault (input "Pos" "Vec3") (.reference "ObjectSpacePosition"),
    withDefault (input "inUV" "Vec4") (.reference "UV0"),
    withDefault (input "Frames" "Float") (.components [number 16]),
    input "Offset" "Vec3",
    withDefault (input "Size" "Float") (.components [number 1]),
    input "HemiSphere" "Bool",
    input "Texture" "Texture2D",
    input "Sampler" "SamplerState",
    input "Parallax" "Float",
    withDefault (input "HeightMapChannel" "Int") (.int 3) ]

/-- File the imposter code depends on. -/
def imposterInclude : String :=
  "Packages/com.ordoplay.shadergraph/ShaderLibrary/MeshDeformation/Imposter.hlsl"

/-- Imposter blended from three frames. -/
def imposterThreeFrames : Variant where
  id := "ThreeFrames"
  displayName := "Three Frames"
  version := 1
  body :=
    "ImposterUV($Pos, $inUV, $Frames, $Offset, $Size, $HemiSphere, $Parallax, $HeightMapChannel, "
      ++ "$Sampler, $Texture, $OutPos, $Weights, $UV0, $UV1, $UV2, $Grid);"
  parameters := imposterInputs ++
    [ output "OutPos" "Vec3", output "UV0" "Vec2", output "UV1" "Vec2", output "UV2" "Vec2",
      output "Weights" "Vec4", output "Grid" "Vec4" ]
  includes := [imposterInclude]

/-- Imposter of a single frame. -/
def imposterOneFrame : Variant where
  id := "OneFrame"
  displayName := "One Frame"
  version := 1
  body :=
    "ImposterUV_oneFrame($Pos, $inUV, $Frames, $Offset, $Size, $HemiSphere, $Parallax, "
      ++ "$HeightMapChannel, $Sampler, $Texture, $OutPos, $UV0, $Grid);"
  parameters := imposterInputs ++
    [output "OutPos" "Vec3", output "UV0" "Vec4", output "Grid" "Vec4"]
  includes := [imposterInclude]

/-- Texture coordinates and position of an imposter. -/
def imposter : Definition :=
  ⟨⟨"ImposterUV", 1⟩, [imposterThreeFrames, imposterOneFrame], "ThreeFrames"⟩

def all : List Definition :=
  [add, multiply, matrix2x2, gradient, sampleTexture, imposter]

end StandardNode

namespace Registry

/-- Register one item after the other as long as that succeeds: the registry reached,
and the error that stopped it. -/
def registerEach {α : Type} (register : Registry → α → Except RegistryError Registry) :
    Registry → List α → Registry × Option RegistryError
  | registry, [] => (registry, none)
  | registry, item :: rest =>
    match register registry item with
    | .ok next => registerEach register next rest
    | .error error => (registry, some error)

def registerBuiltinTypes (registry : Registry) : Registry × Option RegistryError :=
  registerEach registerType registry DataType.builtins

def registerStandardNodes (registry : Registry) : Registry × Option RegistryError :=
  registerEach registerDefinition registry StandardNode.all

def builtin : Registry := empty.registerBuiltinTypes.1

/-- The built-in types and the standard nodes. -/
def standard : Registry := builtin.registerStandardNodes.1

end Registry

end ShadingGraph
