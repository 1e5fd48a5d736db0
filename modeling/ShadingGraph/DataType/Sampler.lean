import ShadingGraph.Field.Tag

/-! # Sampler states

The field of a sampler state holds the tags `Filter` and `Wrap`. A tag that cannot
be read counts as the standard one.
-/

namespace ShadingGraph

/-- How texels are mixed. -/
inductive SamplerFilter where
  | point
  | linear
  | trilinear
  deriving DecidableEq, Repr

/-- What is read beyond the edges of a texture. -/
inductive SamplerWrap where
  | repeats
  | clamp
  | mirror
  | mirrorOnce
  deriving DecidableEq, Repr

instance : Tagged SamplerFilter where
  alternatives := [.point, .linear, .trilinear]
  tag
    | .point => "Point"
    | .linear => "Linear"
    | .trilinear => "Trilinear"

instance : Tagged SamplerWrap where
  alternatives := [.repeats, .clamp, .mirror, .mirrorOnce]
  tag
    | .repeats => "Repeat"
    | .clamp => "Clamp"
    | .mirror => "Mirror"
    | .mirrorOnce => "MirrorOnce"

structure SamplerState where
  filter : SamplerFilter
  wrap : SamplerWrap
  deriving DecidableEq, Repr

namespace SamplerState

/-- Linear filtering of a repeated texture. -/
def standard : SamplerState := ⟨.linear, .repeats⟩

def toField (state : SamplerState) : Field :=
  .composite [("Filter", .ofTagged state.filter), ("Wrap", .ofTagged state.wrap)]

/-- Sampler state that a field stands for. -/
def ofField (field : Field) : SamplerState where
  filter := (field.taggedChild? "Filter").getD standard.filter
  wrap := (field.taggedChild? "Wrap").getD standard.wrap

def shaderText (state : SamplerState) : String :=
  "UnityBuildSamplerStateStruct(SamplerState_" ++ Tagged.tag state.filter ++ "_"
    ++ Tagged.tag state.wrap ++ ")"

end SamplerState

end ShadingGraph
