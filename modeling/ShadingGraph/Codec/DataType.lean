import ShadingGraph.Codec.Field
import ShadingGraph.DataType.Gradient
import ShadingGraph.DataType.Numeric

/-! # Codecs of numeric types and gradients -/

namespace ShadingGraph.Codec

instance : Codec NumericType where
  datum type := .record "GraphType"
    [ ("key", datum type.key), ("primitive", datum type.primitive),
      ("precision", datum type.precision), ("length", datum type.length),
      ("height", datum type.height) ]
  read? source := do
    let members ← Source.record? "GraphType"
      [ ("key", .required), ("primitive", .required), ("precision", .required),
        ("length", .required), ("height", .required) ] source
    return ⟨← member? members "key", ← member? members "primitive",
      ← member? members "precision", ← member? members "length", ← member? members "height"⟩

instance : Codec ColorKey where
  datum key := .record "GradientColorKey"
    [ ("color", .tuple [datum key.red, datum key.green, datum key.blue]),
      ("time", datum key.time) ]
  read? source := do
    let members ← Source.record? "GradientColorKey"
      [("color", .required), ("time", .required)] source
    match ← (Table.find? members "color").bind (Source.tuple? 3) with
    | [red, green, blue] =>
      return ⟨← read? red, ← read? green, ← read? blue, ← member? members "time"⟩
    | _ => none

instance : Codec AlphaKey where
  datum key := .record "GradientAlphaKey" [("alpha", datum key.alpha), ("time", datum key.time)]
  read? source := do
    let members ← Source.record? "GradientAlphaKey"
      [("alpha", .required), ("time", .required)] source
    return ⟨← member? members "alpha", ← member? members "time"⟩

instance : Codec Gradient where
  datum gradient := .record "Gradient"
    [ ("mode", datum gradient.mode), ("color_keys", datum gradient.colorKeys),
      ("alpha_keys", datum gradient.alphaKeys) ]
  read? source := do
    let members ← Source.record? "Gradient"
      [("mode", .required), ("color_keys", .required), ("alpha_keys", .required)] source
    return ⟨← member? members "mode", ← member? members "color_keys",
      ← member? members "alpha_keys"⟩

end ShadingGraph.Codec
