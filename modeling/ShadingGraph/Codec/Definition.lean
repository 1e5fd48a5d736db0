import ShadingGraph.Codec.Field
import ShadingGraph.Definition

/-! # Codecs of definitions -/

namespace ShadingGraph

namespace Codec

instance : Codec Parameter where
  datum parameter := .record "ParameterDescriptor"
    [ ("name", datum parameter.name), ("type_key", datum parameter.typeKey),
      ("usage", datum parameter.usage), ("default", datum parameter.default) ]
  read? source := do
    let members ← Source.record? "ParameterDescriptor"
      [ ("name", .required), ("type_key", .required), ("usage", .required),
        ("default", .optional) ] source
    return ⟨← member? members "name", ← member? members "type_key", ← member? members "usage",
      ← memberOr? none members "default"⟩

instance : Codec Variant where
  datum variant := .record "FunctionDescriptor"
    [ ("id", datum variant.id), ("display_name", datum variant.displayName),
      ("version", datum variant.version), ("body", datum variant.body),
      ("parameters", datum variant.parameters), ("includes", datum variant.includes) ]
  read? source := do
    let members ← Source.record? "FunctionDescriptor"
      [ ("id", .required), ("display_name", .required), ("version", .required),
        ("body", .required), ("parameters", .required), ("includes", .required) ] source
    return ⟨← member? members "id", ← member? members "display_name",
      ← member? members "version", ← member? members "body", ← member? members "parameters",
      ← member? members "includes"⟩

instance : Codec Definition where
  datum definition := .record "NodeDefinition"
    [ ("key", datum definition.key), ("variants", datum definition.variants),
      ("default_variant_id", datum definition.defaultVariant) ]
  read? source := do
    let members ← Source.record? "NodeDefinition"
      [("key", .required), ("variants", .required), ("default_variant_id", .required)] source
    return ⟨← member? members "key", ← member? members "variants",
      ← member? members "default_variant_id"⟩

instance : Codec Descriptor where
  datum descriptor := .record "NodeDescriptor"
    [ ("version", datum descriptor.definition.key.version),
      ("name", datum descriptor.definition.key.name),
      ("functions", datum descriptor.definition.variants),
      ("main_function", datum descriptor.definition.defaultVariant) ]
  read? source := do
    let members ← Source.record? "NodeDescriptor"
      [ ("version", .required), ("name", .required), ("functions", .required),
        ("main_function", .required) ] source
    let key : Key := ⟨← member? members "name", ← member? members "version"⟩
    return ⟨⟨key, ← member? members "functions", ← member? members "main_function"⟩⟩

end Codec

end ShadingGraph
