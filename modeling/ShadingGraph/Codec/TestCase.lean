import ShadingGraph.Codec.Basic
import ShadingGraph.TestCase

/-! # Codecs of material test cases -/

namespace ShadingGraph.Codec

instance : Codec ImageComparison where
  datum comparison := .record "ImageComparisonSettings"
    [ ("target_width", datum comparison.targetWidth),
      ("target_height", datum comparison.targetHeight),
      ("per_pixel_correctness_threshold", datum comparison.perPixelThreshold),
      ("average_correctness_threshold", datum comparison.averageThreshold),
      ("incorrect_pixels_threshold", datum comparison.incorrectPixelsThreshold),
      ("use_hdr", datum comparison.useHdr) ]
  read? source := do
    let members ← Source.record? "ImageComparisonSettings"
      [ ("target_width", .defaulted), ("target_height", .defaulted),
        ("per_pixel_correctness_threshold", .defaulted),
        ("average_correctness_threshold", .defaulted),
        ("incorrect_pixels_threshold", .defaulted), ("use_hdr", .defaulted) ] source
    let standard := ImageComparison.standard
    return ⟨← memberOr? standard.targetWidth members "target_width",
      ← memberOr? standard.targetHeight members "target_height",
      ← memberOr? standard.perPixelThreshold members "per_pixel_correctness_threshold",
      ← memberOr? standard.averageThreshold members "average_correctness_threshold",
      ← memberOr? standard.incorrectPixelsThreshold members "incorrect_pixels_threshold",
      ← memberOr? standard.useHdr members "use_hdr"⟩

instance : Codec TestCase where
  datum test := .record "MaterialTestCase"
    [ ("test_name", datum test.name), ("expected_hash", datum test.expectedHash),
      ("test_hash", datum test.testHash), ("is_camera_perspective", datum test.perspective),
      ("expected_result_path", datum test.expectedPath),
      ("test_material_path", datum test.materialPath),
      ("custom_mesh_path", datum test.meshPath),
      ("image_comparison", datum test.comparison) ]
  read? source := do
    let members ← Source.record? "MaterialTestCase"
      [ ("test_name", .required), ("expected_hash", .required), ("test_hash", .required),
        ("is_camera_perspective", .required), ("expected_result_path", .required),
        ("test_material_path", .required), ("custom_mesh_path", .defaulted),
        ("image_comparison", .defaulted) ] source
    return ⟨← member? members "test_name", ← member? members "expected_hash",
      ← member? members "test_hash", ← member? members "is_camera_perspective",
      ← member? members "expected_result_path", ← member? members "test_material_path",
      ← memberOr? none members "custom_mesh_path",
      ← memberOr? .standard members "image_comparison"⟩

end ShadingGraph.Codec
