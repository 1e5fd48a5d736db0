import ShadingGraph.Codec.TestCase
import ShadingGraph.Proofs.Json.Codec

/-! # Test cases written and read

Reading the text of a test case gives the test case again if its thresholds are finite.
The writer puts nothing in the place of any other threshold, and the reader does not take
that for a number.
-/

namespace ShadingGraph

/-- Whether the thresholds are numbers that JSON has. -/
def ImageComparison.hasFiniteThresholds (comparison : ImageComparison) : Bool :=
  comparison.perPixelThreshold.isFinite && comparison.averageThreshold.isFinite
    && comparison.incorrectPixelsThreshold.isFinite

namespace Codec

open Datum

section

variable {α ν : Type} [Codec α] [Source ν]

theorem member?_cons (name name' : String) (source : ν) (members : List (String × ν)) :
    member? (α := α) ((name, source) :: members) name' =
      if name = name' then read? source else member? members name' := by
  unfold member?
  rw [Table.find?]
  split_ifs <;> rfl

theorem memberOr?_cons (default : α) (name name' : String) (source : ν) (members : List (String × ν)) :
    memberOr? default ((name, source) :: members) name' =
      if name = name' then read? source else memberOr? default members name' := by
  unfold memberOr?
  rw [Table.find?]
  split_ifs <;> rfl

end

variable (levels : ℕ)

theorem read?_jsonText (text : String) : read? (jsonCursor levels (datum text)) = some text :=
  rfl

theorem read?_jsonBool (value : Bool) : read? (jsonCursor levels (datum value)) = some value :=
  rfl

theorem read?_jsonInt32 (value : Int32) : read? (jsonCursor levels (datum value)) = some value :=
  int32?_jsonCursor levels value

theorem read?_jsonUInt32 (value : UInt32) : read? (jsonCursor levels (datum value)) = some value :=
  uint32?_jsonCursor levels value

theorem read?_jsonFloat (value : Binary32) :
    read? (jsonCursor levels (datum value)) = if value.isFinite then some value else none :=
  float?_jsonCursor levels value

theorem read?_jsonOption (text : Option String) : read? (jsonCursor levels (datum text)) = some text := by
  cases text <;> rfl

theorem read?_jsonComparison (comparison : ImageComparison) :
    read? (jsonCursor (levels + 1) (datum comparison)) =
      if comparison.hasFiniteThresholds then some comparison else none := by
  have members := record?_jsonCursor levels "ImageComparisonSettings"
    [("target_width", .defaulted), ("target_height", .defaulted),
      ("per_pixel_correctness_threshold", .defaulted), ("average_correctness_threshold", .defaulted),
      ("incorrect_pixels_threshold", .defaulted), ("use_hdr", .defaulted)]
    [("target_width", datum comparison.targetWidth), ("target_height", datum comparison.targetHeight),
      ("per_pixel_correctness_threshold", datum comparison.perPixelThreshold),
      ("average_correctness_threshold", datum comparison.averageThreshold),
      ("incorrect_pixels_threshold", datum comparison.incorrectPixelsThreshold),
      ("use_hdr", datum comparison.useHdr)] rfl (by decide)
  refine (congrArg (Option.bind · _) members).trans ?_
  simp only [Option.bind_some, Option.bind_eq_bind, Option.pure_def, List.map_cons, List.map_nil,
    memberOr?_cons, String.reduceEq, reduceIte, read?_jsonUInt32, read?_jsonFloat, read?_jsonBool,
    ImageComparison.hasFiniteThresholds]
  split_ifs <;> simp_all

theorem read?_jsonTestCase (test : TestCase) :
    read? (jsonCursor (levels + 2) (datum test)) =
      if test.comparison.hasFiniteThresholds then some test else none := by
  have members := record?_jsonCursor (levels + 1) "MaterialTestCase"
    [("test_name", .required), ("expected_hash", .required), ("test_hash", .required),
      ("is_camera_perspective", .required), ("expected_result_path", .required),
      ("test_material_path", .required), ("custom_mesh_path", .defaulted), ("image_comparison", .defaulted)]
    [("test_name", datum test.name), ("expected_hash", datum test.expectedHash),
      ("test_hash", datum test.testHash), ("is_camera_perspective", datum test.perspective),
      ("expected_result_path", datum test.expectedPath), ("test_material_path", datum test.materialPath),
      ("custom_mesh_path", datum test.meshPath), ("image_comparison", datum test.comparison)] rfl (by decide)
  refine (congrArg (Option.bind · _) members).trans ?_
  simp only [Option.bind_some, Option.bind_eq_bind, Option.pure_def, List.map_cons, List.map_nil,
    member?_cons, memberOr?_cons, String.reduceEq, reduceIte, read?_jsonText, read?_jsonInt32,
    read?_jsonBool, read?_jsonOption, read?_jsonComparison]
  split_ifs <;> rfl

end Codec

namespace TestCase

/-- The text of a test case is read as the test case if its thresholds are finite, and else is
none of a test case. -/
theorem read?_toJson (test : TestCase) :
    Json.read? TestCase (Datum.toJson (Codec.datum test)) =
      if test.comparison.hasFiniteThresholds then some test else none := by
  rw [Json.read?, Datum.parse?_toJson]
  exact Codec.read?_jsonTestCase 125 test

/-- A test case where no pixel counts as incorrect. -/
def lenient : TestCase :=
  { ofNames "Imposter" "Billboard" 17 42 false with
    comparison := { ImageComparison.standard with perPixelThreshold := .infinity false } }

theorem read?_toJson_lenient : Json.read? TestCase (Datum.toJson (Codec.datum lenient)) = none := by
  have infinite : lenient.comparison.hasFiniteThresholds = false := rfl
  generalize lenient = test at infinite
  rw [Json.read?, Datum.parse?_toJson]
  exact (Codec.read?_jsonTestCase 125 test).trans (if_neg (by simp [infinite]))

end TestCase

end ShadingGraph
