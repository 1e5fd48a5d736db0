import ShadingGraph.Number.Binary32

/-! # Material test cases

A test case names a rendered material with the image that is expected of it, and says
how the two images are compared.
-/

namespace ShadingGraph

/-- How a rendered image is compared with the expected one. -/
structure ImageComparison where
  targetWidth : UInt32
  targetHeight : UInt32
  /-- Error above which a pixel counts as incorrect. -/
  perPixelThreshold : Binary32
  /-- Greatest mean error that is accepted. -/
  averageThreshold : Binary32
  /-- Greatest part of incorrect pixels that is accepted. -/
  incorrectPixelsThreshold : Binary32
  useHdr : Bool
  deriving DecidableEq, Repr

namespace ImageComparison

/-- Comparison where nothing else is chosen: one incorrect pixel in an image of 512 by
512. -/
def standard : ImageComparison where
  targetWidth := 512
  targetHeight := 512
  perPixelThreshold := Binary32.ofRatio false 1 1000
  averageThreshold := Binary32.ofRatio false 5 1000
  incorrectPixelsThreshold := Binary32.ofRatio false 1 (512 * 512)
  useHdr := false

/-- Equality, thresholds compared as arithmetic compares numbers. -/
def equals (a b : ImageComparison) : Bool :=
  a.targetWidth = b.targetWidth && a.targetHeight = b.targetHeight
    && a.perPixelThreshold.equals b.perPixelThreshold
    && a.averageThreshold.equals b.averageThreshold
    && a.incorrectPixelsThreshold.equals b.incorrectPixelsThreshold
    && a.useHdr = b.useHdr

end ImageComparison

structure TestCase where
  name : String
  /-- Hash of the expected image. -/
  expectedHash : Int32
  /-- Hash of the material. -/
  testHash : Int32
  perspective : Bool
  /-- Name of the expected image. -/
  expectedPath : String
  /-- Name of the material. -/
  materialPath : String
  /-- Name of the mesh, if the test brings its own. -/
  meshPath : Option String
  comparison : ImageComparison
  deriving DecidableEq, Repr

namespace TestCase

/-- Test case with names made of those of the test and the material. -/
def ofNames (name material : String) (expectedHash testHash : Int32) (hasMesh : Bool) :
    TestCase where
  name := name
  expectedHash := expectedHash
  testHash := testHash
  perspective := true
  expectedPath := name ++ "_" ++ material ++ "_image"
  materialPath := name ++ "_" ++ material ++ "_material"
  meshPath := if hasMesh then some (name ++ "_mesh") else none
  comparison := .standard

def equals (a b : TestCase) : Bool :=
  a.name = b.name && a.expectedHash = b.expectedHash && a.testHash = b.testHash
    && a.perspective = b.perspective && a.expectedPath = b.expectedPath
    && a.materialPath = b.materialPath && a.meshPath = b.meshPath
    && a.comparison.equals b.comparison

end TestCase

end ShadingGraph
