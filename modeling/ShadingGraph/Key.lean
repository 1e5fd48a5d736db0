/-! # Keys

A key names a registered type or node definition by name and version.
-/

namespace ShadingGraph

/-- Identity of a registered type or node definition. -/
structure Key where
  name : String
  version : UInt32
  deriving DecidableEq, Repr

namespace Key

/-- Written form, as in `Vec4.v1`. -/
def text (key : Key) : String :=
  key.name ++ ".v" ++ toString key.version.toNat

/-- Keys are ordered by name, code point by code point, then by version. -/
def le (a b : Key) : Bool :=
  if a.name = b.name then a.version ≤ b.version else a.name < b.name

def sort (keys : List Key) : List Key :=
  keys.mergeSort le

end Key

end ShadingGraph
