import ShadingGraph.Number.Binary32

/-! # Data

A datum is a value on its way to a text format: what a format has to write, without
the marks that a format writes.
-/

namespace ShadingGraph

inductive Datum where
  | bool (value : Bool)
  | int (value : Int)
  | float (value : Binary32)
  | char (value : Char)
  | text (value : String)
  /-- A value that is missing. -/
  | absent
  /-- A value that could be missing and is there. -/
  | present (value : Datum)
  | list (items : List Datum)
  /-- A list of a fixed length. -/
  | tuple (items : List Datum)
  | map (entries : List (String × Datum))
  /-- A structure with its name and members. -/
  | record (name : String) (members : List (String × Datum))
  /-- An alternative that holds nothing. -/
  | unit (name : String)
  /-- An alternative with what it holds. -/
  | variant (name : String) (payload : Datum)
  deriving Repr

end ShadingGraph
