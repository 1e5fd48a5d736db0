import ShadingGraph.Number.Binary32
import ShadingGraph.Table

/-! # Sources

A source is a value that was read from some text format and can be taken for a value
of a type. What counts as a record, a list or a number is a matter of the format; the
readers of types only ask.
-/

namespace ShadingGraph

/-- Whether a member of a record may be left out. -/
inductive Presence where
  /-- The member has to be there. -/
  | required
  /-- The member may be left out where members are given by name. -/
  | optional
  /-- The member may be left out everywhere. -/
  | defaulted
  deriving DecidableEq, Repr

/-- Values of a text format, asked for by the kinds of data that types are made of.
Each question is answered by `none` if the value is not of the kind. -/
class Source (ν : Type) where
  /-- Bound on how far values may still be nested within this one. -/
  levels : ν → Nat
  bool? : ν → Option Bool
  int32? : ν → Option Int32
  uint32? : ν → Option UInt32
  float? : ν → Option Binary32
  char? : ν → Option Char
  text? : ν → Option String
  /-- A value that may be missing: `some none` if it is. -/
  option? : ν → Option (Option ν)
  list? : ν → Option (List ν)
  /-- Items of a list of a fixed length. -/
  tuple? : Nat → ν → Option (List ν)
  /-- Entries of a map in order, repeated keys included. -/
  map? : ν → Option (List (String × ν))
  /-- Members of a record of a name, each at most once. Members that are not among the
  known ones are dropped. -/
  record? : String → List (String × Presence) → ν → Option (List (String × ν))
  /-- Name of an alternative that holds nothing. -/
  unit? : ν → Option String
  /-- Name of an alternative with what it holds. -/
  variant? : ν → Option (String × ν)

namespace Presence

variable {ν : Type}

/-- Whether all known members that have to be there are among those found; `allowed`
tells which may be left out. -/
def complete (allowed : Presence → Bool) (known : List (String × Presence))
    (found : List (String × ν)) : Bool :=
  known.all fun (name, presence) => allowed presence || Table.contains found name

/-- Whether a member given by name may be left out. -/
def byName (presence : Presence) : Bool :=
  presence ≠ .required

/-- Whether a member given by position may be left out. -/
def byPosition (presence : Presence) : Bool :=
  presence = .defaulted

end Presence

end ShadingGraph
