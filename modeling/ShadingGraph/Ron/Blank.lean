/-! # Blank text in RON

White space and comments may stand between any two tokens. A comment runs from two
slashes to the end of the line, or from `/*` to its `*/` with other comments inside.
-/

namespace ShadingGraph.Ron

/-- The characters with the Unicode property `Pattern_White_Space`. -/
def isBlank (c : Char) : Bool :=
  let n := c.toNat
  (9 ≤ n && n ≤ 13) || n == 0x20 || n == 0x85 || n == 0x200E || n == 0x200F || n == 0x2028
    || n == 0x2029

/-- What the next character is part of. -/
inductive Gap where
  /-- Text between tokens. -/
  | space
  /-- A comment to the end of the line. -/
  | line
  /-- A comment between marks, with the number of comments around it. -/
  | block (depth : Nat)
  deriving DecidableEq, Repr

/-- Rest of a text after the end of the gap; `none` for a comment without an end and
for a slash that begins none. -/
def skip? : Gap → List Char → Option (List Char)
  | .space, c :: rest =>
    if isBlank c then skip? .space rest
    else if c = '/' then
      match rest with
      | '/' :: comment => skip? .line comment
      | '*' :: comment => skip? (.block 0) comment
      | _ => none
    else some (c :: rest)
  | .line, c :: rest => if c = '\n' then skip? .space rest else skip? .line rest
  | .block depth, '*' :: '/' :: rest =>
    match depth with
    | 0 => skip? .space rest
    | outer + 1 => skip? (.block outer) rest
  | .block depth, '/' :: '*' :: rest => skip? (.block (depth + 1)) rest
  | .block depth, _ :: rest => skip? (.block depth) rest
  | .block _, [] => none
  | .space, [] => some []
  | .line, [] => some []

/-- Rest of a text after white space and comments. -/
def skipBlank? (text : List Char) : Option (List Char) :=
  skip? .space text

end ShadingGraph.Ron
