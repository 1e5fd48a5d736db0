import ShadingGraph.Assembly.Settings
import ShadingGraph.Text.Character

/-! # Identifiers and templates

The identifier of a port joins the names of node and port. Whatever cannot stand in
an identifier becomes an underscore, and a leading digit is preceded by one.

The body of a variant is a template. A sigil and a name refer to a parameter; a
doubled sigil, or one that no name follows, stands for the sigil itself. Reading a
template into tokens looks at each character once.
-/

namespace ShadingGraph

def isIdentifierChar (c : Char) : Bool :=
  isLetter c || isDigit c || c == '_'

/-- Text with an underscore in place of every character that cannot stand in an
identifier. -/
def sanitize (raw : List Char) : List Char :=
  let cleaned := raw.map fun c => if isIdentifierChar c then c else '_'
  match cleaned with
  | c :: rest => if isDigit c then '_' :: c :: rest else c :: rest
  | [] => []

def portIdentifier (settings : AssemblySettings) (node port : String) : String :=
  String.ofList (sanitize (node ++ settings.separator ++ port).toList)

/-- Piece of a template. -/
inductive Token where
  /-- A character that stands for itself. -/
  | char (c : Char)
  /-- The sigil itself. -/
  | sigil
  /-- A parameter; `member` tells whether a member of it follows in the text. -/
  | reference (name : String) (member : Bool)
  deriving DecidableEq, Repr

namespace Template

/-- Whether a text begins with a point and a letter or underscore. -/
def beginsMember : List Char → Bool
  | '.' :: c :: _ => isLetter c || c == '_'
  | _ => false

theorem length_dropWhile_le (p : Char → Bool) (cs : List Char) :
    (cs.dropWhile p).length ≤ cs.length :=
  (List.dropWhile_sublist p).length_le

def tokens (sigil : Char) : List Char → List Token
  | [] => []
  | c :: rest =>
    if c ≠ sigil then .char c :: tokens sigil rest
    else if rest.head? = some sigil then .sigil :: tokens sigil rest.tail
    else if (rest.takeWhile isIdentifierChar).isEmpty then .sigil :: tokens sigil rest
    else
      .reference (String.ofList (rest.takeWhile isIdentifierChar))
          (beginsMember (rest.dropWhile isIdentifierChar))
        :: tokens sigil (rest.dropWhile isIdentifierChar)
termination_by cs => cs.length
decreasing_by
  · exact Nat.lt_succ_self _
  · simp only [List.length_cons, List.length_tail]
    omega
  · exact Nat.lt_succ_self _
  · exact Nat.lt_succ_of_le (length_dropWhile_le isIdentifierChar rest)

end Template

end ShadingGraph
