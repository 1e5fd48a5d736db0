import ShadingGraph.Assembly.Settings
import ShadingGraph.Text.Character
import ShadingGraph.Text.Split

/-! # Fragments

A fragment is the assembled code of one node. Written out it is one directive per
included file, a comment that names node and variant, one line per declaration, and
the lines of the body; blank lines of the body lose their spaces.
-/

namespace ShadingGraph

structure Declaration where
  identifier : String
  shaderType : String
  initializer : Option String
  deriving DecidableEq, Repr

structure Fragment where
  node : String
  variant : String
  declarations : List Declaration
  body : String
  includes : List String
  deriving DecidableEq, Repr

def Declaration.line (settings : AssemblySettings) (declaration : Declaration) : String :=
  settings.indent ++ declaration.shaderType ++ " " ++ declaration.identifier
    ++ (match declaration.initializer with
      | some initializer => " = " ++ initializer
      | none => "") ++ ";"

namespace Fragment

def includeLine (settings : AssemblySettings) (file : String) : String :=
  settings.includeKeyword ++ " \"" ++ file ++ "\""

/-- Comment that names node and variant. -/
def comment (fragment : Fragment) : String :=
  "// " ++ fragment.node ++ " (" ++ fragment.variant ++ ")"

/-- Line of the body as it is written. -/
def bodyLine (settings : AssemblySettings) (line : List Char) : String :=
  if line.all Text.isWhiteSpace then "" else settings.indent ++ String.ofList line

def lines (settings : AssemblySettings) (fragment : Fragment) : List String :=
  fragment.includes.map (includeLine settings)
    ++ [fragment.comment]
    ++ (if settings.emitDeclarations then fragment.declarations.map (·.line settings) else [])
    ++ (Text.lines fragment.body.toList).map (bodyLine settings)

/-- Text of a fragment: its lines, each with a line feed. -/
def render (settings : AssemblySettings) (fragment : Fragment) : String :=
  String.join ((fragment.lines settings).map (· ++ "\n"))

end Fragment

end ShadingGraph
