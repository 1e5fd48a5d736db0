import ShadingGraph.Assembly.Basic
import ShadingGraph.Assembly.SettingsText
import ShadingGraph.Document.Text
import ShadingGraph.Registry.Standard

/-! # Command line

The command assembles the graph of a document file against the standard registry,
with the settings of a second file if there is one.
-/

namespace ShadingGraph

inductive CommandError where
  | usage
  | settings (error : SettingsError)
  | document (error : DocumentError)
  | assembly (error : AssemblyError)
  deriving DecidableEq, Repr

def CommandError.message : CommandError → String
  | .usage => "usage: shadergraph <graph.ron> [settings.ron]"
  | .settings error => "failed to load settings: " ++ error.message
  | .document error => "failed to load graph: " ++ error.message
  | .assembly error => "failed to assemble graph: " ++ error.message

namespace Command

/-- Code of the graph of a document: one text for each node, in dependency order. -/
def assembleFile (file : Option String) (settings : AssemblySettings) :
    Except CommandError (List String) :=
  match GraphDocument.ofFile file with
  | .error error => .error (.document error)
  | .ok document =>
    match document.rebuild Registry.standard with
    | .error error => .error (.document (.rebuild error))
    | .ok graph =>
      match assembleGraph settings Registry.standard graph with
      | .error error => .error (.assembly error)
      | .ok fragments => .ok (fragments.map (·.render settings))

/-- What the command prints for the contents of its files, each text on lines of its
own. A file that cannot be read has no content. The settings are looked at first. -/
def run : List (Option String) → Except CommandError (List String)
  | [file] => assembleFile file .standard
  | [file, settingsFile] =>
    match AssemblySettings.ofFile settingsFile with
    | .error error => .error (.settings error)
    | .ok settings => assembleFile file settings
  | _ => .error .usage

end Command

end ShadingGraph
