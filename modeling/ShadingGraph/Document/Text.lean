import ShadingGraph.Codec.Graph
import ShadingGraph.Graph.Message
import ShadingGraph.Ron.Source
import ShadingGraph.Ron.Writer

/-! # Documents as text

Documents are kept as RON text. A document of a newer version is refused after it has
been read.
-/

namespace ShadingGraph

/-- Why no graph can be taken from a file, or put into one. -/
inductive DocumentError where
  /-- The file cannot be read. -/
  | unreadable
  /-- The text is no document. -/
  | malformed
  /-- The document is nested too deeply to be written. -/
  | tooDeep
  | newerVersion (found : UInt32)
  | rebuild (error : RebuildError)
  deriving DecidableEq, Repr

def RebuildError.message : RebuildError → String
  | .graph error => error.message
  | .connection error => error.message

def DocumentError.message : DocumentError → String
  | .unreadable => "Document I/O failed"
  | .malformed => "Invalid document"
  | .tooDeep => "Could not serialize document"
  | .newerVersion found =>
    "Document version " ++ toString found.toNat ++ " is newer than supported version "
      ++ toString GraphDocument.currentVersion.toNat
  | .rebuild error => error.message

namespace GraphDocument

def toText (document : GraphDocument) : Except DocumentError String :=
  match Datum.toRon? .pretty (Codec.datum document) with
  | some text => .ok text
  | none => .error .tooDeep

def ofText (text : String) : Except DocumentError GraphDocument :=
  match Ron.read? GraphDocument text with
  | none => .error .malformed
  | some document =>
    if currentVersion < document.version then .error (.newerVersion document.version)
    else .ok document

/-- Document of a file, whose content is `none` if it cannot be read. -/
def ofFile : Option String → Except DocumentError GraphDocument
  | some text => ofText text
  | none => .error .unreadable

end GraphDocument

end ShadingGraph
