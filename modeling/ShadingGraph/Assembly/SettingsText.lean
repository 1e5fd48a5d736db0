import ShadingGraph.Assembly.Settings
import ShadingGraph.Codec.Basic
import ShadingGraph.Ron.Source
import ShadingGraph.Ron.Writer

/-! # Assembly settings as text

Settings are kept as RON text that holds only what differs from the standard. Settings
of a newer version are refused after they have been read.
-/

namespace ShadingGraph

namespace Codec

instance : Codec AssemblySettings where
  datum settings := .record "AssemblySettings"
    [ ("version", datum settings.version), ("sigil", datum settings.sigil),
      ("separator", datum settings.separator),
      ("include_keyword", datum settings.includeKeyword), ("indent", datum settings.indent),
      ("emit_declarations", datum settings.emitDeclarations) ]
  read? source := do
    let members ← Source.record? "AssemblySettings"
      [ ("version", .defaulted), ("sigil", .defaulted), ("separator", .defaulted),
        ("include_keyword", .defaulted), ("indent", .defaulted),
        ("emit_declarations", .defaulted) ] source
    let standard := AssemblySettings.standard
    return ⟨← memberOr? standard.version members "version",
      ← memberOr? standard.sigil members "sigil",
      ← memberOr? standard.separator members "separator",
      ← memberOr? standard.includeKeyword members "include_keyword",
      ← memberOr? standard.indent members "indent",
      ← memberOr? standard.emitDeclarations members "emit_declarations"⟩

end Codec

/-- Why no settings can be taken from a file, or put into one. -/
inductive SettingsError where
  /-- The file cannot be read. -/
  | unreadable
  /-- The text is no settings. -/
  | malformed
  /-- The settings are nested too deeply to be written. -/
  | tooDeep
  | newerVersion (found : UInt32)
  deriving DecidableEq, Repr

def SettingsError.message : SettingsError → String
  | .unreadable => "Settings I/O failed"
  | .malformed => "Invalid settings"
  | .tooDeep => "Could not serialize settings"
  | .newerVersion found =>
    "Settings version " ++ toString found.toNat ++ " is newer than supported version "
      ++ toString AssemblySettings.currentVersion.toNat

namespace AssemblySettings

/-- Text of settings, with all of them. -/
def toText (settings : AssemblySettings) : Except SettingsError String :=
  match Datum.toRon? .prettyNamed (Codec.datum settings) with
  | some text => .ok text
  | none => .error .tooDeep

def ofText (text : String) : Except SettingsError AssemblySettings :=
  match Ron.read? AssemblySettings text with
  | none => .error .malformed
  | some settings =>
    if currentVersion < settings.version then .error (.newerVersion settings.version)
    else .ok settings

/-- Settings of a file, whose content is `none` if it cannot be read. -/
def ofFile : Option String → Except SettingsError AssemblySettings
  | some text => ofText text
  | none => .error .unreadable

end AssemblySettings

end ShadingGraph
