/-! # Assembly settings -/

namespace ShadingGraph

/-- Choices in the text of assembled code. -/
structure AssemblySettings where
  version : UInt32
  /-- Character that begins a reference in a template. -/
  sigil : Char
  /-- Text between node and port in an identifier. -/
  separator : String
  /-- Directive before the name of an included file. -/
  includeKeyword : String
  /-- Text before each line of declarations and code. -/
  indent : String
  /-- Whether declarations are written at all. -/
  emitDeclarations : Bool
  deriving DecidableEq, Repr

namespace AssemblySettings

/-- Newest version of the settings that can be read. -/
def currentVersion : UInt32 := 1

/-- Settings where nothing else is chosen. -/
def standard : AssemblySettings where
  version := currentVersion
  sigil := '$'
  separator := "_"
  includeKeyword := "#include"
  indent := "    "
  emitDeclarations := true

end AssemblySettings

end ShadingGraph
