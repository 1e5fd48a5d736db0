import ShadingGraph.CommandLine

/-! # The command -/

namespace ShadingGraph.Command

def readContent (path : String) : IO (Option String) := do
  try
    return some (← IO.FS.readFile path)
  catch _ =>
    return none

end ShadingGraph.Command

open ShadingGraph in
/-- Print the code of the graph in the first file, or the error with exit code one. -/
def main (arguments : List String) : IO UInt32 := do
  match Command.run (← arguments.mapM Command.readContent) with
  | .ok texts =>
    for text in texts do
      IO.println text
    return 0
  | .error error =>
    IO.eprintln error.message
    return 1
