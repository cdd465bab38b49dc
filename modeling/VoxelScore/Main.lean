import VoxelScore.CommandLine.Run

/-!
# The program

Reads the files that a command line needs and prints the answer.
-/

namespace VoxelScore

/-- What a path leads to. -/
def readPath (path : Text) : IO FileContent := do
  let name := String.ofList path
  try
    let bytes ← IO.FS.readBinFile name
    return .bytes bytes.toList
  catch
    | .noFileOrDirectory .. => return .missing
    | _ => return .unreadable

/-- The contents of files by their paths. -/
def readPaths (paths : List Text) : IO (Text → FileContent) := do
  let contents ← paths.mapM fun path => return (path, ← readPath path)
  return fun path => (contents.lookup path).getD .missing

end VoxelScore

open VoxelScore in
/-- Prints the answer to the arguments. -/
def main (args : List String) : IO UInt32 := do
  let arguments := args.map String.toList
  let home := ((← IO.getEnv "HOME").getD ".").toList
  let files ← match Invocation.parse arguments with
    | .ok invocation => readPaths (invocation.paths home)
    | .error _ => pure fun _ => .missing
  let answer := CommandLine.answer home files arguments
  IO.print answer.output
  IO.eprint answer.error
  return UInt32.ofNat answer.exit
