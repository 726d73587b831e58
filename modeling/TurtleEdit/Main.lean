import TurtleEdit.Command.Run

/-!
The command line program: files in, a run, files and texts out.

Only the files that the words name are read, and only one that the run changed is written.
-/

namespace TurtleEdit

/-- The paths that a request names. -/
def Request.paths : Request → List String
  | .settings config => config.toList
  | .indent request => request.file :: request.config.toList
  | .highlight request => [request.file]
  | _ => []

/-- Adds what stands at a path to some files. What is there and cannot be read as a file is taken
for a directory. -/
def Files.addFromDisk (files : Files) (path : String) : IO Files := do
  let place := (Path.ofString path).render
  try
    return files.add path (.file (← IO.FS.readBinFile place))
  catch
    | .noFileOrDirectory .. => return files
    | _ => return files.add path .directory

/-- Writes the file at a path if its bytes differ from those before. -/
def Files.writeToDisk (before after : Files) (path : String) : IO Unit := do
  let place := Path.ofString path
  if let (.ok old, .ok new) := (before.read place, after.read place) then
    if old != new then IO.FS.writeBinFile place.render new

/-- The paths that the words of a command line name. -/
def namedPaths (words : List String) : List String :=
  match Invocation.ofWords words with
  | .ok invocation => invocation.request.paths
  | .error _ => []

/-- The machine that the program stands on. What it cannot hold, it fails at; a thousand levels of a
value are written. -/
def Machine.host : Machine where
  room := .widest
  depths := ⟨1000, 1000, 1000, 1000⟩

/-- Runs the words of a command line where the program stands. -/
def runOnDisk (words : List String) : IO UInt32 := do
  let paths := namedPaths words
  let files ← paths.foldlM Files.addFromDisk Files.empty
  let outcome := runWords .host files words
  for path in paths do
    files.writeToDisk outcome.session.files path
  IO.print (String.ofList outcome.session.out)
  IO.eprint (String.ofList outcome.session.err)
  if outcome.session.verbose then
    for event in outcome.session.events do
      IO.eprintln (event.message?.getD Run.complaint)
  return outcome.exitCode.toUInt32

end TurtleEdit

/-- Runs the command line. -/
def main (words : List String) : IO UInt32 := TurtleEdit.runOnDisk words
