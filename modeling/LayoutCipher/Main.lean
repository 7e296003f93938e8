import LayoutCipher.Program

/-!
# The program

Collects what a run needs from the system, runs the program, and prints what it left behind.
-/

namespace LayoutCipher.Program

/-- The paths that a run may look at. -/
def pathsOf (places : Settings.Places) : List String :=
  places.globalFile.toList ++ places.explicitFile.toList ++ [places.projectFile]

def readState (path : String) : IO FileState := do
  let file := (← IO.currentDir) / path
  if !(← file.pathExists) then return .absent
  match ← (IO.FS.readBinFile file).toBaseIO with
  | .ok content => return .bytes content
  | .error error => return .unreadable (toString error)

/-- What every one of some paths leads to; other paths count as absent. -/
def readStates (paths : List String) : IO FileSystem := do
  let states ← paths.mapM fun path => return (path, ← readState path)
  return fun path => (states.lookup path).getD .absent

def readEnvironment : IO Environment := do
  let names := ["HOME", "XDG_CONFIG_HOME", "KEYCIPHER_LOG_LEVEL", "KEYCIPHER_CIPHER"]
  let values ← names.mapM fun name => return (name, ← IO.getEnv name)
  return fun name => (values.lookup name).join

/-- What the run finds around it; only the files that its command line leads to are read. -/
def readSurroundings (arguments : List String) : IO Surroundings := do
  let directory := (← IO.currentDir).toString
  let environment ← readEnvironment
  let configPath := (CommandLine.parse arguments).toOption.bind (·.configPath)
  let surroundings : Surroundings :=
    { workingDirectory := directory, environment, files := fun _ => .absent }
  let files ← readStates (pathsOf (places surroundings configPath))
  return { surroundings with files }

end LayoutCipher.Program

/-- Runs the program on the arguments of the process. -/
def main (arguments : List String) : IO UInt32 := do
  let surroundings ← LayoutCipher.Program.readSurroundings arguments
  let result := (LayoutCipher.Program.run surroundings arguments).result
  result.log.forM fun line => IO.eprintln line
  IO.print result.output
  if result.report ≠ "" then IO.eprintln result.report
  return UInt32.ofNat result.exitStatus
