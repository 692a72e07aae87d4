import Rota.Service.Program

namespace Rota

/-- The environment variables that stand in for options. -/
def envNames : List String :=
  let options := Cli.programLevel.options ++ Cli.Verb.all.flatMap Cli.Verb.options
  (options.filterMap (·.envName)).eraseDups

def readEnvironment : IO Cli.Environment :=
  envNames.filterMapM fun name => do return (← IO.getEnv name).map (name, ·)

def Cli.Command.paths : Cli.Command → List String
  | .host o => [o.logFile, o.scoresFile] ++ o.rules.config.toList
  | .simulate o => [o.logFile, o.scoresFile] ++ o.rules.config.toList
  | .player _ | .cleanShm _ => []

def isFolder (path : String) : IO Bool := do
  try (← IO.FS.realPath path).isDir
  catch _ => return false

/-- Adds what lies at the end of a path, and the folders on the way. -/
def addPath (files : Files) (path : String) : IO Files := do
  let mut files := files
  let way := Way.ofPath path
  for length in List.range (way.length + 1) do
    let folder : Way := way.take length
    if ← isFolder folder.path then files := files.makeFolder folder
  try return (files.save path (← IO.FS.readFile path)).toOption.getD files
  catch _ => return files

def writeBack (before after : Files) (path : String) : IO Unit := do
  let old := (before.load path).toOption
  match (after.load path).toOption with
  | some text => if old ≠ some text then IO.FS.writeFile path text
  | none => return

/-- As many random words as a long game takes. -/
def randomWords : IO (List UInt64) := do
  let bytes ← IO.getRandomBytes 32768
  return (List.range 4096).map fun i =>
    (List.range 8).foldl (fun w k => w * 256 + (bytes.data.getD (8 * i + k) 0).toUInt64) 0

end Rota

open Rota

def main (args : List String) : IO UInt32 := do
  let env ← readEnvironment
  let paths := match Cli.parse env args with
    | .ok i => i.command.paths
    | .error _ => []
  let files ← paths.foldlM addPath {}
  let words ← (List.range mostSeats).mapM fun _ => randomWords
  let dice := fun i => ⟨words.getD i [], 0⟩
  let (ending, world) := Service.runProgram env "0" dice args { files }
  for path in paths do
    writeBack files world.files path
  IO.print ending.output
  IO.eprint ending.errors
  return .ofNat ending.exitCode
