/-
The program on a real machine. What it may need of the files is read first; then it runs
as a function of what has been read, and the changes it makes to the files are carried out.
It starts no command and reaches no network: a dry run is complete, and a deployment ends
where the first command of a node is to be started. All of it happens at one time.
-/

import PerpDeploy.CommandLine.Program
import Std.Time.DateTime.Timestamp

namespace PerpDeploy.CommandLine

def variableNames : List String :=
  optionVariables.map Prod.fst ++
    [ "MARGINED_NODE_URL", "MARGINED_CHAIN_ID", "MARGINED_BINARY", "MARGINED_KEY_NAME",
      "MARGINED_KEYRING_BACKEND", "MARGINED_GAS_PRICES", "MARGINED_GAS_ADJUSTMENT",
      "MARGINED_CONFIRMATION_TIMEOUT_SECS", "MARGINED_NO_WAIT" ]

def readEnvironment : IO Layers.Environment :=
  variableNames.filterMapM fun name => do
    return (← IO.getEnv name).map fun value => (name, value)

/-- What cannot be read counts as not there. -/
def readFileEntry (path : Path) : IO (Option FileEntry) := do
  let real := (← IO.currentDir) / path
  try
    if ← real.isDir then return some (.directory FileTree.directoryMode)
    else return some (.file (← IO.FS.readBinFile real))
  catch _ => return none

def takeLocation (files : FileTree) (location : Location) : IO FileTree :=
  (List.range location.length).foldlM
    (fun files count => do
      let place := location.take (count + 1)
      if (files.at? place).isSome then return files
      else match ← readFileEntry (Layers.directoryPath place) with
        | some entry => return files.put place entry
        | none => return files)
    files

def locationOf (directory : Location) (path : Path) : Location :=
  path.pieces.foldl
    (fun location name =>
      if name = "" ∨ name = "." then location
      else if name = ".." then location.dropLast
      else location ++ [name])
    (if path.isAbsolute then [] else directory)

def placesOf (options : Options) (directory : Location) : List Location :=
  let below := locationOf directory
  let configs := (Layers.directoriesUp directory).map fun above => locationOf above options.config
  let store : ArtifactStore := { root := options.artifacts }
  let artifacts := ContractName.all.map fun name => below (store.pathFor name)
  let output := match options.output with
    | some (.path path) => below path
    | _ => directory
  configs ++ artifacts ++ [output ++ [DeployerPlan.manifestName], ["tmp"]]

def readFiles (options : Options) : IO FileTree := do
  let directory := locationOf [] (← IO.currentDir).toString
  (placesOf options directory).foldlM takeLocation
    (← takeLocation { entries := [], workingDirectory := directory } directory)

def writeChanges (before after : FileTree) : IO Unit :=
  after.entries.forM fun (location, entry) => do
    if before.at? location ≠ some entry then
      let path := Layers.directoryPath location
      match entry with
      | .directory _ => IO.FS.createDirAll path
      | .file content => IO.FS.writeBinFile path content

def absentNode : NodeHost :=
  { installed := fun _ => false
    reply := fun _ => { stdout := ByteArray.empty, stderr := ByteArray.empty, status := .exited 1 }
    http := fun _ => .unreachable }

def readWorld (files : FileTree) (environment : Layers.Environment) : IO World := do
  let now := (← Std.Time.Timestamp.now).toSecondsSinceUnixEpoch.val
  let mark := toString (← IO.monoNanosNow)
  return {
    environment
    files
    node := absentNode
    temporary := "/tmp/" ++ DeployerPlan.temporaryDirectoryMark ++ "." ++ mark
    clock := fun _ => now }

def logLine (event : LogEvent) : String :=
  let level := match event.level with
    | .info => "INFO"
    | .warning => "WARN"
    | .error => "ERROR"
  let fields := event.fields.map fun field => field.1 ++ "=" ++ field.2
  " ".intercalate ([level, event.message] ++ fields)

def runProgram (arguments : List String) : IO UInt32 := do
  let environment ← readEnvironment
  let files ← match Options.read arguments environment with
    | .ok options => readFiles options
    | .error _ => pure { entries := [], workingDirectory := [] }
  let performance := respond arguments (← readWorld files environment)
  if let some (options, ending) := performance.outcome then
    writeChanges files ending.files
    for event in loggedEvents options.verbosity ending do
      IO.eprintln (logLine event)
  IO.print performance.output.stdout
  IO.eprint performance.output.stderr
  return UInt32.ofNat performance.output.exitCode

end PerpDeploy.CommandLine

def main (arguments : List String) : IO UInt32 := PerpDeploy.CommandLine.runProgram arguments
