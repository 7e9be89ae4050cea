import FlowGraph.Command.Standard
import FlowGraph.CommandLine
import FlowGraph.Files.Changes
import FlowGraph.Run.Instant
import FlowGraph.Script.Run

/-!
# The program

The files below the current folder are read, the command is run on them, and the files
that it made or changed are written back. The current time is that of a file made for
the purpose.
-/

namespace FlowGraph.Program

/-- Folders are read no deeper than this. -/
def greatestDepth : Nat := 64

/-- The entries of a folder. -/
def readFolder (depth : Nat) (entries : Array IO.FS.DirEntry) : IO (List (String × Entry)) := do
  let mut found := []
  for entry in entries do
    try
      let e ← match (← entry.path.metadata).type, depth with
        | .dir, depth + 1 => do pure (Entry.folder (← readFolder depth (← entry.path.readDir)))
        | .dir, 0 => pure (Entry.folder [])
        | _, _ => do pure (Entry.file (← IO.FS.readBinFile entry.path))
      found := (entry.fileName, e) :: found
    catch _ => pure ()
  return found.reverse

/-- The files below the current folder. -/
def readFiles : IO FileTree := do
  let current ← IO.currentDir
  let names := (FileTree.steps current.toString).filter (· ≠ "")
  return .ofCurrent names (← readFolder greatestDepth (← current.readDir))

/-- Writes a file by the names that lead to it from the root. -/
def writeFile (names : List String) (bytes : ByteArray) : IO Unit := do
  IO.FS.createDirAll ("/".intercalate ("" :: names.dropLast))
  IO.FS.writeBinFile ("/".intercalate ("" :: names)) bytes

/-- The current time. -/
def now : IO String := do
  let (_, path) ← IO.FS.createTempFile
  let modified := (← path.metadata).modified
  IO.FS.removeFile path
  return Instant.text modified.sec.toNat

/-- The variables of the environment that the configuration reads. -/
def environment : IO (Dict String) := do
  let names := [Config.flowsDirName, Config.scriptsDirName, Config.runDirName,
    Config.maxNodesName, Config.multiplierName]
  let found ← names.filterMapM fun name => do
    return (← IO.getEnv name).map fun value => (name, value)
  return Dict.ofList found

/-- How the command is used. -/
def usage : String :=
  "Usage: run_flow [--config FILE] [--flows-dir DIR] [--scripts-dir DIR] [--run-dir DIR] " ++
    "[--no-failure-flow] FLOW FILE"

end FlowGraph.Program

open FlowGraph FlowGraph.Program in
/-- Runs the command with its arguments; its exit code tells how it ended. -/
def main (args : List String) : IO UInt32 := do
  let files ← readFiles
  let env ← environment
  let startedAt ← now
  let (ending, after) :=
    CommandLine.run Script.evaluate Command.run files env ⟨startedAt, startedAt⟩ args
  for (names, bytes) in files.changed after do
    writeFile names bytes
  match ending with
  | .help => IO.println usage
  | .usage => IO.eprintln usage
  | .failed message => IO.eprintln ("Error: " ++ message)
  | .ran flow result =>
    for line in CommandLine.summary flow result do
      IO.println line
  return ending.code.toUInt32
