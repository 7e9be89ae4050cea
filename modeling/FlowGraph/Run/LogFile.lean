import FlowGraph.Files.Loading
import FlowGraph.Run.Log

/-!
# Run logs in folders

The log of the last run lies under a fixed name in the run folder.
-/

namespace FlowGraph

/-- Why a log could not be loaded. -/
inductive LogFileError where
  | unreadable (e : OsError)
  /-- The file holds no log. -/
  | invalid (e : Json.DecodeError)

namespace RunLog

/-- The name of the file of a log. -/
def fileName : String := "run.log.json"

/-- The path of the log in a run folder. -/
def pathIn (runDir : Path) : Path := runDir.join fileName

/-- The bytes of the file of a log. -/
def bytes (log : RunLog) : ByteArray := log.toJson.indented.toUTF8

/-- Writes a log into a run folder, which is made if it is missing; the changed files
and the path of the log. -/
def writeTo (log : RunLog) (runDir : Path) (files : FileTree) :
    Except OsError (FileTree × Path) := do
  let files ← files.createFolders runDir
  let files ← files.write (pathIn runDir) log.bytes
  return (files, pathIn runDir)

/-- Loads the log at a path. -/
def load (files : FileTree) (p : Path) : Except LogFileError RunLog :=
  match files.read p with
  | .error e => .error (.unreadable e)
  | .ok bytes =>
    match FileTree.decodeBytes RunLog.decoder bytes with
    | .ok log => .ok log
    | .error e => .error (.invalid e)

end RunLog

end FlowGraph
