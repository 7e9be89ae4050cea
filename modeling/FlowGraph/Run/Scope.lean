import FlowGraph.Path
import FlowGraph.Variables

/-!
# What steps see and change

A scope holds the working file, the file the run was started for, the variables and the
reason of the last failure. The facts of both files are published as variables.
-/

namespace FlowGraph

/-- What steps see and change. -/
structure Scope where
  workingFile : Path
  /-- The file that the run, or the walk for one file of a folder, was started for. -/
  originalFile : Path
  vars : Variables
  failureReason : Option String

namespace Scope

/-- The variables that tell about the original file. -/
def originalFileFacts (p : Path) : List (String × Json) :=
  [("file.Orig.FullName", .str p.text), ("file.Orig.Name", .str p.fileName),
   ("file.Orig.NameNoExtension", .str p.stem), ("file.Orig.Extension", .str p.dottedExtension)]

/-- The text of the folder that holds a file. -/
def folderText (p : Path) : String := (p.parent?.map Path.text).getD ""

/-- The variables that tell about the working file. -/
def workingFileFacts (p : Path) : List (String × Json) :=
  [("file.FullName", .str p.text), ("file.Name", .str p.fileName),
   ("file.NameNoExtension", .str p.stem), ("file.Extension", .str p.dottedExtension),
   ("folder.FullName", .str (folderText p))]

/-- The scope for processing a file, with some variables. -/
def forFile (file : Path) (vars : Variables) : Scope :=
  { workingFile := file
    originalFile := file
    vars := (vars.insertAll (originalFileFacts file)).insertAll (workingFileFacts file)
    failureReason := none }

/-- Goes on with another working file. -/
def setWorkingFile (s : Scope) (file : Path) : Scope :=
  { s with
    workingFile := file
    vars := s.vars.insertAll (workingFileFacts file) }

/-- Sets a variable. -/
def setVariable (s : Scope) (name : String) (value : Json) : Scope :=
  { s with vars := s.vars.insert name value }

/-- Gives a reason for a failure. -/
def fail (s : Scope) (reason : String) : Scope := { s with failureReason := some reason }

end Scope

end FlowGraph
