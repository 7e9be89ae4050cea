import FlowGraph.Files.Matching
import FlowGraph.Step.Basic

/-!
# The step that walks a flow for every file of a folder

This module holds the settings of the step and what it does before the first walk:
finding the folder, the pattern and the files.
-/

namespace FlowGraph

namespace EachFile

/-- The settings in a configuration. -/
def ofModel (m : Model) : EachFile :=
  { path := m.setting Json.text "Path" ""
    pattern := m.setting Json.text "Pattern" ""
    recursive := m.setting Json.boolean "Recursive" false
    flow := m.setting (Json.optional Json.uuid) "Flow" none }

/-- Output when every file was processed. -/
def allProcessed : StepResult := .output 1

/-- Output when no file matched. -/
def nothingToDo : StepResult := .output 2

/-- A folder and a flow have to be configured. -/
def check (e : EachFile) (s : Scope) : Admission :=
  if Text.allBlank e.path then .bar s "DirectoryIterator: no path configured"
  else if e.flow.isNone then .bar s "DirectoryIterator: no flow configured"
  else .pass s

/-- The folder, placeholders expanded. -/
def folder (e : EachFile) (vars : Variables) : Path := ⟨vars.expand (Text.trim e.path)⟩

end EachFile

/-- Walks a flow for every file of a folder. -/
def Step.directoryIterator (m : Model) : Step := .eachFile (.ofModel m)

end FlowGraph
