import FlowGraph.Step.Basic
import FlowGraph.Text.Utf8

/-!
# The step that runs a command

A command that names a configured tool runs that tool. Output 1 is taken when the
command ends with exit code zero and output 2 when it ends in any other way.
-/

namespace FlowGraph.Step

/-- The command that a template and the variables give. -/
def commandOf (settings : Settings) (vars : Variables) (command arguments : String) : Command :=
  let name := vars.expand (Text.trim command)
  { program := ((settings.toolPaths.get? name).map Path.text).getD name
    arguments := Text.words (vars.expand arguments) }

@[simp] theorem arguments_commandOf (settings : Settings) (vars : Variables)
    (command arguments : String) :
    (commandOf settings vars command arguments).arguments = Text.words (vars.expand arguments) :=
  rfl

/-- The number that stands for how a command ended. -/
def exitNumber (e : Command.Ended) : Int :=
  match e.exitCode with
  | some n => n
  | none => -1

/-- The variables that a command leaves. -/
def commandFacts (e : Command.Ended) : List (String × Json) :=
  [("ExecuteCommand.ExitCode", .int (exitNumber e)),
   ("ExecuteCommand.Output", .str (Text.trim (Text.readBytes e.output)))]

/-- Runs a command. -/
def executeCommand (m : Model) : Step :=
  let command := m.setting Json.text "Command" ""
  let arguments := m.setting Json.text "Arguments" ""
  .acting fun moment =>
    { check := fun s =>
        if Text.allBlank command then .bar s "ExecuteCommand: no command configured"
        else .pass s
      run := fun site _ s =>
        let c := commandOf site.settings s.vars command arguments
        match site.commands moment.clock c with
        | .error e =>
          .failure s ("failed to start '" ++ c.program ++ "': " ++ e.message)
        | .ok ended =>
          { result := .output (if ended.exitCode = some 0 then 1 else 2)
            scope := { s with vars := s.vars.insertAll (commandFacts ended) }
            notices := [.statistic "ExecuteCommand.Duration" .elapsed] } }

end FlowGraph.Step
