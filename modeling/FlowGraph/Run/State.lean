import FlowGraph.StepResult

/-!
# How runs end

A walk of one flow ends in an `Exit`; the part that called it sees a step result and
the caller of the whole run sees a `RunState`.
-/

namespace FlowGraph

/-- The final state of a run. -/
inductive RunState where
  | completed
  | failed
  | canceled
  /-- The run was given up and must not be retried as it is. -/
  | terminalExit
  deriving DecidableEq, Repr

/-- The name of a state. -/
def RunState.text : RunState → String
  | .completed => "completed"
  | .failed => "failed"
  | .canceled => "canceled"
  | .terminalExit => "terminal_exit"

/-- The state is an error that somebody should hear of. -/
def RunState.isFailure : RunState → Bool
  | .failed | .terminalExit => true
  | _ => false

/-- The states by name. -/
def RunState.named : List (String × RunState) :=
  [("completed", .completed), ("failed", .failed), ("canceled", .canceled),
   ("terminal_exit", .terminalExit)]

/-- How the walk of a flow ended. -/
inductive Exit where
  /-- No connection led on. -/
  | completed
  /-- An exit marker reported a result. -/
  | returned (result : StepResult)
  | failed
  | canceled
  | terminalExit
  deriving DecidableEq, Repr

namespace Exit

/-- What the calling part sees. -/
def asStepResult : Exit → StepResult
  | .completed => .success
  | .returned r => r
  | .failed => .failure
  | .canceled => .canceled
  | .terminalExit => .terminalExit

/-- What the caller of the whole run sees. -/
def runState : Exit → RunState
  | .completed | .returned (.output _) | .returned .completed => .completed
  | .failed | .returned .failure => .failed
  | .canceled | .returned .canceled => .canceled
  | .terminalExit | .returned .terminalExit => .terminalExit

/-- The name of a result inside a message. -/
def resultName : StepResult → String
  | .output n => "Output(" ++ toString n ++ ")"
  | .completed => "Completed"
  | .failure => "Failure"
  | .canceled => "Canceled"
  | .terminalExit => "TerminalExit"

/-- The name of an exit inside a message. -/
def name : Exit → String
  | .completed => "Completed"
  | .returned r => "Returned(" ++ resultName r ++ ")"
  | .failed => "Failed"
  | .canceled => "Canceled"
  | .terminalExit => "TerminalExit"

end Exit

end FlowGraph
