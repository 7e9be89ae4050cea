import FlowGraph.Run.Result

/-!
# The log of a run

The log says which flow ran on which file, when, how it ended and through which steps.
It is kept as indented JSON.
-/

namespace FlowGraph

open Json (required defaulted nullable)

/-- The log of one run of a flow on a file. -/
structure RunLog where
  /-- The version of the format. -/
  version : Nat
  flow : String
  file : String
  startedAt : String
  /-- When the run ended; absent while it is under way. -/
  finishedAt : Option String
  finalState : Option RunState
  failureReason : Option String
  /-- The visible steps in order. -/
  steps : List ExecutedStep
  /-- How the failure flow ended, if one was started. -/
  failureFlowState : Option RunState
  deriving DecidableEq

namespace RunLog

/-- The version that is written. -/
def currentVersion : Nat := 1

/-- The log of a run that is under way. -/
def started (flow file startedAt : String) : RunLog :=
  { version := currentVersion, flow, file, startedAt, finishedAt := none, finalState := none,
    failureReason := none, steps := [], failureFlowState := none }

/-- The log with the outcome of the run. -/
def finish (log : RunLog) (result : RunResult) (finishedAt : String) : RunLog :=
  { log with
    finishedAt := some finishedAt
    finalState := some result.state
    failureReason := result.failureReason
    steps := result.executedSteps }

/-- Reads a log. -/
def decoder : Json.Decoder RunLog :=
  Json.record "RunLog"
    (.cons (required "version" Json.natural32) <|
     .cons (required "flow" Json.text) <|
     .cons (required "file" Json.text) <|
     .cons (required "started_at" Json.text) <|
     .cons (nullable "finished_at" Json.text) <|
     .cons (nullable "final_state" (Json.variant RunState.named)) <|
     .cons (nullable "failure_reason" Json.text) <|
     .cons (required "steps" (Json.list ExecutedStep.decoder)) <|
     .cons (defaulted "failure_flow_state" (Json.optional (Json.variant RunState.named)) none)
       .nil)
    fun (version, flow, file, startedAt, finishedAt, finalState, failureReason, steps,
        failureFlowState, _) =>
      { version, flow, file, startedAt, finishedAt, finalState, failureReason, steps,
        failureFlowState }

/-- A state or null. -/
def stateJson? : Option RunState → Json
  | some s => .str s.text
  | none => .null

/-- A log as JSON. -/
def toJson (log : RunLog) : Json :=
  .obj ([("version", .int log.version), ("flow", .str log.flow), ("file", .str log.file),
    ("started_at", .str log.startedAt), ("finished_at", .ofText? log.finishedAt),
    ("final_state", stateJson? log.finalState), ("failure_reason", .ofText? log.failureReason),
    ("steps", .arr (log.steps.map ExecutedStep.toJson))] ++
    Json.present "failure_flow_state" (fun s : RunState => .str s.text) log.failureFlowState)

end RunLog

end FlowGraph
