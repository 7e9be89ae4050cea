import FlowGraph.Flow.Stored
import FlowGraph.Run.State

/-!
# What a run reports

A run reports its state, why and where it failed, the visible steps in order and its
variables. The reason, step and flow of a failure seed the flow that handles it.
-/

namespace FlowGraph

open Json (required defaulted nullable)

/-- The record of one visible step. -/
structure ExecutedStep where
  /-- The number of the step in the whole run, from 1. -/
  step : Nat
  /-- The display name of the part. -/
  name : String
  element : String
  resultCode : Int
  /-- The time it took, in milliseconds. -/
  durationMs : Nat
  /-- How deep in sub-flows the step ran. -/
  depth : Nat
  deriving DecidableEq

/-- The display name, two blanks deeper for every level. -/
def ExecutedStep.indentedName (s : ExecutedStep) : String :=
  String.ofList (List.replicate (2 * s.depth) ' ') ++ s.name

/-- What a run of a flow reports. -/
structure RunResult where
  state : RunState
  /-- Why the run failed, if it did. -/
  failureReason : Option String
  executedSteps : List ExecutedStep
  /-- The code of the last step that ran, if one did. -/
  lastCode : Option Int
  failedStep : Option String
  failedFlow : Option String
  /-- The variables at the end. -/
  vars : Variables

/-- The variables that seed the flow that handles this failure. -/
def RunResult.failureFlowVariables (r : RunResult) : Variables :=
  Dict.ofList
    [("FailedStep", .str (r.failedStep.getD "")), ("FailedFlow", .str (r.failedFlow.getD "")),
     ("FailureReason", .str (r.failureReason.getD ""))]

/-- Reads the record of a step. -/
def ExecutedStep.decoder : Json.Decoder ExecutedStep :=
  Json.record "ExecutedStep"
    (.cons (required "step" Json.natural32) <|
     .cons (required "name" Json.text) <|
     .cons (required "element" Json.text) <|
     .cons (required "result_code" Json.int32) <|
     .cons (required "duration_ms" Json.natural64) <|
     .cons (required "depth" Json.natural32) .nil)
    fun (step, name, element, resultCode, durationMs, depth, _) =>
      { step, name, element, resultCode, durationMs, depth }

/-- The record of a step as JSON. -/
def ExecutedStep.toJson (s : ExecutedStep) : Json :=
  .obj [("step", .int s.step), ("name", .str s.name), ("element", .str s.element),
    ("result_code", .int s.resultCode), ("duration_ms", .int s.durationMs),
    ("depth", .int s.depth)]

/-- Reads what a run reported. -/
def RunResult.decoder : Json.Decoder RunResult :=
  Json.record "FlowRunResult"
    (.cons (required "state" (Json.variant RunState.named)) <|
     .cons (nullable "failure_reason" Json.text) <|
     .cons (required "executed_steps" (Json.list ExecutedStep.decoder)) <|
     .cons (nullable "last_code" Json.int32) <|
     .cons (nullable "failed_step" Json.text) <|
     .cons (nullable "failed_flow" Json.text) <|
     .cons (required "variables" (Json.dict Json.anyValue)) .nil)
    fun (state, failureReason, executedSteps, lastCode, failedStep, failedFlow, vars, _) =>
      { state, failureReason, executedSteps, lastCode, failedStep, failedFlow, vars }

/-- What a run reported, as JSON. -/
def RunResult.toJson (r : RunResult) : Json :=
  .obj [("state", .str r.state.text), ("failure_reason", .ofText? r.failureReason),
    ("executed_steps", .arr (r.executedSteps.map ExecutedStep.toJson)),
    ("last_code", .ofInt? r.lastCode), ("failed_step", .ofText? r.failedStep),
    ("failed_flow", .ofText? r.failedFlow), ("variables", .ofDict r.vars)]

end FlowGraph
