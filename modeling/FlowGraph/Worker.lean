import FlowGraph.Run.LogFile
import FlowGraph.Run.Walk

/-!
# Running a flow on a file

A worker runs a flow on a file, runs the failure flow if that fails, and writes the log
of the run. What the failure flow does changes nothing in the result of the main run.
-/

namespace FlowGraph

/-- How a flow is run on a file. -/
structure RunOptions where
  /-- Where the log is written, if it is written. -/
  runDir : Option Path
  /-- A failed run is followed by the failure flow. -/
  failureFlow : Bool
  /-- The run is canceled before it starts. -/
  canceled : Bool
  /-- The variables before those of the flow. -/
  vars : Variables

/-- When a run began and ended. -/
structure RunTimes where
  startedAt : String
  finishedAt : String

/-- Why a run gave no result. -/
inductive WorkerError where
  | flowNotFound (flow : Uuid)
  | unwrittenLog (e : OsError)

/-- The wording for a run that gave no result. -/
def WorkerError.message : WorkerError → String
  | .flowNotFound flow => "flow " ++ flow.text ++ " not found"
  | .unwrittenLog e => "cannot write run log: " ++ e.message

/-- A finished run of the main flow or of the failure flow. -/
structure FinishedRun where
  result : RunResult
  /-- Where the run stood in the end. -/
  final : Standing

/-- What running a flow on a file leaves. -/
structure WorkerReport where
  main : FinishedRun
  /-- The run of the failure flow, if there was one. -/
  failure : Option FinishedRun
  log : RunLog
  /-- The files afterwards. -/
  files : FileTree

namespace Worker

/-- A run as what it leaves. -/
def finish (r : RunResult × Standing) : FinishedRun := ⟨r.1, r.2⟩

/-- Runs the main flow. -/
def runMain (site : Site) (registry : Registry) (flow : Flow) (file : Path)
    (options : RunOptions) : FinishedRun :=
  finish (runFlow site registry flow (.fresh file options.vars options.canceled))

/-- Where the run of the failure flow starts: on the same file when the main run is over,
with the facts of the failure for variables. -/
def failureStart (file : Path) (main : FinishedRun) : Standing :=
  let st := Standing.fresh file main.result.failureFlowVariables main.final.ledger.canceled
    main.final.ledger.clock
  st.inContext fun c => { c with failureReason := main.result.failureReason }

/-- Runs the failure flow, if the main run failed and there is one. -/
def runFailure (site : Site) (registry : Registry) (file : Path) (options : RunOptions)
    (main : FinishedRun) : Option FinishedRun :=
  if options.failureFlow && main.result.state.isFailure then
    registry.failureFlow?.map fun flow =>
      finish (runFlow site registry flow (failureStart file main))
  else none

/-- The files when all runs are over. -/
def filesAfter (site : Site) (main : FinishedRun) (failure : Option FinishedRun) : FileTree :=
  site.filesAt (failure.getD main).final.ledger.clock

/-- The log of a run. -/
def logOf (flow : Flow) (file : Path) (times : RunTimes) (main : FinishedRun)
    (failure : Option FinishedRun) : RunLog :=
  { (RunLog.started flow.name file.text times.startedAt).finish main.result times.finishedAt with
    failureFlowState := failure.map fun r => r.result.state }

/-- Runs a flow on a file. -/
def runFile (site : Site) (registry : Registry) (uid : Uuid) (file : Path)
    (options : RunOptions) (times : RunTimes) : Except WorkerError WorkerReport :=
  match registry.flow? uid with
  | none => .error (.flowNotFound uid)
  | some flow =>
    let main := runMain site registry flow file options
    let failure := runFailure site registry file options main
    let log := logOf flow file times main failure
    let files := filesAfter site main failure
    match options.runDir with
    | none => .ok ⟨main, failure, log, files⟩
    | some dir =>
      match log.writeTo dir files with
      | .ok (files, _) => .ok ⟨main, failure, log, files⟩
      | .error e => .error (.unwrittenLog e)

end Worker

end FlowGraph
