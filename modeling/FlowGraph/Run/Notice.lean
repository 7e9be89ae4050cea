import FlowGraph.Json.Basic

/-!
# What a run tells while it is under way

Besides its result a run hands out log messages, progress and statistics, and a step
may ask for the whole run to be canceled.
-/

namespace FlowGraph

/-- A progress in percent. -/
inductive Percent where
  /-- So many of so many are done. -/
  | share (done total : Nat)
  /-- A number of single precision. -/
  | given (x : Float32)

/-- The progress as a number from 0 to 100. -/
def Percent.value (p : Percent) : Float32 :=
  let x := match p with
    | .share done total => Float32.ofNat done / Float32.ofNat total * 100
    | .given x => x
  if x < 0 then 0 else if x > 100 then 100 else x

/-- The value of a statistic. -/
inductive Measure where
  | known (value : Json)
  /-- A time that passed; it is different in every run. -/
  | elapsed

/-- Who writes a log message. -/
inductive LogTarget where
  | flow
  | script
  deriving DecidableEq, Repr

/-- The name of a log target. -/
def LogTarget.text : LogTarget → String
  | .flow => "flow"
  | .script => "script"

/-- Something a run tells while it is under way. -/
inductive Notice where
  | log (target : LogTarget) (text : String)
  | progress (percent : Percent)
  | statistic (name : String) (value : Measure)
  /-- The whole run is asked to stop. -/
  | cancel

/-- The notice cancels the run. -/
def Notice.isCancel : Notice → Bool
  | .cancel => true
  | _ => false

end FlowGraph
