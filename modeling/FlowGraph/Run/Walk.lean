import FlowGraph.Run.Turn

/-!
# Walks

A walk takes turns from the entry of a flow until one of them leads nowhere. Every turn
that leads on counts a part within the ceiling, and every walk inside another one is a
level deeper, so all walks end.
-/

namespace FlowGraph

/-- The deepest level at which a flow is walked. -/
def maxFlowDepth : Nat := 32

namespace Walk

variable (site : Site) (registry : Registry)

/-- Takes turns from a part of a flow. -/
def turns (nested : Walk) (flow : Flow) (uid : Uuid) (st : Standing) : Exit × Standing :=
  match _h : Turn.take site registry nested flow uid st with
  | (.leave exit, st') => (exit, st')
  | (.goOn flow' uid', st') => turns nested flow' uid' st'
termination_by st.ledger.ceiling - st.ledger.executed
decreasing_by exact Turn.room_take site registry nested _h

theorem onward_turns (nested : Walk) (flow : Flow) (uid : Uuid) (st : Standing) :
    st.Onward (turns site registry nested flow uid st).2 := by
  fun_induction turns site registry nested flow uid st with
  | case1 flow uid st exit st' h =>
    have hon := Turn.onward_take site registry nested flow uid st
    rwa [h] at hon
  | case2 flow uid st flow' uid' st' h ih =>
    have hon := Turn.onward_take site registry nested flow uid st
    rw [h] at hon
    exact hon.trans ih

/-- Walks a flow from its entry; the flows it calls are walked by `nested`. -/
def fromEntry (nested : Walk) (flow : Flow) (st : Standing) : Exit × Standing :=
  match flow.entryPart with
  | .error e => (.failed, st.failAt flow "entry" e.message)
  | .ok entry => turns site registry nested flow entry.uid st

theorem onward_fromEntry (nested : Walk) (flow : Flow) (st : Standing) :
    st.Onward (fromEntry site registry nested flow st).2 := by
  simp only [fromEntry]
  split
  · exact .failAt _ _ _ _
  · exact onward_turns site registry nested _ _ _

/-- The wording for a walk that is nested too deeply. -/
def tooDeepMessage (depth : Nat) (flow : Flow) : String :=
  "too many nested sub-flows (" ++ toString depth ++ ") calling '" ++ flow.name ++ "'"

/-- The end of a walk that is nested too deeply. -/
def tooDeep : Walk where
  go flow st :=
    (.terminalExit, (st.enter (.tooDeep flow)).failAt flow "entry"
      (tooDeepMessage st.context.depth flow))
  onward _ _ := ⟨.enter _ _, rfl⟩

/-- The walk that has room for so many levels. -/
def withLevels : Nat → Walk
  | 0 => tooDeep
  | levels + 1 =>
    { go := fromEntry site registry (withLevels levels)
      onward := onward_fromEntry site registry (withLevels levels) }

/-- The walk at a depth. -/
def atDepth (depth : Nat) : Walk := withLevels site registry (maxFlowDepth + 1 - depth)

end Walk

/-- Walks a flow from where a run stands. -/
def walkFlow (site : Site) (registry : Registry) (flow : Flow) (st : Standing) :
    Exit × Standing :=
  (Walk.atDepth site registry st.context.depth).go flow st

/-- Executes a step from where a run stands. -/
def performStep (site : Site) (registry : Registry) (step : Step) (st : Standing) :
    StepResult × Standing :=
  Turn.perform site registry (Walk.atDepth site registry (st.context.depth + 1)) step st

/-! ## Whole runs -/

/-- The reason that a run gives for its state. -/
def runReason (flow : Flow) (c : Context) : RunState → Option String
  | .failed => some (c.failureReason.getD ("flow '" ++ flow.name ++ "' failed"))
  | .terminalExit => some (c.failureReason.getD "run cannot continue")
  | .completed | .canceled => none

/-- Where a run begins: the ceiling is that of the flow, and the variables of the flow
fill in for absent ones. -/
def prepareRun (site : Site) (flow : Flow) (st : Standing) : Standing :=
  { context := st.context.withVariables (flow.vars.overlay st.context.vars)
    ledger := { st.ledger with ceiling := site.settings.stepCeiling flow.maxNodes } }

/-- What a run reports when its walk has ended. -/
def reportRun (flow : Flow) (exit : Exit) (st : Standing) : RunResult × Standing :=
  let state := exit.runState
  let at_ := if state.isFailure then st.context.failedAt else none
  ({ state
     failureReason := runReason flow st.context state
     executedSteps := st.ledger.executedSteps
     lastCode := st.context.lastCode
     failedStep := at_.map Location.step
     failedFlow := at_.map Location.flow
     vars := st.context.vars },
   if state.isFailure then st.inContext fun c => { c with failedAt := none } else st)

@[simp] theorem reportRun_state (flow : Flow) (exit : Exit) (st : Standing) :
    (reportRun flow exit st).1.state = exit.runState :=
  rfl

@[simp] theorem reportRun_failureReason (flow : Flow) (exit : Exit) (st : Standing) :
    (reportRun flow exit st).1.failureReason = runReason flow st.context exit.runState :=
  rfl

@[simp] theorem reportRun_ledger (flow : Flow) (exit : Exit) (st : Standing) :
    (reportRun flow exit st).2.ledger = st.ledger := by
  simp only [reportRun]
  split <;> rfl

/-- Runs a flow from where a run stands. -/
def runFlow (site : Site) (registry : Registry) (flow : Flow) (st : Standing) :
    RunResult × Standing :=
  let walked := walkFlow site registry flow (prepareRun site flow st)
  reportRun flow walked.1 walked.2

end FlowGraph
