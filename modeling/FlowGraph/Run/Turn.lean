import FlowGraph.Run.Iteration
import FlowGraph.Task

/-!
# One turn of a walk

A turn counts a part, executes it and finds the way on. Flows that a part calls are
walked by a given walk, so a turn is defined before walks are.
-/

namespace FlowGraph

/-- What executing a part comes to. -/
inductive Reply where
  /-- A result, which decides the way on. -/
  | done (result : StepResult)
  /-- The walk ends. -/
  | leave (exit : Exit)
  /-- The walk goes on in a flow at a part. -/
  | goOn (flow : Flow) (part : Uuid)

/-- The way on after a turn. -/
inductive Turn where
  | leave (exit : Exit)
  | goOn (flow : Flow) (part : Uuid)

namespace Turn

variable (site : Site) (registry : Registry) (nested : Walk)

/-! ## Executing a part -/

/-- The variables that a called flow starts with. -/
def callVariables (vars : Variables) (flow : Flow) (properties : Variables) : Variables :=
  (vars.overlay flow.vars).overlay properties

/-- What the variables were that a call puts its own over, in the order it does so. -/
def savedVariables (vars : Variables) (flow : Flow) (properties : Variables) :
    List (String × Option Json) :=
  (flow.vars.keys ++ properties.keys).map fun key => (key, vars.get? key)

/-- Puts saved variables back, the last one first. -/
def restoreVariables (saved : List (String × Option Json)) (vars : Variables) : Variables :=
  saved.reverse.foldl (fun vars s => vars.putBack s.1 s.2) vars

/-- The context in which a called flow starts, one level deeper. -/
def callContext (c : Context) (flow : Flow) (properties : Variables) : Context :=
  { c with vars := callVariables c.vars flow properties, depth := c.depth + 1 }

/-- The context after a call, from those before it and at its end. -/
def returnContext (before after : Context) (flow : Flow) (properties : Variables) : Context :=
  { after with
    vars := restoreVariables (savedVariables before.vars flow properties) after.vars
    depth := after.depth - 1 }

/-- Where the walk of a called flow starts. -/
def callStart (flow : Flow) (properties : Variables) (st : Standing) : Standing :=
  ⟨callContext st.context flow properties, st.ledger⟩

/-- Where the run stands after a call, from where it stood before it and at its end. -/
def callEnd (flow : Flow) (properties : Variables) (before after : Standing) : Standing :=
  ⟨returnContext before.context after.context flow properties, after.ledger⟩

/-- Calls a flow. -/
def callFlow (flow : Flow) (properties : Variables) (st : Standing) : StepResult × Standing :=
  let walked := nested.go flow (callStart flow properties st)
  (walked.1.asStepResult, callEnd flow properties st walked.2)

@[simp] theorem callStart_ledger (flow : Flow) (properties : Variables) (st : Standing) :
    (callStart flow properties st).ledger = st.ledger :=
  rfl

@[simp] theorem callEnd_ledger (flow : Flow) (properties : Variables) (before after : Standing) :
    (callEnd flow properties before after).ledger = after.ledger :=
  rfl

theorem onward_callFlow (flow : Flow) (properties : Variables) (st : Standing) :
    st.Onward (callFlow nested flow properties st).2 := by
  have hwalk := nested.onward flow (callStart flow properties st)
  refine ⟨hwalk.ledger, ?_⟩
  show _ - 1 = _
  rw [hwalk.depth]
  rfl

/-- The decision of a step's check at a moment. -/
def admission (step : Step) (s : Scope) (moment : Moment := .first) : Admission :=
  match step with
  | .acting actions => (actions moment).check s
  | .eachFile e => e.check s

/-- Where the run stands when a step was checked. -/
def checked (step : Step) (st : Standing) : Standing :=
  let a := admission step st.context.toScope st.moment
  st.absorb a.scope a.notices

@[simp] theorem checked_ledger (step : Step) (st : Standing) :
    (checked step st).ledger =
      st.ledger.tell (admission step st.context.toScope st.moment).notices :=
  rfl

/-- Does what a plain step does. -/
def act (actions : Moment → Action) (st : Standing) : StepResult × Standing :=
  let out := (actions st.moment).run site st.ledger.canceled st.context.toScope
  (out.result, st.absorb out.scope out.notices)

/-- Runs a step that was admitted. -/
def perform (step : Step) (st : Standing) : StepResult × Standing :=
  match step with
  | .acting actions => act site actions st
  | .eachFile e => Iteration.run site registry nested e st

theorem onward_perform (step : Step) (st : Standing) :
    st.Onward (perform site registry nested step st).2 := by
  cases step with
  | acting actions => exact .absorb _ _ _
  | eachFile e =>
    simp only [perform]
    exact Iteration.onward_run _ _ _ _ _

/-- The end of a walk at a part that the check of its step bars. -/
def bar (flow : Flow) (part : Part) (st : Standing) : Standing :=
  let name := part.displayName
  (st.enter (.barred flow part)).failAt flow name
    ("pre-execute check failed for step '" ++ name ++ "'")

@[simp] theorem bar_ledger (flow : Flow) (part : Part) (st : Standing) :
    (bar flow part st).ledger = st.ledger.enter (.barred flow part) :=
  rfl

/-- Checks a step and runs it, unless the check bars it. -/
def checkAndPerform (flow : Flow) (part : Part) (step : Step) (st : Standing) :
    Reply × Standing :=
  if (admission step st.context.toScope st.moment).admitted then
    let performed := perform site registry nested step (checked step st)
    (.done performed.1, performed.2)
  else (.leave .failed, bar flow part (checked step st))

theorem onward_checkAndPerform (flow : Flow) (part : Part) (step : Step) (st : Standing) :
    st.Onward (checkAndPerform site registry nested flow part step st).2 := by
  have hchecked : st.Onward (checked step st) := .absorb _ _ _
  simp only [checkAndPerform]
  split
  · exact hchecked.trans (onward_perform site registry nested step _)
  · exact hchecked.trans ((Standing.Onward.enter _ _).trans (.failAt _ _ _ _))

/-- Goes on at the entry of another flow, with its variables. -/
def switchTo (flow : Flow) (part : Part) (target : Flow) (st : Standing) : Reply × Standing :=
  match target.entryPart with
  | .error e => (.leave .failed, st.failAt flow part.displayName e.message)
  | .ok entry =>
    (.goOn target entry.uid, st.inContext fun c =>
      c.withVariables (c.vars.overlay target.vars))

theorem onward_switchTo (flow : Flow) (part : Part) (target : Flow) (st : Standing) :
    st.Onward (switchTo flow part target st).2 := by
  simp only [switchTo]
  split
  · exact .failAt _ _ _ _
  · exact ⟨.refl _, rfl⟩

/-- Notes the result of a part. -/
def note (flow : Flow) (part : Part) (result : StepResult) (st : Standing) : Standing :=
  (st.inContext fun c => { c with lastCode := some result.code }).enter
    (.finished flow part result st.context.depth)

@[simp] theorem note_ledger (flow : Flow) (part : Part) (result : StepResult) (st : Standing) :
    (note flow part result st).ledger =
      st.ledger.enter (.finished flow part result st.context.depth) :=
  rfl

theorem onward_note (flow : Flow) (part : Part) (result : StepResult) (st : Standing) :
    st.Onward (note flow part result st) :=
  ⟨.enter _ _, rfl⟩

/-- Does what a part asks for. -/
def attempt (flow : Flow) (part : Part) (st : Standing) : Reply × Standing :=
  match Task.ofPart registry st.context.vars part with
  | .error e => (.done .failure, st.inContext fun c => c.withReason e.message)
  | .ok (.subFlowOutput result) => (.leave (.returned result), note flow part result st)
  | .ok (.gotoFlow target) => switchTo flow part target st
  | .ok .subFlowInput => (.done .success, st)
  | .ok (.subFlow target properties) =>
    let called := callFlow nested target properties st
    (.done called.1, called.2)
  | .ok (.script step) =>
    checkAndPerform site registry nested flow part (.acting (step.action ·)) st
  | .ok (.native step) => checkAndPerform site registry nested flow part step st

theorem onward_attempt (flow : Flow) (part : Part) (st : Standing) :
    st.Onward (attempt site registry nested flow part st).2 := by
  simp only [attempt]
  split
  · exact ⟨.refl _, rfl⟩
  · exact onward_note _ _ _ _
  · exact onward_switchTo _ _ _ _
  · exact .refl _
  · exact onward_callFlow _ _ _ _
  · exact onward_checkAndPerform _ _ _ _ _ _ _
  · exact onward_checkAndPerform _ _ _ _ _ _ _

/-! ## Finding the way on -/

/-- The connection that a result follows. -/
def connection? (part : Part) : StepResult → Option Connection
  | .output n => part.connectionFor? n
  | .failure => part.errorConnection
  | _ => none

/-- The part that a result leads to, if there is one. -/
def next? (flow : Flow) (part : Part) (result : StepResult) : Option Uuid :=
  ((connection? part result).map Connection.target).filter fun uid => (flow.part? uid).isSome

/-- How a walk ends at a part whose result leads nowhere. -/
def endOf : StepResult → Exit
  | .output _ | .completed => .completed
  | .failure => .failed
  | .canceled => .canceled
  | .terminalExit => .terminalExit

/-- The reason for ending at a part, if that is a failure. -/
def endReason? (name : String) : StepResult → Option String
  | .failure => some ("step '" ++ name ++ "' failed")
  | .terminalExit => some ("step '" ++ name ++ "' signalled the run cannot continue")
  | _ => none

/-- Follows the result of a part. -/
def route (flow : Flow) (part : Part) (result : StepResult) (st : Standing) : Turn × Standing :=
  match next? flow part result with
  | some uid => (.goOn flow uid, st)
  | none =>
    (.leave (endOf result),
      match endReason? part.displayName result with
      | some reason => st.failAt flow part.displayName reason
      | none => st)

@[simp] theorem route_ledger (flow : Flow) (part : Part) (result : StepResult) (st : Standing) :
    (route flow part result st).2.ledger = st.ledger := by
  simp only [route]
  split
  · rfl
  · split <;> rfl

theorem onward_route (flow : Flow) (part : Part) (result : StepResult) (st : Standing) :
    st.Onward (route flow part result st).2 := by
  simp only [route]
  split
  · exact .refl _
  · split
    · exact .failAt _ _ _ _
    · exact .refl _

/-- Follows what executing a part came to. -/
def follow (flow : Flow) (part : Part) : Reply × Standing → Turn × Standing
  | (.done result, st) => route flow part result (note flow part result st)
  | (.leave exit, st) => (.leave exit, st)
  | (.goOn flow uid, st) => (.goOn flow uid, st)

theorem follow_done_ledger (flow : Flow) (part : Part) (result : StepResult) (st : Standing) :
    (follow flow part (.done result, st)).2.ledger =
      st.ledger.enter (.finished flow part result st.context.depth) :=
  route_ledger flow part result (note flow part result st)

theorem onward_follow (flow : Flow) (part : Part) (r : Reply × Standing) :
    r.2.Onward (follow flow part r).2 := by
  obtain ⟨reply, st⟩ := r
  cases reply with
  | done result => exact (onward_note flow part result st).trans (onward_route flow part result _)
  | leave exit => exact .refl _
  | goOn flow uid => exact .refl _

/-! ## The turn -/

/-- The wording for a walk that hits the ceiling. -/
def ceilingMessage (ceiling : Nat) (flow : Flow) : String :=
  "too many steps executed (" ++ toString ceiling ++ "), flow '" ++ flow.name ++
    "' may contain a loop"

/-- The end of a walk at a part that was counted over the ceiling. -/
def refuse (flow : Flow) (part : Part) (st : Standing) : Standing :=
  (st.enter (.refused flow part)).inContext fun c =>
    (c.withReason (ceilingMessage st.ledger.ceiling flow)).markFailedAt
      ⟨part.displayName, flow.name⟩

@[simp] theorem refuse_ledger (flow : Flow) (part : Part) (st : Standing) :
    (refuse flow part st).ledger = st.ledger.enter (.refused flow part) :=
  rfl

/-- A part of a flow starts; a flow that handles failures keeps the last one in mind. -/
def start (flow : Flow) (part : Part) (st : Standing) : Standing :=
  let st := if flow.kind = .failure then st else st.inContext Context.clearFailure
  st.enter (.started flow part st.context)

@[simp] theorem start_ledger (flow : Flow) (part : Part) (st : Standing) :
    (start flow part st).ledger =
      st.ledger.enter (.started flow part (start flow part st).context) := by
  simp only [start]
  split <;> rfl

/-- Executes a part that was counted within the ceiling. -/
def execute (flow : Flow) (part : Part) (st : Standing) : Turn × Standing :=
  follow flow part (attempt site registry nested flow part (start flow part st))

/-- One turn of a walk at a part of a flow. -/
def take (flow : Flow) (uid : Uuid) (st : Standing) : Turn × Standing :=
  if st.ledger.canceled then (.leave .canceled, st)
  else
    match flow.part? uid with
    | none => (.leave .failed, st.failAt flow "unknown" ("part " ++ uid.text ++ " not found"))
    | some part =>
      if st.count.ledger.isExceeded then (.leave .terminalExit, refuse flow part st.count)
      else execute site registry nested flow part st.count

theorem onward_start (flow : Flow) (part : Part) (st : Standing) :
    st.Onward (start flow part st) := by
  simp only [start]
  split <;> exact ⟨.enter _ _, rfl⟩

theorem onward_execute (flow : Flow) (part : Part) (st : Standing) :
    st.Onward (execute site registry nested flow part st).2 := by
  simp only [execute]
  exact ((onward_start flow part st).trans (onward_attempt site registry nested flow part _)).trans
    (onward_follow flow part _)

theorem onward_take (flow : Flow) (uid : Uuid) (st : Standing) :
    st.Onward (take site registry nested flow uid st).2 := by
  simp only [take]
  split
  · exact .refl _
  · split
    · exact .failAt _ _ _ _
    · split
      · exact ⟨(Ledger.Onward.count st.ledger).trans (.enter _ _), rfl⟩
      · exact (Standing.Onward.count st).trans (onward_execute site registry nested flow _ _)

/-- A turn that leads on has counted a part within the ceiling. -/
theorem room_take {flow : Flow} {uid : Uuid} {st st' : Standing} {f : Flow} {u : Uuid}
    (h : take site registry nested flow uid st = (.goOn f u, st')) :
    st'.ledger.ceiling - st'.ledger.executed < st.ledger.ceiling - st.ledger.executed := by
  simp only [take] at h
  split at h
  · simp at h
  · split at h
    · simp at h
    · split at h
      · simp at h
      · rename_i part _ hroom
        have hon := onward_execute site registry nested flow part st.count
        rw [h] at hon
        have hceil : st'.ledger.ceiling = st.ledger.ceiling := hon.ledger.ceiling
        have hexec : st.ledger.executed + 1 ≤ st'.ledger.executed := hon.ledger.executed
        have hle : st.ledger.executed + 1 ≤ st.ledger.ceiling :=
          Ledger.isExceeded_eq_false.1 (Bool.eq_false_iff.2 hroom)
        omega

end Turn

end FlowGraph
