import FlowGraph.Run.Walk

/-!
# The rules of runs

What a run does, told as rules without levels and without a measure: a nested walk is
judged by the depth of its own context, and a walk goes on for as long as its turns lead
on. A derivation is a finite run. `ComesTo.value` says that the rules allow nothing but
what the functions compute; properties of runs are proved by induction on derivations.
-/

namespace FlowGraph

/-- Something that a run has to do. -/
inductive Work where
  /-- Walk a flow from its entry. -/
  | walk (flow : Flow)
  /-- Go on with a walk at a part. -/
  | goOn (flow : Flow) (uid : Uuid)
  /-- Do what a part asks for that has started. -/
  | attempt (flow : Flow) (part : Part)
  /-- Walk a flow for the files that an iteration has left. -/
  | visit (flow : Flow) (total done : Nat) (files : List Path)

/-- The step of a task, if it executes one. -/
def Task.step? : Task → Option Step
  | .native step => some step
  | .script step => some (.acting (step.action ·))
  | _ => none

/-- The step that a part executes, if it asks for one. -/
def Part.step? (registry : Registry) (vars : Variables) (p : Part) : Option Step :=
  (Task.ofPart registry vars p).toOption.bind Task.step?

section
variable {registry : Registry} {part : Part}

/-- A part asks for what it designates. -/
theorem Task.ofPart_of_stepRef {ref : StepRef} (designates : part.stepRef = .ok ref)
    (vars : Variables) :
    Task.ofPart registry vars part =
      Task.ofRef registry (part.effectiveModel vars) vars ref := by
  rw [Task.ofPart, designates]

/-- A part executes the step of what it asks for. -/
theorem Part.step?_of_task {vars : Variables} {task : Task}
    (asks : Task.ofPart registry vars part = .ok task) : part.step? registry vars = task.step? := by
  rw [Part.step?, asks]
  rfl

end

section
variable (site : Site) (registry : Registry)

/-- What a piece of work comes to from where a run stands. -/
inductive ComesTo : Work → Standing → Reply → Standing → Prop where
  | tooDeep {flow : Flow} {st : Standing} (deep : maxFlowDepth < st.context.depth) :
      ComesTo (.walk flow) st (.leave .terminalExit) (Walk.tooDeep.go flow st).2
  | noEntry {flow : Flow} {st : Standing} {e : Problem}
      (shallow : st.context.depth ≤ maxFlowDepth) (none : flow.entryPart = .error e) :
      ComesTo (.walk flow) st (.leave .failed) (st.failAt flow "entry" e.message)
  | enter {flow : Flow} {st st' : Standing} {entry : Part} {exit : Exit}
      (shallow : st.context.depth ≤ maxFlowDepth) (found : flow.entryPart = .ok entry)
      (rest : ComesTo (.goOn flow entry.uid) st (.leave exit) st') :
      ComesTo (.walk flow) st (.leave exit) st'
  | canceled {flow : Flow} {uid : Uuid} {st : Standing} (stopped : st.ledger.canceled = true) :
      ComesTo (.goOn flow uid) st (.leave .canceled) st
  | missing {flow : Flow} {uid : Uuid} {st : Standing} (live : st.ledger.canceled = false)
      (none : flow.part? uid = none) :
      ComesTo (.goOn flow uid) st (.leave .failed)
        (st.failAt flow "unknown" ("part " ++ uid.text ++ " not found"))
  | refused {flow : Flow} {uid : Uuid} {part : Part} {st : Standing}
      (live : st.ledger.canceled = false) (found : flow.part? uid = some part)
      (full : st.ledger.ceiling ≤ st.ledger.executed) :
      ComesTo (.goOn flow uid) st (.leave .terminalExit) (Turn.refuse flow part st.count)
  | last {flow : Flow} {uid : Uuid} {part : Part} {st st₁ st₂ : Standing} {reply : Reply}
      {exit : Exit} (live : st.ledger.canceled = false) (found : flow.part? uid = some part)
      (room : st.ledger.executed < st.ledger.ceiling)
      (work : ComesTo (.attempt flow part) (Turn.start flow part st.count) reply st₁)
      (leads : Turn.follow flow part (reply, st₁) = (.leave exit, st₂)) :
      ComesTo (.goOn flow uid) st (.leave exit) st₂
  | next {flow flow' : Flow} {uid uid' : Uuid} {part : Part} {st st₁ st₂ st₃ : Standing}
      {reply : Reply} {exit : Exit} (live : st.ledger.canceled = false)
      (found : flow.part? uid = some part) (room : st.ledger.executed < st.ledger.ceiling)
      (work : ComesTo (.attempt flow part) (Turn.start flow part st.count) reply st₁)
      (leads : Turn.follow flow part (reply, st₁) = (.goOn flow' uid', st₂))
      (rest : ComesTo (.goOn flow' uid') st₂ (.leave exit) st₃) :
      ComesTo (.goOn flow uid) st (.leave exit) st₃
  | unresolved {flow : Flow} {part : Part} {st : Standing} {e : Unresolved}
      (task : Task.ofPart registry st.context.vars part = .error e) :
      ComesTo (.attempt flow part) st (.done .failure)
        (st.inContext fun c => c.withReason e.message)
  | marker {flow : Flow} {part : Part} {st : Standing} {result : StepResult}
      (task : Task.ofPart registry st.context.vars part = .ok (.subFlowOutput result)) :
      ComesTo (.attempt flow part) st (.leave (.returned result))
        (Turn.note flow part result st)
  | lost {flow target : Flow} {part : Part} {st : Standing} {e : Problem}
      (task : Task.ofPart registry st.context.vars part = .ok (.gotoFlow target))
      (none : target.entryPart = .error e) :
      ComesTo (.attempt flow part) st (.leave .failed)
        (st.failAt flow part.displayName e.message)
  | switch {flow target : Flow} {part entry : Part} {st : Standing}
      (task : Task.ofPart registry st.context.vars part = .ok (.gotoFlow target))
      (found : target.entryPart = .ok entry) :
      ComesTo (.attempt flow part) st (.goOn target entry.uid)
        (st.inContext fun c => c.withVariables (c.vars.overlay target.vars))
  | input {flow : Flow} {part : Part} {st : Standing}
      (task : Task.ofPart registry st.context.vars part = .ok .subFlowInput) :
      ComesTo (.attempt flow part) st (.done .success) st
  | call {flow target : Flow} {part : Part} {st st' : Standing} {properties : Variables}
      {exit : Exit}
      (task : Task.ofPart registry st.context.vars part = .ok (.subFlow target properties))
      (walk : ComesTo (.walk target) (Turn.callStart target properties st) (.leave exit) st') :
      ComesTo (.attempt flow part) st (.done exit.asStepResult)
        (Turn.callEnd target properties st st')
  | barred {flow : Flow} {part : Part} {st : Standing} {step : Step}
      (executes : part.step? registry st.context.vars = some step)
      (bars : (Turn.admission step st.context.toScope st.moment).admitted = false) :
      ComesTo (.attempt flow part) st (.leave .failed)
        (Turn.bar flow part (Turn.checked step st))
  | plain {flow : Flow} {part : Part} {st : Standing} {actions : Moment → Action}
      (executes : part.step? registry st.context.vars = some (.acting actions))
      (admits : ((actions st.moment).check st.context.toScope).admitted = true) :
      ComesTo (.attempt flow part) st
        (.done (Turn.act site actions (Turn.checked (.acting actions) st)).1)
        (Turn.act site actions (Turn.checked (.acting actions) st)).2
  | unplanned {flow : Flow} {part : Part} {st : Standing} {e : EachFile}
      {reason : String} (executes : part.step? registry st.context.vars = some (.eachFile e))
      (admits : (e.check st.context.toScope).admitted = true)
      (plan : Iteration.plan site registry e (Turn.checked (.eachFile e) st) =
        .error reason) :
      ComesTo (.attempt flow part) st (.done .failure)
        ((Turn.checked (.eachFile e) st).inContext fun c => c.withReason reason)
  | nothing {flow target : Flow} {part : Part} {st : Standing} {e : EachFile}
      (executes : part.step? registry st.context.vars = some (.eachFile e))
      (admits : (e.check st.context.toScope).admitted = true)
      (plan : Iteration.plan site registry e (Turn.checked (.eachFile e) st) =
        .ok (target, [])) :
      ComesTo (.attempt flow part) st (.done EachFile.nothingToDo) (Turn.checked (.eachFile e) st)
  | iterate {flow target : Flow} {part : Part} {st st' : Standing} {e : EachFile}
      {file : Path} {files : List Path} {result : StepResult}
      (executes : part.step? registry st.context.vars = some (.eachFile e))
      (admits : (e.check st.context.toScope).admitted = true)
      (plan : Iteration.plan site registry e (Turn.checked (.eachFile e) st) =
        .ok (target, file :: files))
      (visits : ComesTo (.visit target (files.length + 1) 0 (file :: files))
        (Turn.checked (.eachFile e) st) (.done result) st') :
      ComesTo (.attempt flow part) st (.done result) st'
  | visitedAll {flow : Flow} {total done : Nat} {st : Standing} :
      ComesTo (.visit flow total done []) st (.done EachFile.allProcessed) st
  | visitCanceled {flow : Flow} {total done : Nat} {file : Path} {files : List Path}
      {st : Standing} (stopped : st.ledger.canceled = true) :
      ComesTo (.visit flow total done (file :: files)) st (.done .canceled) st
  | visitNext {flow : Flow} {total done : Nat} {file : Path} {files : List Path}
      {st st₁ st₂ : Standing} {exit : Exit} {result : StepResult}
      (live : st.ledger.canceled = false)
      (walk : ComesTo (.walk flow) (Iteration.fileStart flow file st) (.leave exit) st₁)
      (graded : Iteration.grade exit = .acceptable)
      (rest : ComesTo (.visit flow total (done + 1) files)
        ((st.withLedger st₁.ledger).tell [.progress (.share (done + 1) total)])
        (.done result) st₂) :
      ComesTo (.visit flow total done (file :: files)) st (.done result) st₂
  | fileCanceled {flow : Flow} {total done : Nat} {file : Path} {files : List Path}
      {st st' : Standing} {exit : Exit} (live : st.ledger.canceled = false)
      (walk : ComesTo (.walk flow) (Iteration.fileStart flow file st) (.leave exit) st')
      (graded : Iteration.grade exit = .canceled) :
      ComesTo (.visit flow total done (file :: files)) st (.done .canceled)
        (st.withLedger st'.ledger)
  | fileTerminal {flow : Flow} {total done : Nat} {file : Path} {files : List Path}
      {st st' : Standing} {exit : Exit} (live : st.ledger.canceled = false)
      (walk : ComesTo (.walk flow) (Iteration.fileStart flow file st) (.leave exit) st')
      (graded : Iteration.grade exit = .terminal) :
      ComesTo (.visit flow total done (file :: files)) st (.done .terminalExit)
        (Iteration.adopt st'.context (st.withLedger st'.ledger))
  | fileFailed {flow : Flow} {total done : Nat} {file : Path} {files : List Path}
      {st st' : Standing} {exit : Exit} (live : st.ledger.canceled = false)
      (walk : ComesTo (.walk flow) (Iteration.fileStart flow file st) (.leave exit) st')
      (graded : Iteration.grade exit = .failed) :
      ComesTo (.visit flow total done (file :: files)) st (.done .failure)
        (Iteration.adoptFailed file exit st'.context (st.withLedger st'.ledger))

/-- The walk that is nested in what a run does from a standing. -/
def nestedWalk (st : Standing) : Walk := Walk.atDepth site registry (st.context.depth + 1)

/-- What a piece of work comes to by the functions that do it. -/
def Work.value (st : Standing) : Work → Reply × Standing
  | .walk flow =>
    let walked := walkFlow site registry flow st
    (.leave walked.1, walked.2)
  | .goOn flow uid =>
    let walked := Walk.turns site registry (nestedWalk site registry st) flow uid st
    (.leave walked.1, walked.2)
  | .attempt flow part =>
    Turn.attempt site registry (nestedWalk site registry st) flow part st
  | .visit flow total done files =>
    let visited := Iteration.visit (nestedWalk site registry st) flow total done files st
    (.done visited.1, visited.2)

variable {site registry}

/-- A walk at a depth where flows are walked begins at the entry; the walks nested in it
are those of the next depth. -/
theorem walkFlow_of_le {flow : Flow} {st : Standing} (shallow : st.context.depth ≤ maxFlowDepth) :
    walkFlow site registry flow st =
      Walk.fromEntry site registry (nestedWalk site registry st) flow st := by
  have levels : maxFlowDepth + 1 - st.context.depth =
      maxFlowDepth + 1 - (st.context.depth + 1) + 1 := by omega
  rw [walkFlow, Walk.atDepth, levels]
  rfl

/-- A walk that is nested too deeply ends at once. -/
theorem walkFlow_of_lt {flow : Flow} {st : Standing} (deep : maxFlowDepth < st.context.depth) :
    walkFlow site registry flow st = Walk.tooDeep.go flow st := by
  have levels : maxFlowDepth + 1 - st.context.depth = 0 := by omega
  rw [walkFlow, Walk.atDepth, levels]
  rfl

/-- A part that executes a step has it checked and performed. -/
theorem attempt_of_step? {nested : Walk} {flow : Flow} {part : Part} {st : Standing} {step : Step}
    (executes : part.step? registry st.context.vars = some step) :
    Turn.attempt site registry nested flow part st =
      Turn.checkAndPerform site registry nested flow part step st := by
  rw [Part.step?] at executes
  rw [Turn.attempt]
  cases h : Task.ofPart registry st.context.vars part with
  | error e => simp [h, Except.toOption] at executes
  | ok task =>
    rw [h] at executes
    cases task <;> simp_all [Except.toOption, Task.step?]

/-- A part whose step is admitted has it performed. -/
theorem attempt_of_admitted {nested : Walk} {flow : Flow} {part : Part} {st : Standing}
    {step : Step} (executes : part.step? registry st.context.vars = some step)
    (admits : (Turn.admission step st.context.toScope st.moment).admitted = true) :
    Turn.attempt site registry nested flow part st =
      let performed := Turn.perform site registry nested step (Turn.checked step st)
      (.done performed.1, performed.2) := by
  rw [attempt_of_step? executes, Turn.checkAndPerform, if_pos admits]

theorem nestedWalk_congr {st st' : Standing} (h : st.context.depth = st'.context.depth) :
    nestedWalk site registry st = nestedWalk site registry st' := by
  rw [nestedWalk, h, nestedWalk]

/-- A part that is found in a live run within the ceiling is executed. -/
theorem take_of_room {flow : Flow} {uid : Uuid} {part : Part} {st : Standing}
    (live : st.ledger.canceled = false) (found : flow.part? uid = some part)
    (room : st.ledger.executed < st.ledger.ceiling) :
    Turn.take site registry (nestedWalk site registry st) flow uid st =
      Turn.follow flow part
        ((Work.attempt flow part).value site registry (Turn.start flow part st.count)) := by
  have within : st.count.ledger.isExceeded = false := Ledger.isExceeded_eq_false.2 room
  have depth : (Turn.start flow part st.count).context.depth = st.context.depth :=
    (Turn.onward_start flow part st.count).depth
  simp only [Turn.take, live, found, within, Bool.false_eq_true, if_false, Turn.execute, Work.value,
    nestedWalk_congr depth]

/-- A part that is found in a live run at the ceiling is refused. -/
theorem take_of_full {nested : Walk} {flow : Flow} {uid : Uuid} {part : Part} {st : Standing}
    (live : st.ledger.canceled = false) (found : flow.part? uid = some part)
    (full : st.ledger.ceiling ≤ st.ledger.executed) :
    Turn.take site registry nested flow uid st =
      (.leave .terminalExit, Turn.refuse flow part st.count) := by
  have exceeded : st.count.ledger.isExceeded = true := decide_eq_true (Nat.lt_succ_of_le full)
  simp only [Turn.take, live, found, exceeded, Bool.false_eq_true, if_false, if_true]

/-- A turn that leads nowhere is the last of a walk. -/
theorem value_of_leave {flow : Flow} {uid : Uuid} {st st' : Standing} {exit : Exit}
    (h : Turn.take site registry (nestedWalk site registry st) flow uid st =
      (.leave exit, st')) :
    (Work.goOn flow uid).value site registry st = (.leave exit, st') := by
  rw [Work.value, Walk.turns]
  split <;> simp_all

/-- After a turn that leads on, a walk goes on where it led. -/
theorem value_of_goOn {flow flow' : Flow} {uid uid' : Uuid} {st st' : Standing}
    (h : Turn.take site registry (nestedWalk site registry st) flow uid st =
      (.goOn flow' uid', st')) :
    (Work.goOn flow uid).value site registry st =
      (Work.goOn flow' uid').value site registry st' := by
  have onward := Turn.onward_take site registry (nestedWalk site registry st) flow uid st
  rw [h] at onward
  rw [Work.value, Work.value, nestedWalk_congr onward.depth, Walk.turns]
  split <;> simp_all

/-- The walk of a called flow is the nested walk. -/
theorem nestedWalk_callStart {flow : Flow} {properties : Variables} {st : Standing} :
    (nestedWalk site registry st).go flow (Turn.callStart flow properties st) =
      walkFlow site registry flow (Turn.callStart flow properties st) :=
  rfl

/-- The walk of a flow for a file is the nested walk. -/
theorem nestedWalk_fileStart {flow : Flow} {file : Path} {st : Standing} :
    (nestedWalk site registry st).go flow (Iteration.fileStart flow file st) =
      walkFlow site registry flow (Iteration.fileStart flow file st) :=
  rfl

theorem walkFlow_of_value {flow : Flow} {st st' : Standing} {exit : Exit}
    (h : (Work.walk flow).value site registry st = (.leave exit, st')) :
    walkFlow site registry flow st = (exit, st') := by
  simp only [Work.value, Prod.mk.injEq, Reply.leave.injEq] at h
  exact Prod.ext h.1 h.2

/-- In a live run the grade of the walk for a file decides what becomes of the others. -/
theorem value_visit_cons {flow : Flow} {total done : Nat} {file : Path} {files : List Path}
    {st st' : Standing} {exit : Exit} (live : st.ledger.canceled = false)
    (walk : walkFlow site registry flow (Iteration.fileStart flow file st) = (exit, st')) :
    (Work.visit flow total done (file :: files)).value site registry st =
      let back := st.withLedger st'.ledger
      match Iteration.grade exit with
      | .acceptable =>
        (Work.visit flow total (done + 1) files).value site registry
          (back.tell [.progress (.share (done + 1) total)])
      | .canceled => (.done .canceled, back)
      | .terminal => (.done .terminalExit, Iteration.adopt st'.context back)
      | .failed => (.done .failure, Iteration.adoptFailed file exit st'.context back) := by
  simp only [Work.value, Iteration.visit, live, Bool.false_eq_true, if_false, nestedWalk_fileStart,
    walk]
  cases Iteration.grade exit <;> rfl

/-- What the rules say is what the functions compute. -/
theorem ComesTo.value {work : Work} {st st' : Standing} {reply : Reply}
    (h : ComesTo site registry work st reply st') :
    work.value site registry st = (reply, st') := by
  induction h with
  | tooDeep deep =>
    simp only [Work.value, walkFlow_of_lt deep]
    rfl
  | noEntry shallow none =>
    simp only [Work.value, walkFlow_of_le shallow, Walk.fromEntry, none]
  | enter shallow found rest ih =>
    simp only [Work.value, walkFlow_of_le shallow, Walk.fromEntry, found] at ih ⊢
    exact ih
  | canceled stopped =>
    exact value_of_leave (if_pos stopped)
  | missing live none =>
    exact value_of_leave (by simp [Turn.take, live, none])
  | refused live found full => exact value_of_leave (take_of_full live found full)
  | last live found room work leads ih =>
    refine value_of_leave ?_
    rw [take_of_room live found room, ih, leads]
  | next live found room work leads rest ih ih' =>
    rw [value_of_goOn, ih']
    rw [take_of_room live found room, ih, leads]
  | unresolved task => simp only [Work.value, Turn.attempt, task]
  | marker task => simp only [Work.value, Turn.attempt, task]
  | lost task none => simp only [Work.value, Turn.attempt, task, Turn.switchTo, none]
  | switch task found => simp only [Work.value, Turn.attempt, task, Turn.switchTo, found]
  | input task => simp only [Work.value, Turn.attempt, task]
  | call task walk ih =>
    simp only [Work.value, Turn.attempt, task, Turn.callFlow, nestedWalk_callStart,
      walkFlow_of_value ih]
  | barred executes bars =>
    simp only [Work.value, attempt_of_step? executes, Turn.checkAndPerform, bars,
      Bool.false_eq_true, if_false]
  | plain executes admits =>
    rw [Work.value, attempt_of_admitted executes admits]
    rfl
  | unplanned executes admits plan =>
    rw [Work.value, attempt_of_admitted executes admits, Turn.perform, Iteration.run, plan]
    rfl
  | nothing executes admits plan =>
    rw [Work.value, attempt_of_admitted executes admits, Turn.perform, Iteration.run, plan]
  | iterate executes admits plan visits ih =>
    rw [Work.value, attempt_of_admitted executes admits, Turn.perform, Iteration.run, plan]
    exact ih
  | visitedAll => rfl
  | visitCanceled stopped => simp [Work.value, Iteration.visit, stopped]
  | visitNext live walk graded rest ih ih' =>
    rw [value_visit_cons live (walkFlow_of_value ih), graded]
    exact ih'
  | fileCanceled live walk graded ih | fileTerminal live walk graded ih
  | fileFailed live walk graded ih =>
    rw [value_visit_cons live (walkFlow_of_value ih), graded]

end

end FlowGraph
