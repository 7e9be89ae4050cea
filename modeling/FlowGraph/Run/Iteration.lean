import FlowGraph.Registry
import FlowGraph.Run.Standing

/-!
# Walking a flow for every file of a folder

The files are walked one after the other, each in a fork of the context, until one of
the walks does not succeed or the run is canceled.
-/

namespace FlowGraph

namespace Iteration

/-- How the walk of one file counts. -/
inductive Grade where
  /-- The next file may follow. -/
  | acceptable
  | canceled
  | terminal
  | failed
  deriving DecidableEq

/-- How an exit counts. -/
def grade : Exit → Grade
  | .completed | .returned .completed | .returned (.output 1) => .acceptable
  | .canceled | .returned .canceled => .canceled
  | .terminalExit | .returned .terminalExit => .terminal
  | .failed | .returned .failure | .returned (.output _) => .failed

/-- The context for one file: a fork, one level deeper, with the variables of the flow. -/
def childContext (c : Context) (flow : Flow) (file : Path) : Context :=
  let child := c.fork file
  { child with vars := child.vars.overlay flow.vars, depth := c.depth + 1 }

/-- The reason for a failure without one. -/
def fallbackReason (file : Path) (exit : Exit) : String :=
  "processing " ++ file.text ++ " ended with " ++ exit.name

/-- Where the walk for one file starts. -/
def fileStart (flow : Flow) (file : Path) (st : Standing) : Standing :=
  ⟨childContext st.context flow file, st.ledger⟩

/-- Takes the failure of the walk for a file over. -/
def adopt (child : Context) (st : Standing) : Standing :=
  st.inContext fun c => c.adoptFailure child

/-- Takes over how the walk for a file failed, with a reason if it gave none. -/
def adoptFailed (file : Path) (exit : Exit) (child : Context) (st : Standing) : Standing :=
  (adopt child st).inContext fun c =>
    { c with failureReason := c.failureReason.or (some (fallbackReason file exit)) }

@[simp] theorem fileStart_ledger (flow : Flow) (file : Path) (st : Standing) :
    (fileStart flow file st).ledger = st.ledger :=
  rfl

@[simp] theorem adopt_ledger (child : Context) (st : Standing) :
    (adopt child st).ledger = st.ledger :=
  rfl

@[simp] theorem adoptFailed_ledger (file : Path) (exit : Exit) (child : Context) (st : Standing) :
    (adoptFailed file exit child st).ledger = st.ledger :=
  rfl

/-- Walks the flow for the files left, `done` of `total` being done. -/
def visit (walk : Walk) (flow : Flow) (total : Nat) (done : Nat) :
    List Path → Standing → StepResult × Standing
  | [], st => (EachFile.allProcessed, st)
  | file :: rest, st =>
    if st.ledger.canceled then (.canceled, st)
    else
      let walked := walk.go flow (fileStart flow file st)
      let back := st.withLedger walked.2.ledger
      match grade walked.1 with
      | .acceptable =>
        visit walk flow total (done + 1) rest (back.tell [.progress (.share (done + 1) total)])
      | .canceled => (.canceled, back)
      | .terminal => (.terminalExit, adopt walked.2.context back)
      | .failed => (.failure, adoptFailed file walked.1 walked.2.context back)

theorem onward_visit (walk : Walk) (flow : Flow) (total : Nat) (files : List Path) :
    ∀ (done : Nat) (st : Standing), st.Onward (visit walk flow total done files st).2 := by
  induction files with
  | nil => exact fun _ st => .refl _
  | cons file rest ih =>
    intro done st
    have hwalk := (walk.onward flow (fileStart flow file st)).ledger
    simp only [visit]
    split
    · exact .refl _
    · split
      · refine Standing.Onward.trans ?_ (ih (done + 1) _)
        exact ⟨hwalk.trans (.tell _ _), rfl⟩
      · exact ⟨hwalk, rfl⟩
      · exact ⟨hwalk, rfl⟩
      · exact ⟨hwalk, rfl⟩

/-- Fails without a walk. -/
def fail (st : Standing) (reason : String) : StepResult × Standing :=
  (.failure, st.inContext fun c => c.withReason reason)

/-- The flow that is walked and the files it is walked for, as they are when the step runs,
or why there are none. -/
def plan (site : Site) (registry : Registry) (e : EachFile) (st : Standing) :
    Except String (Flow × List Path) :=
  let folder := e.folder st.context.vars
  let tree := site.filesAt st.ledger.clock
  if !tree.isFolder folder then .error ("directory not found: " ++ folder.text)
  else
    match FilePattern.parse? e.pattern with
    | none => .error (FilePattern.invalidMessage e.pattern)
    | some pattern =>
      match e.flow with
      | none => .error "DirectoryIterator: no flow configured"
      | some uid =>
        match registry.flow? uid with
        | none => .error ("flow " ++ uid.text ++ " not found")
        | some flow =>
          match tree.matchingFiles folder pattern e.recursive with
          | .error err => .error ("cannot read " ++ folder.text ++ ": " ++ err.message)
          | .ok files => .ok (flow, files)

/-- What is planned depends on the files at the time and on the variables only. -/
theorem plan_congr {site : Site} {registry : Registry} {e : EachFile} {st st' : Standing}
    (files : site.filesAt st'.ledger.clock = site.filesAt st.ledger.clock)
    (vars : st'.context.vars = st.context.vars) :
    plan site registry e st' = plan site registry e st := by
  rw [plan, files, vars, plan]

/-- Walks the configured flow for every matching file of the configured folder. -/
def run (site : Site) (registry : Registry) (walk : Walk) (e : EachFile) (st : Standing) :
    StepResult × Standing :=
  match plan site registry e st with
  | .error reason => fail st reason
  | .ok (_, []) => (EachFile.nothingToDo, st)
  | .ok (flow, files) => visit walk flow files.length 0 files st

theorem onward_run (site : Site) (registry : Registry) (walk : Walk) (e : EachFile)
    (st : Standing) : st.Onward (run site registry walk e st).2 := by
  simp only [run]
  split
  · exact ⟨.refl _, rfl⟩
  · exact .refl _
  · exact onward_visit _ _ _ _ _ _

end Iteration

end FlowGraph
