import FlowGraph.Command
import FlowGraph.Files.Tree
import FlowGraph.Run.Notice
import FlowGraph.Run.Result
import FlowGraph.Run.Scope
import FlowGraph.Script.Call
import FlowGraph.Settings
import FlowGraph.Step.Binding
import FlowGraph.StepResult

/-!
# Steps

A plain step checks its settings and then runs; both read and change a scope and hand
out notices, and both may depend on the moment: on what the run has done so far, and on
the node, whose files and commands need not be the same when a step is taken again. The
step that walks a flow for every file of a folder is a kind of its own, for it takes the
engine to run it.
-/

namespace FlowGraph

/-- What a script may read. -/
structure ScriptInput where
  source : String
  vars : Variables
  model : Model
  workingFile : Path
  originalFile : Path
  /-- The run is canceled, so nothing of the script may run. -/
  canceled : Bool

/-- How the evaluation of a script ended. -/
inductive ScriptEnd where
  | integer (n : Int)
  /-- A value of another type. -/
  | value (typeName : String)
  | failed (message : String)
  /-- The run was canceled. -/
  | terminated

/-- What the evaluation of a script leaves. -/
structure Evaluation where
  outcome : ScriptEnd
  /-- The variables in the end, each with its value unless JSON cannot hold it; absent
  when the script made something else of them. -/
  vars : Option (Dict (Option Json))
  /-- The calls in order. -/
  calls : List ScriptCall

/-- How scripts are evaluated, by the time on the node. -/
abbrev ScriptEvaluator := Nat → ScriptInput → Evaluation

/-- What a run finds on its node. -/
structure Site where
  /-- The files in the beginning. -/
  files : FileTree
  settings : Settings
  commands : CommandRunner
  scripts : ScriptEvaluator
  /-- What becomes of the files at a tick of the clock. -/
  changes : Nat → FileTree → FileTree := fun _ files => files

/-- The files at a time. -/
def Site.filesAt (site : Site) : Nat → FileTree
  | 0 => site.files
  | time + 1 => site.changes time (site.filesAt time)

/-- The files of the node stay as they are. -/
def Site.IsStill (site : Site) : Prop := ∀ time files, site.changes time files = files

/-- On a still node there are the same files at all times. -/
theorem Site.IsStill.filesAt {site : Site} (still : site.IsStill) (time : Nat) :
    site.filesAt time = site.files := by
  induction time with
  | zero => rfl
  | succ time ih => rw [Site.filesAt, still, ih]

/-- When a step is checked or run: what it may learn of the run besides its scope. -/
structure Moment where
  /-- The time on the node: every counted part is a tick of the clock. -/
  clock : Nat
  canceled : Bool
  /-- How many parts of the run were counted. -/
  executed : Nat
  /-- The records of the visible steps in order. -/
  executedSteps : List ExecutedStep
  /-- The code of the last step that ran. -/
  lastCode : Option Int
  /-- How many walks the one that takes the step is nested in. -/
  depth : Nat

/-- The moment before anything has happened. -/
def Moment.first : Moment :=
  { clock := 0, canceled := false, executed := 0, executedSteps := [], lastCode := none
    depth := 0 }

/-- What a check decides. -/
structure Admission where
  admitted : Bool
  scope : Scope
  notices : List Notice

/-- What running a step leaves. -/
structure Outcome where
  result : StepResult
  scope : Scope
  notices : List Notice

namespace Admission

/-- The step may run. -/
def pass (s : Scope) : Admission := ⟨true, s, []⟩

/-- The step must not run, for a reason. -/
def bar (s : Scope) (reason : String) : Admission := ⟨false, s.fail reason, []⟩

end Admission

namespace Outcome

/-- A step that succeeds without a notice. -/
def success (s : Scope) : Outcome := ⟨.success, s, []⟩

/-- A step that fails for a reason. -/
def failure (s : Scope) (reason : String) : Outcome := ⟨.failure, s.fail reason, []⟩

end Outcome

/-- What a plain step does at a moment. -/
structure Action where
  /-- Decides whether the step may run. -/
  check : Scope → Admission
  /-- Runs the step; the truth value says whether the run is canceled. -/
  run : Site → Bool → Scope → Outcome

/-- The settings for walking a flow for every file of a folder. -/
structure EachFile where
  /-- The folder, with placeholders. -/
  path : String
  /-- Which files; see `FilePattern`. -/
  pattern : String
  /-- Files of inner folders count too. -/
  recursive : Bool
  flow : Option Uuid

/-- A step that a part can name. -/
inductive Step where
  /-- A plain step does something at every moment. -/
  | acting (actions : Moment → Action)
  | eachFile (settings : EachFile)

/-- The plain step that does the same at every moment. -/
def Step.plain (action : Action) : Step := .acting fun _ => action

/-- Makes a step from a configuration. -/
abbrev StepFactory := Model → Step

end FlowGraph
