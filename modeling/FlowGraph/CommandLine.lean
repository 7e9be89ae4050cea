import FlowGraph.Config
import FlowGraph.Registration
import FlowGraph.Worker

/-!
# The command line

`run_flow` takes a flow and a file. It loads the configuration, flows and scripts, runs
the flow on the file, writes the log of the run and prints a summary. The exit code
tells the final state.
-/

namespace FlowGraph

namespace CommandLine

/-- The options that take a value. -/
inductive Option_ where
  | config
  | flowsDir
  | scriptsDir
  | runDir
  deriving DecidableEq

/-- The options that take a value, by name. -/
def options : List (String × Option_) :=
  [("config", .config), ("flows-dir", .flowsDir), ("scripts-dir", .scriptsDir),
   ("run-dir", .runDir)]

def noFailureFlowFlag : String := "no-failure-flow"
def helpFlag : String := "help"

/-- Why the arguments are not understood. -/
inductive Refusal where
  /-- Help was asked for. -/
  | help
  /-- The usage is wrong. -/
  | usage
  deriving DecidableEq

/-- The arguments read so far. -/
structure Reading where
  values : List (Option_ × String)
  noFailureFlow : Bool
  /-- The arguments that are no options, the last one first. -/
  operands : List String
  /-- An option that waits for its value. -/
  waiting : Option Option_
  /-- Everything from here on is an operand. -/
  onlyOperands : Bool

/-- The arguments, understood. -/
structure Arguments where
  values : List (Option_ × String)
  noFailureFlow : Bool
  flow : String
  file : Path

/-- Nothing read so far. -/
def Reading.initial : Reading :=
  { values := [], noFailureFlow := false, operands := [], waiting := none, onlyOperands := false }

/-- Nothing waits for a value, and a file that was read is not empty. -/
def Reading.settled (r : Reading) : Bool :=
  r.waiting.isNone && (match r.operands with
    | [file, _] => file != ""
    | _ => true)

/-- Gives an option its value. -/
def Reading.give (r : Reading) (o : Option_) (value : String) : Except Refusal Reading :=
  if value = "" ∨ r.values.any (fun v => v.1 == o) then .error .usage
  else .ok { r with values := (o, value) :: r.values, waiting := none }

/-- Reads an operand. -/
def Reading.operand (r : Reading) (arg : String) : Except Refusal Reading :=
  if r.waiting.isSome ∨ 2 ≤ r.operands.length then .error .usage
  else .ok { r with operands := arg :: r.operands }

/-- Reads a long option; `name` is what follows its two hyphens. -/
def Reading.long (r : Reading) (name : String) : Except Refusal Reading :=
  let key := name.toList.takeWhile (· != '=')
  let value? := if key.length < name.length then
    some (String.ofList (name.toList.drop (key.length + 1))) else none
  if !r.settled then .error .usage
  else
    match options.lookup (String.ofList key), value? with
    | some o, some value => r.give o value
    | some o, none => .ok { r with waiting := some o }
    | none, none =>
      if name = helpFlag then .error .help
      else if name = noFailureFlowFlag ∧ !r.noFailureFlow then
        .ok { r with noFailureFlow := true }
      else .error .usage
    | none, some _ => .error .usage

/-- Reads one argument. -/
def Reading.next (r : Reading) (arg : String) : Except Refusal Reading :=
  if r.onlyOperands then r.operand arg
  else
    match arg.toList with
    | ['-', '-'] => .ok { r with onlyOperands := true }
    | '-' :: '-' :: name => r.long (String.ofList name)
    | '-' :: c :: _ => if c = 'h' ∧ r.settled then .error .help else .error .usage
    | _ =>
      match r.waiting with
      | some o => r.give o arg
      | none => r.operand arg

/-- Reads all arguments. -/
def parse (args : List String) : Except Refusal Arguments := do
  let r ← args.foldlM Reading.next .initial
  if !r.settled then .error .usage
  else
    match r.operands with
    | [file, flow] =>
      .ok { values := r.values, noFailureFlow := r.noFailureFlow, flow, file := ⟨file⟩ }
    | _ => .error .usage

/-- The path that an option gives, or one that is kept. -/
def Arguments.path (a : Arguments) (o : Option_) (otherwise : Path) : Path :=
  ((a.values.lookup o).map Path.mk).getD otherwise

/-- The configuration with the overrides of the options. -/
def Arguments.override (a : Arguments) (c : Config) : Config :=
  { c with
    flowsDir := a.path .flowsDir c.flowsDir
    scriptsDir := a.path .scriptsDir c.scriptsDir
    runDir := a.path .runDir c.runDir }

/-! ## Running -/

/-- The exit code that tells a final state. -/
def exitCode : RunState → Nat
  | .completed => 0
  | .failed => 1
  | .canceled => 2
  | .terminalExit => 3

/-- How a command ended. -/
inductive Ending where
  /-- Help is printed. -/
  | help
  /-- The arguments were not understood. -/
  | usage
  /-- Nothing was run, or its log not written, for a reason. -/
  | failed (message : String)
  /-- The flow was run. -/
  | ran (flow : String) (result : RunResult)

/-- The exit code of a command. -/
def Ending.code : Ending → Nat
  | .help => 0
  | .usage => 2
  | .failed _ => 1
  | .ran _ result => exitCode result.state

/-- A number behind so many blanks that it takes three places. -/
def inThreePlaces (n : Nat) : String :=
  let ds := Nat.toDigits 10 n
  String.ofList (List.replicate (3 - ds.length) ' ' ++ ds)

/-- The line for a visible step. -/
def stepLine (s : ExecutedStep) : String :=
  "  " ++ inThreePlaces s.step ++ " " ++ s.indentedName ++ " -> " ++ toString s.resultCode

/-- The lines that sum a run up. -/
def summary (flow : String) (r : RunResult) : List String :=
  ["Run finished.", "  Flow: " ++ flow, "  State: " ++ r.state.text] ++
    (r.failureReason.map fun reason => "  Reason: " ++ reason).toList ++
    (r.failedStep.map fun step => "  Failed step: " ++ step).toList ++
    r.executedSteps.map stepLine

/-- What a node registers for a configuration. -/
def registrations (files : FileTree) (c : Config) : List Registration :=
  [.steps Step.basics, .flowsIn files c.flowsDir] ++
    (if files.isFolder c.scriptsDir then [.scriptsIn files c.scriptsDir] else []) ++
    c.failureFlow.toList.map .failureFlow

/-- Runs the flow and file of understood arguments; how that ends, and the files
afterwards. -/
def execute (scripts : ScriptEvaluator) (commands : FileTree → CommandRunner)
    (files : FileTree) (env : Dict String) (times : RunTimes) (a : Arguments) :
    Ending × FileTree :=
  match Config.resolve files env ((a.values.lookup .config).map Path.mk) with
  | .error e => (.failed e.message, files)
  | .ok config =>
    let config := a.override config
    match Registry.ofRegistrations (registrations files config) with
    | .error e => (.failed e.message, files)
    | .ok registry =>
      match registry.findFlow? a.flow with
      | none => (.failed ("flow '" ++ a.flow ++ "' not found"), files)
      | some flow =>
        let site : Site :=
          { files, settings := config.settings, commands := commands files, scripts }
        let options : RunOptions :=
          { runDir := some config.runDir, failureFlow := !a.noFailureFlow, canceled := false,
            vars := .empty }
        match Worker.runFile site registry flow.uid a.file options times with
        | .error e => (.failed e.message, files)
        | .ok report => (.ran flow.name report.main.result, report.files)

/-- Runs the command with its arguments. -/
def run (scripts : ScriptEvaluator) (commands : FileTree → CommandRunner)
    (files : FileTree) (env : Dict String) (times : RunTimes) (args : List String) :
    Ending × FileTree :=
  match parse args with
  | .error .help => (.help, files)
  | .error .usage => (.usage, files)
  | .ok a => execute scripts commands files env times a

end CommandLine

end FlowGraph
