import FlowGraph.Script.Evaluation
import FlowGraph.Script.Exchange
import FlowGraph.Script.Statement
import FlowGraph.Step.Basic

/-!
# The scripts of a run

A script sees the variables, the configuration and the two files of its step as
variables of its own. What is left of the variables is looked up by its name in the end,
whatever the end is; a script that is no script leaves them as they were.
-/

namespace FlowGraph.Script

/-- The name of the variables of the run. -/
def variablesName : String := "Variables"

/-- The value of a dict. -/
def dictValue (d : Dict Json) : Value := .map (d.entries.map fun e => (e.1, Value.ofJson e.2))

/-- The machine in the beginning. -/
def initial (input : ScriptInput) : Machine :=
  { bindings :=
      [⟨"Model", dictValue input.model, false⟩,
        ⟨"OriginalFile", .str input.originalFile.text, false⟩,
        ⟨"WorkingFile", .str input.workingFile.text, false⟩,
        ⟨variablesName, dictValue input.vars, false⟩]
    self := none
    level := 0
    calls := [] }

/-- What a machine makes of the variables, if they are still a map. -/
def Machine.vars (m : Machine) : Option (Dict (Option Json)) :=
  match m.bindings.find? fun b => b.name == variablesName with
  | some ⟨_, .map fields, _⟩ =>
    some (Dict.ofList (fields.map fun field => (field.1, field.2.toJson?)))
  | _ => none

/-- How the value of a script ends it. -/
def endOfValue : Value → ScriptEnd
  | .int n => .integer n
  | v => .value v.fullTypeName

/-- How a script ends that was interrupted. -/
def endOfInterrupt : Interrupt → ScriptEnd
  | .fault f => .failed f.text
  | .back v | .leave v => endOfValue v
  | .again => endOfValue .unit

/-- No script that ends has so many phrases inside each other, turns of a loop counted
in. -/
def greatestDepth : Nat := 0x4000000000000000

/-- Runs a script that has been read. -/
def Program.run (p : Program) (depth : Nat) (m : Machine) : ScriptEnd × Machine :=
  match (Runner.upTo p.functions depth).statements true p.body m with
  | .ok v m => (endOfValue v, m)
  | .error e m => (endOfInterrupt e, m)

/-- Evaluates a script. -/
def evaluate : ScriptEvaluator := fun _ input =>
  let leave (outcome : ScriptEnd) (m : Machine) : Evaluation :=
    ⟨outcome, m.vars, m.calls.reverse⟩
  match Program.read input.source with
  | .error m => leave (.failed m.text) (initial input)
  | .ok p =>
    if input.canceled && !p.body.isEmpty then leave .terminated (initial input)
    else
      let (outcome, m) := p.run greatestDepth (initial input)
      leave outcome m

end FlowGraph.Script
