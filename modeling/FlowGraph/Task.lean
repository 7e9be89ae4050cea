import FlowGraph.Registry
import FlowGraph.Step.Script

/-!
# What a part asks for

A part resolves to a task: a step, a script, a flow to call or to switch to, or a
marker. Before that, variables override fields of its configuration: one named by the
part's uid and a field, or by the part's name and a field.
-/

namespace FlowGraph

namespace Part

/-- Names under which the engine and the steps publish variables. -/
def reservedNames : List String := ["file", "folder", "ExecuteCommand"]

/-- What a variable's name starts with to override a field by the part's uid. -/
def uidStart (p : Part) : String := p.uid.text ++ "."

/-- What a variable's name starts with to override a field by the part's name; nothing
for parts without a name or with a reserved one. -/
def nameStart? (p : Part) : Option String :=
  ((nonEmpty? p.name).filter fun n =>
    !reservedNames.any fun r => Text.eqIgnoringCase r n).map (· ++ ".")

/-- The field that a variable overrides. -/
def overriddenField? (p : Part) (key : String) : Option String :=
  ((Text.afterPrefix? p.uidStart key).or
    (p.nameStart?.bind fun start => Text.afterPrefix? start key)).filter (· != "")

/-- The configuration with the overrides of variables. -/
def effectiveModel (p : Part) (vars : Variables) : Model :=
  p.model.insertAll (vars.entries.filterMap fun (key, v) =>
    (p.overriddenField? key).map fun field => (field, v))

end Part

/-- What a part asks for. -/
inductive Task where
  | native (step : Step)
  | script (step : ScriptStep)
  /-- Call a flow with some variables. -/
  | subFlow (flow : Flow) (properties : Variables)
  /-- Go on in another flow. -/
  | gotoFlow (flow : Flow)
  | subFlowInput
  /-- Return a result to the caller of the flow. -/
  | subFlowOutput (result : StepResult)

/-- Why a part asks for nothing that can be done. -/
inductive Unresolved where
  | scriptNotFound (name : String)
  | flowNotFound (ref : String)
  | elementNotFound (name : String)
  | invalidOutputCode (code : Int)
  deriving DecidableEq

/-- The wording for a part that cannot be resolved. -/
def Unresolved.message : Unresolved → String
  | .scriptNotFound name => "script '" ++ name ++ "' not found"
  | .flowNotFound ref => "flow '" ++ ref ++ "' not found"
  | .elementNotFound name => "flow element '" ++ name ++ "' not found"
  | .invalidOutputCode code => "sub-flow output has invalid code " ++ toString code

namespace Task

/-- The field of an exit marker that holds its code. -/
def outputField : String := "Output"

/-- The code of an exit marker: its field, else the number in its name, else 1. -/
def outputCode (m : Model) (suffix : Option Nat) : Int :=
  (m.field? Json.int64 outputField).getD ((suffix.map Int.ofNat).getD 1)

/-- The variables that a called flow is given: the configuration, texts expanded. -/
def properties (m : Model) (vars : Variables) : Variables :=
  m.map fun _ v => Step.expandText vars v

/-- Does something with a registered flow. -/
def withFlow (r : Registry) (uid : Uuid) (use : Flow → Task) : Except Unresolved Task :=
  match r.flow? uid with
  | some f => .ok (use f)
  | none => .error (.flowNotFound uid.text)

/-- What a designation asks for, with a configuration. -/
def ofRef (r : Registry) (m : Model) (vars : Variables) : StepRef → Except Unresolved Task
  | .script name =>
    match r.scripts.get? name with
    | some source => .ok (.script { name, source, model := m })
    | none => .error (.scriptNotFound name)
  | .subFlow uid => withFlow r uid fun f => .subFlow f (properties m vars)
  | .gotoFlow uid => withFlow r uid .gotoFlow
  | .subFlowInput => .ok .subFlowInput
  | .subFlowOutput suffix =>
    let code := outputCode m suffix
    match StepResult.ofCode? code with
    | some result => .ok (.subFlowOutput result)
    | none => .error (.invalidOutputCode code)
  | .native name =>
    match r.create? name m with
    | some step => .ok (.native step)
    | none => .error (.elementNotFound name)

/-- What a part asks for. -/
def ofPart (r : Registry) (vars : Variables) (p : Part) : Except Unresolved Task :=
  match p.stepRef with
  | .ok ref => ofRef r (p.effectiveModel vars) vars ref
  | .error e => .error (.flowNotFound e.ref)

/-- The name of a kind of tasks. -/
def kind : Task → String
  | .native _ => "native"
  | .script _ => "script"
  | .subFlow _ _ => "sub_flow"
  | .gotoFlow _ => "goto_flow"
  | .subFlowInput => "sub_flow_input"
  | .subFlowOutput _ => "sub_flow_output"

end Task

end FlowGraph
