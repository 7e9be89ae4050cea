import FlowGraph.Step.Basic

/-!
# Steps that run a script

The value of a script is the code of its result. What it made of the variables is taken
over, then the last working file and the last reason it gave, unless the run was
canceled under it.
-/

namespace FlowGraph

/-- A script with the configuration of a part. -/
structure ScriptStep where
  name : String
  source : String
  model : Model

namespace ScriptCall

/-- The log message of a call. -/
def notice? : ScriptCall → Option Notice
  | .log text => some (.log .script text)
  | _ => none

/-- The reason that a call gives. -/
def reason? : ScriptCall → Option String
  | .fail reason => some reason
  | _ => none

/-- The working file that a call sets. -/
def workingFile? : ScriptCall → Option String
  | .setWorkingFile path => some path
  | _ => none

end ScriptCall

namespace ScriptStep

/-- The variables after a script: those it kept or made, each with its new value, or
with the one before if the new one cannot be told. -/
def variablesAfter (before : Variables) (made : Dict (Option Json)) : Variables :=
  (before.filter fun key _ => made.contains key).insertAll
    (made.entries.filterMap fun (key, value?) => value?.map fun v => (key, v))

/-- The scope after a script, apart from its own result. -/
def scopeAfter (s : Scope) (e : Evaluation) : Scope :=
  let s := match e.vars with
    | some made => { s with vars := variablesAfter s.vars made }
    | none => s
  let s := match (e.calls.filterMap ScriptCall.workingFile?).getLast? with
    | some path => s.setWorkingFile ⟨path⟩
    | none => s
  match (e.calls.filterMap ScriptCall.reason?).getLast? with
  | some reason => s.fail reason
  | none => s

/-- The wording for a script that ended in an error. -/
def failedMessage (name message : String) : String :=
  "script '" ++ name ++ "' failed: " ++ message

/-- The wording for a script whose value is no whole number. -/
def wrongTypeMessage (name typeName : String) : String :=
  "script '" ++ name ++ "' must return an integer result code, got " ++ typeName

/-- The wording for a script whose value is no code. -/
def wrongCodeMessage (name : String) (code : Int) : String :=
  StepResult.invalidCodeMessage code ++ " from script '" ++ name ++ "'"

/-- What an evaluation leaves. -/
def conclude (name : String) (s : Scope) (e : Evaluation) : Outcome :=
  let notices := e.calls.filterMap ScriptCall.notice?
  let refuse (reason : String) : Outcome := ⟨.failure, (scopeAfter s e).fail reason, notices⟩
  match e.outcome with
  | .terminated => ⟨.canceled, s, notices⟩
  | .failed message => refuse (failedMessage name message)
  | .value typeName => refuse (wrongTypeMessage name typeName)
  | .integer code =>
    match StepResult.ofCode? code with
    | some result => ⟨result, scopeAfter s e, notices⟩
    | none => refuse (wrongCodeMessage name code)

/-- The input of a script in a scope. -/
def input (step : ScriptStep) (canceled : Bool) (s : Scope) : ScriptInput :=
  { source := step.source, vars := s.vars, model := step.model,
    workingFile := s.workingFile, originalFile := s.originalFile, canceled }

/-- What the script does as a step. -/
def action (step : ScriptStep) (moment : Moment := .first) : Action :=
  { check := .pass
    run := fun site canceled s =>
      conclude step.name s (site.scripts moment.clock (step.input canceled s)) }

end ScriptStep

end FlowGraph
