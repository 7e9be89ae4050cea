import FlowGraph.Step.Basic

/-!
# Plain steps: writing to the log, setting a variable, failing

The texts in the settings may hold placeholders, which are expanded when the step runs.
-/

namespace FlowGraph.Step

/-- A check that always passes. -/
def unchecked (s : Scope) : Admission := .pass s

/-- A value with the placeholders of its text expanded. -/
def expandText (vars : Variables) : Json → Json
  | .str s => .str (vars.expand s)
  | v => v

/-- Writes a message to the log. -/
def log (m : Model) : Step :=
  let message := m.setting Json.text "Message" ""
  .plain
    { check := unchecked
      run := fun _ _ s => ⟨.success, s, [.log .flow (s.vars.expand message)]⟩ }

/-- Sets a variable to a value. -/
def setVariable (m : Model) : Step :=
  let variable_ := m.setting Json.text "Variable" ""
  let value := m.setting Json.anyValue "Value" .null
  .plain
    { check := fun s =>
        if Text.allBlank variable_ then .bar s "SetVariable: no variable name configured"
        else .pass s
      run := fun _ _ s =>
        .success (s.setVariable (Text.trim variable_) (expandText s.vars value)) }

/-- Fails for a reason. -/
def failFlow (m : Model) : Step :=
  let reason := m.setting Json.text "Reason" ""
  .plain
    { check := unchecked
      run := fun _ _ s =>
        let text := s.vars.expand reason
        .failure s (if Text.allBlank text then "Flow failed" else text) }

end FlowGraph.Step
