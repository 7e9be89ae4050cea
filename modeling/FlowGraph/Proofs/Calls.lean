import FlowGraph.Proofs.Lookup
import FlowGraph.Proofs.Rules

/-!
# Calls leave no trace in the variables they set

A call puts the variables that a flow declares and the ones that it is given over those of
the caller, and afterwards puts back what was there, or takes out what was not. It does so
key by key from a list that may name a key twice; as every entry of a key holds the same
value, neither the order nor the repetition matters.
-/

namespace FlowGraph

namespace Turn

theorem restoreVariables_cons (key : String) (found : Option Json)
    (saved : List (String × Option Json)) (vars : Variables) :
    restoreVariables ((key, found) :: saved) vars =
      (restoreVariables saved vars).putBack key found := by
  rw [restoreVariables, List.reverse_cons, List.foldl_append]
  rfl

/-- Restoring saved keys gives each of them what was saved, and keeps every other one. -/
theorem get?_restoreVariables (before after : Variables) (keys : List String) (k : String) :
    (restoreVariables (keys.map fun key => (key, before.get? key)) after).get? k =
      if k ∈ keys then before.get? k else after.get? k := by
  induction keys with
  | nil => simp [restoreVariables]
  | cons key keys ih =>
    rw [List.map_cons, restoreVariables_cons, Dict.get?_putBack, ih]
    by_cases h : k = key
    · rw [if_pos h, h, if_pos List.mem_cons_self]
    · simp [h]

/-- A call sets the keys that its flow declares and those that it is given. -/
def sets (flow : Flow) (properties : Variables) (key : String) : Bool :=
  flow.vars.contains key || properties.contains key

/-- A flow finds first what the call gave it, then what it declares itself. -/
theorem get?_callVariables (vars : Variables) (flow : Flow) (properties : Variables) (k : String) :
    (callVariables vars flow properties).get? k =
      (properties.get? k).or ((flow.vars.get? k).or (vars.get? k)) := by
  rw [callVariables, Dict.get?_overlay, Dict.get?_overlay]

/-- After a call the keys that it set are as they were before, the others as the flow left
them. -/
theorem get?_returnContext (before after : Context) (flow : Flow) (properties : Variables)
    (k : String) :
    (returnContext before after flow properties).vars.get? k =
      if sets flow properties k then before.vars.get? k else after.vars.get? k := by
  rw [returnContext, savedVariables, get?_restoreVariables]
  simp only [List.mem_append, Dict.mem_keys, sets, Bool.or_eq_true]

/-- After a call the walk is nested as deeply as before. -/
theorem callEnd_depth (nested : Walk) (flow : Flow) (properties : Variables) (st : Standing) :
    (callEnd flow properties st
      (nested.go flow (callStart flow properties st)).2).context.depth = st.context.depth :=
  (onward_callFlow nested flow properties st).depth

end Turn

/-- **A call puts back the variables that it sets**, whatever the walk of the flow does to
them and however it ends. That walk starts with the caller's context, one level deeper and
with the variables of the flow and then those of the call put over the caller's. Afterwards
every key that was set is as it was before, or absent again, and the depth is the caller's
again; everything else is as the walk left it. -/
theorem call_puts_back_what_it_sets (nested : Walk) (flow : Flow) (properties : Variables)
    (st : Standing) :
    let start := Turn.callStart flow properties st
    let walked := nested.go flow start
    let called := Turn.callFlow nested flow properties st
    (∀ key, start.context.vars.get? key =
        (properties.get? key).or ((flow.vars.get? key).or (st.context.vars.get? key))) ∧
      start = ⟨{ st.context with vars := start.context.vars, depth := st.context.depth + 1 },
        st.ledger⟩ ∧
      (∀ key, called.2.context.vars.get? key =
        if Turn.sets flow properties key then st.context.vars.get? key
        else walked.2.context.vars.get? key) ∧
      called.2.context.depth = st.context.depth ∧
      called = (walked.1.asStepResult,
        ⟨{ walked.2.context with vars := called.2.context.vars, depth := st.context.depth },
          walked.2.ledger⟩) ∧
      ∀ site registry caller part,
        Task.ofPart registry st.context.vars part = .ok (.subFlow flow properties) →
          Turn.attempt site registry nested caller part st = (.done called.1, called.2) := by
  intro start walked called
  have depth : called.2.context.depth = st.context.depth :=
    Turn.callEnd_depth nested flow properties st
  refine ⟨Turn.get?_callVariables _ flow properties, rfl,
    Turn.get?_returnContext st.context walked.2.context flow properties, depth, ?_, ?_⟩
  · rw [← depth]
    rfl
  · intro site registry caller part task
    rw [Turn.attempt, task]

namespace Sample

/-- A walk that forgets all variables and fails. -/
def forgetful : Walk where
  go _ st := (.failed, st.inContext fun c => c.withVariables .empty)
  onward _ _ := ⟨.refl _, rfl⟩

/-- A flow that declares a variable. -/
def declaring : Flow :=
  { Flow.new "declaring" .subFlow default with vars := .ofList [("declared", .null)] }

/-- A caller with that variable and another one. -/
def flagged : Standing :=
  .fresh ⟨"in/a.txt"⟩ (.ofList [("declared", .bool true), ("other", .bool true)]) false

end Sample

/-- A variable that the called flow declares comes back when its walk forgets everything. -/
theorem declared_variable_comes_back :
    let called := Turn.callFlow Sample.forgetful Sample.declaring .empty Sample.flagged
    called.2.context.vars.get? "declared" = some (.bool true) ∧
      called.2.context.vars.get? "other" = none := by
  obtain ⟨-, -, found, -⟩ :=
    call_puts_back_what_it_sets Sample.forgetful Sample.declaring .empty Sample.flagged
  exact ⟨found "declared", found "other"⟩

end FlowGraph
