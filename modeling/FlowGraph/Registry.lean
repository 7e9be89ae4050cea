import FlowGraph.Flow.Basic
import FlowGraph.Step.EachFile
import FlowGraph.Step.Plain
import FlowGraph.Step.RunCommand
import FlowGraph.Text.Quoted

/-!
# What a worker has loaded

A registry holds step types by name, flows by uid and scripts by name. What is
registered later replaces what had the same key, so no two flows of a registry have one uid.
-/

namespace FlowGraph

/-- The step types of every node. -/
def Step.basics : List (String × StepFactory) :=
  [("Basic.DirectoryIterator", Step.directoryIterator),
   ("Basic.ExecuteCommand", Step.executeCommand), ("Basic.FailFlow", Step.failFlow),
   ("Basic.Log", Step.log), ("Basic.SetVariable", Step.setVariable)]

/-- Steps, flows and scripts. -/
structure Registry where
  steps : Dict StepFactory
  flows : List Flow
  distinct : flows.Pairwise fun f g => f.uid ≠ g.uid
  scripts : Dict String
  /-- The flow to run after failures, if one is chosen. -/
  failureFlowUid : Option Uuid

namespace Registry

/-- Nothing at all. -/
def empty : Registry :=
  { steps := .empty, flows := [], distinct := .nil, scripts := .empty, failureFlowUid := none }

/-- Registers step types. -/
def withSteps (r : Registry) (steps : List (String × StepFactory)) : Registry :=
  { r with steps := r.steps.insertAll steps }

/-- The flows with one more, over the one of the same uid. -/
def place (f : Flow) (flows : List Flow) : List Flow :=
  flows.filter (fun g => g.uid != f.uid) ++ [f]

theorem distinct_place (f : Flow) {flows : List Flow}
    (distinct : flows.Pairwise fun g h => g.uid ≠ h.uid) :
    (place f flows).Pairwise fun g h => g.uid ≠ h.uid := by
  refine List.pairwise_append.2 ⟨distinct.filter _, List.pairwise_singleton _ _, ?_⟩
  intro g kept h last
  rw [List.mem_singleton.1 last]
  simpa using (List.mem_filter.1 kept).2

/-- Registers a flow. -/
def withFlow (r : Registry) (f : Flow) : Registry :=
  { r with flows := place f r.flows, distinct := distinct_place f r.distinct }

/-- Registers flows in order. -/
def withFlows (r : Registry) (fs : List Flow) : Registry := fs.foldl withFlow r

/-- Registers scripts by name. -/
def withScripts (r : Registry) (scripts : List (String × String)) : Registry :=
  { r with scripts := r.scripts.insertAll scripts }

/-- Chooses the flow to run after failures. -/
def withFailureFlow (r : Registry) (uid : Uuid) : Registry :=
  { r with failureFlowUid := some uid }

/-- The flow of a uid. -/
def flow? (r : Registry) (uid : Uuid) : Option Flow := r.flows.find? fun f => f.uid == uid

theorem mem_of_flow? {r : Registry} {uid : Uuid} {f : Flow} (found : r.flow? uid = some f) :
    f ∈ r.flows :=
  List.mem_of_find?_eq_some found

/-- A worker finds the flow that it registered last under a uid. -/
theorem flow?_withFlow (r : Registry) (f : Flow) (uid : Uuid) :
    (r.withFlow f).flow? uid = if f.uid = uid then some f else r.flow? uid := by
  unfold flow? withFlow place
  rw [List.find?_append]
  by_cases same : f.uid = uid
  · subst same
    have replaced : (r.flows.filter fun g => g.uid != f.uid).find? (fun g => g.uid == f.uid) =
        none := by
      rw [List.find?_eq_none]
      intro g mem
      simpa using (List.mem_filter.1 mem).2
    rw [replaced, if_pos rfl]
    simp
  · have kept : (r.flows.filter fun g => g.uid != f.uid).find? (fun g => g.uid == uid) =
        r.flows.find? fun g => g.uid == uid := by
      rw [List.find?_filter]
      congr 1
      funext g
      by_cases other : g.uid = uid
      · subst other
        simpa using Ne.symm same
      · simp [other]
    rw [kept, if_neg same]
    simp [same]

/-- The flow of a name, up to the case of ASCII letters. -/
def flowByName? (r : Registry) (name : String) : Option Flow :=
  r.flows.find? fun f => Text.eqIgnoringCase f.name name

/-- The flow that a reference means: one of that uid, or else of that name. -/
def findFlow? (r : Registry) (ref : String) : Option Flow :=
  match Uuid.parse? (Text.trim ref) with
  | some uid => r.flow? uid
  | none => r.flowByName? (Text.trim ref)

/-- The flow of the least name. -/
def leastNamed : List Flow → Option Flow
  | [] => none
  | f :: fs =>
    match leastNamed fs with
    | none => some f
    | some g => if g.name < f.name then some g else some f

/-- The flow to run after failures: the chosen one, or else the failure flow of the least
name. -/
def failureFlow? (r : Registry) : Option Flow :=
  match r.failureFlowUid with
  | some uid => r.flow? uid
  | none => leastNamed (r.flows.filter fun f => f.kind == .failure)

/-- A step of a type. -/
def create? (r : Registry) (name : String) (m : Model) : Option Step :=
  (r.steps.get? name).map fun make => make m

/-- The names of the step types, in a message. -/
def stepsText (r : Registry) : String :=
  "StepRegistry \x7b steps: [" ++ ", ".intercalate (r.steps.keys.map Text.quoted) ++ "] \x7d"

end Registry

end FlowGraph
