import FlowGraph.Files.Loading
import FlowGraph.Registry

/-!
# Building a registry

A worker builds its registry by registrations, one after the other. Flows and scripts are given
one by one, or as the folders that define them; a folder that cannot be loaded ends the building.
-/

namespace FlowGraph

/-- What a worker is given to register. -/
inductive Registration where
  | steps (steps : List (String × StepFactory))
  | flow (f : Flow)
  | script (name source : String)
  /-- The flows that a folder defines. -/
  | flowsIn (files : FileTree) (folder : Path)
  /-- The scripts that a folder defines. -/
  | scriptsIn (files : FileTree) (folder : Path)
  /-- The choice of the flow to run after failures. -/
  | failureFlow (uid : Uuid)

namespace Registry

/-- The registry with what is given registered as well. -/
def register (r : Registry) : Registration → Except LoadError Registry
  | .steps steps => .ok (r.withSteps steps)
  | .flow f => .ok (r.withFlow f)
  | .script name source => .ok (r.withScripts [(name, source)])
  | .flowsIn files folder => (files.loadFlows folder).map r.withFlows
  | .scriptsIn files folder => (files.loadScripts folder).map r.withScripts
  | .failureFlow uid => .ok (r.withFailureFlow uid)

/-- The registry that some registrations build. -/
def ofRegistrations (registrations : List Registration) : Except LoadError Registry :=
  registrations.foldlM register .empty

end Registry

end FlowGraph
