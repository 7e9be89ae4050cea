import FlowGraph.Dict
import FlowGraph.Path

/-!
# Settings of a node

The settings are the same for every run on a node: where its tools and its scratch
folder are, and how many parts a run may execute.
-/

namespace FlowGraph

/-- The settings of a node. -/
structure Settings where
  /-- The scratch folder; the system's own when absent. -/
  tempDir : Option Path
  /-- Where external tools are, by name. -/
  toolPaths : Dict Path
  isDocker : Bool
  /-- The node count of flows that set none. -/
  defaultMaxNodes : Nat
  /-- The step ceiling is the node count times this. -/
  stepLimitMultiplier : Nat

namespace Settings

/-- The settings of a node that configures nothing. -/
def default : Settings :=
  { tempDir := none, toolPaths := .empty, isDocker := false, defaultMaxNodes := 50,
    stepLimitMultiplier := 10 }

instance : Inhabited Settings := ⟨default⟩

/-- The greatest number of a machine word; a ceiling never exceeds it. -/
def greatestCount : Nat := 0xffffffffffffffff

/-- How many parts a run of a flow may execute. -/
def stepCeiling (s : Settings) (maxNodes : Option Nat) : Nat :=
  min greatestCount (max 1 (maxNodes.getD s.defaultMaxNodes) * max 1 s.stepLimitMultiplier)

end Settings

end FlowGraph
