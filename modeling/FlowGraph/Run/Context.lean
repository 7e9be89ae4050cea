import FlowGraph.Flow.Basic
import FlowGraph.Run.Scope

/-!
# Contexts of walks

Besides the scope of its steps, a walk knows the code of its last step, where it failed
and how deep it is nested in other walks. A context can be forked for the walk of
another file: the fork takes the variables along and nothing comes back from it.
-/

namespace FlowGraph

/-- Where a walk failed, by the names that are shown. -/
structure Location where
  step : String
  flow : String
  deriving DecidableEq

/-- What one walk knows. -/
structure Context extends Scope where
  /-- Where the last failure began. -/
  failedAt : Option Location
  /-- The code of the last step that ran. -/
  lastCode : Option Int
  /-- How many walks this one is nested in. -/
  depth : Nat

namespace Context

/-- The context of a run for a file, with some variables. -/
def forFile (file : Path) (vars : Variables) : Context :=
  { Scope.forFile file vars with failedAt := none, lastCode := none, depth := 0 }

/-- The context for another file, with a copy of the variables. -/
def fork (c : Context) (file : Path) : Context :=
  { Context.forFile file c.vars with depth := c.depth }

/-- The context with other variables. -/
def withVariables (c : Context) (vars : Variables) : Context := { c with vars := vars }

/-- Forgets the last failure. -/
def clearFailure (c : Context) : Context := { c with failureReason := none, failedAt := none }

/-- Gives a reason for the last failure, over one that was given. -/
def withReason (c : Context) (reason : String) : Context :=
  { c with failureReason := some reason }

/-- Notes where a failure began, unless that is known already. -/
def markFailedAt (c : Context) (at_ : Location) : Context :=
  { c with failedAt := c.failedAt.or (some at_) }

/-- Notes a failure: the reason and the place that are known already stay. -/
def failAt (c : Context) (at_ : Location) (reason : String) : Context :=
  { c with failureReason := c.failureReason.or (some reason) }.markFailedAt at_

/-- Takes the failure of another walk over. -/
def adoptFailure (c child : Context) : Context :=
  { c with
    failureReason := child.failureReason.or c.failureReason
    failedAt := child.failedAt.or c.failedAt }

end Context

end FlowGraph
