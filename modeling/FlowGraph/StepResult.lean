/-!
# Results of steps

A step ends with the number of the output to follow or with one of four structural
results. Raw codes stand for them where scripts and records need numbers: outputs have
their own number in 32 bits with a sign, the structural results have the codes 0, -1, -2
and -3.
-/

namespace FlowGraph

/-- The result of executing one step. -/
inductive StepResult where
  /-- Follow the output connection of this number. -/
  | output (n : Nat)
  /-- The step asked for the flow to end here. -/
  | completed
  /-- Follow the error connection, or fail the run. -/
  | failure
  /-- Stop at once: the run was canceled. -/
  | canceled
  /-- Stop at once: the run must neither go on nor be retried. -/
  | terminalExit
  deriving DecidableEq, Repr, Inhabited

namespace StepResult

/-- The highest output that a code can name. -/
def maxOutput : Nat := 99

/-- Output 1, by which steps report success. -/
def success : StepResult := .output 1

/-- The result of a raw code, if the code names one. -/
def ofCode? (code : Int) : Option StepResult :=
  if code = 0 then some .completed
  else if code = -1 then some .failure
  else if code = -2 then some .canceled
  else if code = -3 then some .terminalExit
  else if 1 ≤ code ∧ code ≤ maxOutput then some (.output code.toNat)
  else none

/-- The raw code. -/
def code : StepResult → Int
  | .output n => (n : Int).bmod UInt32.size
  | .completed => 0
  | .failure => -1
  | .canceled => -2
  | .terminalExit => -3

/-- The code of an output in the lower half of the 32-bit numbers is its own number. -/
theorem code_output {n : Nat} (low : 2 * n < UInt32.size) : (output n).code = n := by
  have wrapped : (n : Int).bmod UInt32.size = n := Int.bmod_eq_of_le (by omega) (by omega)
  exact wrapped

/-- The result stops the run without a look at the connections. -/
def isStop : StepResult → Bool
  | .canceled | .terminalExit => true
  | _ => false

/-- The wording of a result. -/
def text : StepResult → String
  | .output n => "output " ++ toString n
  | .completed => "completed"
  | .failure => "failure"
  | .canceled => "canceled"
  | .terminalExit => "terminal_exit"

/-- The wording for a code that names no result. -/
def invalidCodeMessage (code : Int) : String := "invalid result code " ++ toString code

end StepResult

end FlowGraph
