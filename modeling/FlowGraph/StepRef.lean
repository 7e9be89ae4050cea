import FlowGraph.Text.Ascii
import FlowGraph.Text.Blank
import FlowGraph.Uuid

/-!
# What a part refers to

The element designation of a part names a native step, a script (`Script:`), a flow to
call (`SubFlow:`) or to switch to (`GotoFlow:`), or marks the entry or an exit of a
sub-flow. Blanks around the designation and around the rest after a prefix are left
out, and only a flow reference that is no uuid is refused.
-/

namespace FlowGraph

/-- A parsed element designation. -/
inductive StepRef where
  | native (name : String)
  | script (name : String)
  | subFlow (flow : Uuid)
  | gotoFlow (flow : Uuid)
  | subFlowInput
  /-- The exit marker, with the number at the end of its name if there is one. -/
  | subFlowOutput (suffix : Option Nat)
  deriving DecidableEq

/-- A flow reference that holds no uuid. -/
structure InvalidFlowRef where
  ref : String
  deriving DecidableEq

/-- The wording for a flow reference that holds no uuid. -/
def InvalidFlowRef.message (e : InvalidFlowRef) : String :=
  "invalid flow reference '" ++ e.ref ++ "'"

namespace StepRef

def scriptPrefix : String := "Script:"
def subFlowPrefix : String := "SubFlow:"
def gotoFlowPrefix : String := "GotoFlow:"
def subFlowInputName : String := "SubFlowInput"
def subFlowOutputName : String := "SubFlowOutput"

/-- The flow of a reference, blanks around it left out. -/
def flowOf (ref : String) : Except InvalidFlowRef Uuid :=
  match Uuid.parse? (Text.trim ref) with
  | some uid => .ok uid
  | none => .error ⟨ref⟩

/-- The number written at the end of an exit marker, if it fits 32 bits. -/
def suffix? (s : String) : Option Nat := Text.natBelow? UInt32.size s.toList

/-- Parses a designation that has no blanks around it. -/
def parseTrimmed (element : String) : Except InvalidFlowRef StepRef :=
  match Text.afterPrefix? scriptPrefix element with
  | some name => .ok (.script (Text.trim name))
  | none =>
  match Text.afterPrefix? subFlowPrefix element with
  | some ref => .subFlow <$> flowOf ref
  | none =>
  match Text.afterPrefix? gotoFlowPrefix element with
  | some ref => .gotoFlow <$> flowOf ref
  | none =>
  if element = subFlowInputName then .ok .subFlowInput
  else
  match Text.afterPrefix? subFlowOutputName element with
  | some suffix => .ok (.subFlowOutput (suffix? suffix))
  | none => .ok (.native element)

/-- Parses an element designation. -/
def parse (element : String) : Except InvalidFlowRef StepRef :=
  parseTrimmed (Text.trim element)

/-- Markers and parts that hand over to a flow are not counted as visible steps. -/
def isExempt : StepRef → Bool
  | .native _ | .script _ => false
  | _ => true

/-- The designation in its canonical spelling. -/
def text : StepRef → String
  | .native name => name
  | .script name => scriptPrefix ++ name
  | .subFlow uid => subFlowPrefix ++ uid.text
  | .gotoFlow uid => gotoFlowPrefix ++ uid.text
  | .subFlowInput => subFlowInputName
  | .subFlowOutput (some n) => subFlowOutputName ++ toString n
  | .subFlowOutput none => subFlowOutputName

end StepRef

end FlowGraph
