import FlowGraph.StepRef
import FlowGraph.Variables

/-!
# Parts and their connections

A part is one node of a flow. Its output connections lead on by output number and its
error connection leads on after a failure. Connections hold signed 32-bit numbers while
outputs are asked for by unsigned ones, so a number is wrapped before it is compared.
-/

namespace FlowGraph

/-- An edge from a numbered output of a part to another part. -/
structure Connection where
  output : Int
  target : Uuid
  deriving DecidableEq

/-- The output number of error connections. -/
def Connection.errorOutput : Int := -1

/-- One node of a flow. -/
structure Part where
  uid : Uuid
  /-- A name shown to users, by which variables can configure the part. -/
  name : Option String
  label : Option String
  /-- What the part refers to. -/
  element : String
  /-- The number of inputs; the entry part of a flow has none. -/
  inputs : Nat
  outputs : Nat
  outputConnections : List Connection
  errorConnection : Option Connection
  model : Model

namespace Part

/-- A part with one input, one output and no connections. -/
def new (element : String) (uid : Uuid) : Part :=
  { uid, name := none, label := none, element, inputs := 1, outputs := 1,
    outputConnections := [], errorConnection := none, model := .empty }

/-- The parsed element designation. -/
def stepRef (p : Part) : Except InvalidFlowRef StepRef := StepRef.parse p.element

/-- Markers and parts that hand over to a flow are not counted as visible steps. -/
@[irreducible] def isExempt (p : Part) : Bool :=
  (p.stepRef.toOption.map StepRef.isExempt).getD false

/-- What follows the last point or colon. -/
def lastSegment (element : String) : String :=
  String.ofList (element.toList.reverse.takeWhile fun c => c != '.' && c != ':').reverse

/-- A text that is there and not empty. -/
def nonEmpty? (s : Option String) : Option String := s.filter (· != "")

/-- The label, else the name, else the end of the element designation. -/
def displayName (p : Part) : String :=
  ((nonEmpty? p.label).or (nonEmpty? p.name)).getD (lastSegment p.element)

/-- The part is where a flow starts. -/
def isEntry (p : Part) : Bool := p.inputs == 0

/-- An unsigned 32-bit number as a signed one of the same bits. -/
def wrapOutput (n : Nat) : Int := (n : Int).bmod UInt32.size

/-- A signed 32-bit number as an unsigned one of the same bits. -/
def unwrapOutput (n : Int) : Nat := (n % UInt32.size).toNat

/-- The first connection of an output. -/
def connectionFor? (p : Part) (output : Nat) : Option Connection :=
  p.outputConnections.find? fun c => c.output == wrapOutput output

/-- The part under a name. -/
def named (p : Part) (name : String) : Part := { p with name := some name }

/-- The part as the start of a flow. -/
def entry (p : Part) : Part := { p with inputs := 0 }

/-- The part with a number of outputs. -/
def withOutputs (p : Part) (n : Nat) : Part := { p with outputs := n }

/-- Adds a connection; the part has at least as many outputs as the connection needs. -/
def connect (p : Part) (output : Nat) (target : Uuid) : Part :=
  { p with
    outputConnections := p.outputConnections ++ [⟨wrapOutput output, target⟩]
    outputs := max p.outputs output }

/-- Sets where failures lead. -/
def onError (p : Part) (target : Uuid) : Part :=
  { p with errorConnection := some ⟨Connection.errorOutput, target⟩ }

/-- Sets one field of the configuration. -/
def withModel (p : Part) (key : String) (value : Json) : Part :=
  { p with model := p.model.insert key value }

end Part

end FlowGraph
