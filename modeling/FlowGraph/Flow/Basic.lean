import FlowGraph.Flow.Part

/-!
# Flows and their problems

A flow is a graph of parts. It starts at its only part without inputs; `problems` lists
everything else that is wrong with the graph as well, though flows with problems can
be walked.
-/

namespace FlowGraph

/-- What a flow is for. -/
inductive FlowKind where
  | normal
  /-- Run after another run has failed. -/
  | failure
  /-- Only called from other flows. -/
  | subFlow
  deriving DecidableEq

/-- The name of a kind of flows. -/
def FlowKind.text : FlowKind → String
  | .normal => "normal"
  | .failure => "failure"
  | .subFlow => "sub_flow"

/-- A graph of parts with the variables it declares. -/
structure Flow where
  uid : Uuid
  name : String
  kind : FlowKind
  /-- The node count from which the step ceiling is derived. -/
  maxNodes : Option Nat
  vars : Variables
  parts : List Part

/-- Something wrong with the graph of a flow. -/
inductive Problem where
  | noEntryPart (flow : String)
  | multipleEntryParts (flow : String) (count : Nat)
  | duplicatePart (flow : String) (part : Uuid)
  | outputOutOfRange (part : Uuid) (output : Int) (outputs : Nat)
  | danglingConnection (part target : Uuid)
  deriving DecidableEq

/-- The wording of a problem. -/
def Problem.message : Problem → String
  | .noEntryPart flow => "flow '" ++ flow ++ "' has no entry part"
  | .multipleEntryParts flow count =>
    "flow '" ++ flow ++ "' has " ++ toString count ++ " entry parts"
  | .duplicatePart flow part => "flow '" ++ flow ++ "' has duplicate part " ++ part.text
  | .outputOutOfRange part output outputs =>
    "part " ++ part.text ++ " connects output " ++ toString output ++ " but declares " ++
      toString outputs ++ " outputs"
  | .danglingConnection part target =>
    "part " ++ part.text ++ " connects to missing part " ++ target.text

namespace Flow

/-- A flow without parts. -/
def new (name : String) (kind : FlowKind) (uid : Uuid) : Flow :=
  { uid, name, kind, maxNodes := none, vars := .empty, parts := [] }

/-- The first part of a uid. -/
def part? (f : Flow) (uid : Uuid) : Option Part := f.parts.find? fun p => p.uid == uid

/-- The only part without inputs. -/
def entryPart (f : Flow) : Except Problem Part :=
  match f.parts.filter Part.isEntry with
  | [] => .error (.noEntryPart f.name)
  | [p] => .ok p
  | ps => .error (.multipleEntryParts f.name ps.length)

/-- The problem of the entry, if it has one. -/
def entryProblems (f : Flow) : List Problem :=
  match f.entryPart with
  | .ok _ => []
  | .error e => [e]

/-- The parts whose uid is that of a part before them; `seen` holds the uids so far. -/
def repeated (seen : List Uuid) : List Part → List Uuid
  | [] => []
  | p :: ps => if p.uid ∈ seen then p.uid :: repeated seen ps else repeated (p.uid :: seen) ps

/-- A connection of the part leaves from an output it does not have. -/
def isOutOfRange (p : Part) (c : Connection) : Bool :=
  c.output < 1 || Part.unwrapOutput c.output > p.outputs

/-- The problems of one part's connections. -/
def connectionProblems (f : Flow) (p : Part) : List Problem :=
  (p.outputConnections.filter (isOutOfRange p)).map
      (fun c => .outputOutOfRange p.uid c.output p.outputs) ++
    ((p.outputConnections ++ p.errorConnection.toList).filter
      fun c => (f.part? c.target).isNone).map fun c => .danglingConnection p.uid c.target

/-- Everything wrong with the graph; nothing if it is well formed. -/
def problems (f : Flow) : List Problem :=
  f.entryProblems ++ (repeated [] f.parts).map (.duplicatePart f.name) ++
    f.parts.flatMap f.connectionProblems

end Flow

end FlowGraph
