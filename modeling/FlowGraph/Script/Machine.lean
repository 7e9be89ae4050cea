import FlowGraph.Script.Call
import FlowGraph.Script.Fault

/-!
# The state of a running script

A machine holds the variables in scope and the calls that were made. Running a phrase
gives a value, or is interrupted by a fault or by a word that leaves a loop or a
function; the machine goes on in both cases.
-/

namespace FlowGraph.Script

/-- A variable. -/
structure Binding where
  name : String
  value : Value
  constant : Bool

/-- The state of a running script. -/
structure Machine where
  /-- The variables in scope, innermost first. -/
  bindings : List Binding
  /-- The value that the running function was called on. -/
  self : Option Value
  /-- The functions that are running. -/
  level : Nat
  /-- The calls made, last one first. -/
  calls : List ScriptCall

/-- Why a phrase does not come to its value. -/
inductive Interrupt where
  | fault (f : Fault)
  /-- The function or the script ends with a value. -/
  | back (v : Value)
  /-- The innermost loop ends with a value. -/
  | leave (v : Value)
  /-- The innermost loop goes on with its next turn. -/
  | again

/-- Running a phrase. -/
abbrev Eval := EStateM Interrupt Machine

namespace Eval

/-- Stops with a fault. -/
def fail {α : Type} (c : Cause) (place : Place) : Eval α :=
  throw (.fault (.met c (some place)))

/-- The result of a computation whose fault belongs to a place. -/
def lift {α : Type} (place : Cause → Place) (r : Except Cause α) : Eval α :=
  match r with
  | .ok a => return a
  | .error c => fail c (place c)

/-- Runs with the variables in scope as they were before, whatever the end is. -/
def within {α : Type} (run : Eval α) : Eval α := fun m =>
  let restored (after : Machine) : Machine :=
    { after with bindings := after.bindings.drop (after.bindings.length - m.bindings.length) }
  match run m with
  | .ok a after => .ok a (restored after)
  | .error e after => .error e (restored after)

/-- The variable of a name. -/
def lookup (name : String) (place : Place) : Eval Binding := do
  match (← get).bindings.find? fun b => b.name == name with
  | some b => return b
  | none => fail (.unknownVariable name) place

/-- The bindings with another value under a name. -/
def rebound (name : String) (v : Value) : List Binding → List Binding
  | [] => []
  | b :: bs => if b.name == name then { b with value := v } :: bs else b :: rebound name v bs

/-- Puts a value into a variable in scope. -/
def put (name : String) (v : Value) : Eval Unit :=
  modify fun m => { m with bindings := rebound name v m.bindings }

/-- Brings a variable into scope. -/
def bind (b : Binding) : Eval Unit :=
  modify fun m => { m with bindings := b :: m.bindings }

/-- The value that the running function was called on. -/
def self (place : Place) : Eval Value := do
  match (← get).self with
  | some v => return v
  | none => fail .noSelf place

/-- The truth value that a value is. -/
def truth (v : Value) (place : Place) : Eval Bool :=
  match v with
  | .bool b => return b
  | v => fail (.wrongType v.typeName (Value.bool true).typeName) place

end Eval

end FlowGraph.Script
