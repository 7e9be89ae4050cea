import FlowGraph.Script.Library
import FlowGraph.Script.Place

/-!
# Changing a part of a value

A part is named by the links that lead to it, with their indices already known. A field
that is missing at the end of the links comes into being, and it does so as the unit
even if the value for it cannot be computed.
-/

namespace FlowGraph.Script

/-- A link whose arguments or index are known. -/
inductive BoundLink where
  | property (name : String) (place : Place)
  | method (name : String) (arguments : List Value) (place : Place)
  | index (v : Value) (place bracket : Place)

/-- What is to be put in: a value, or the value of an operator on the old value and a new
one. -/
structure Change where
  op : Option BinaryOp
  value : Value
  /-- The place of the sign. -/
  place : Place

/-- A value after a change, with the fault that stopped it. -/
structure Changed where
  value : Value
  fault : Option Fault

namespace Changed

/-- Nothing was changed. -/
def stopped (v : Value) (c : Cause) (place : Place) : Changed :=
  ⟨v, some (.met c (some place))⟩

/-- The change of a part, seen in the whole. -/
def map (f : Value → Value) (c : Changed) : Changed := ⟨f c.value, c.fault⟩

end Changed

namespace Change

/-- The old value after the change. -/
def on (c : Change) (old : Value) : Changed :=
  match c.op with
  | none => ⟨c.value, none⟩
  | some op =>
    match op.assign old c.value with
    | .ok v => ⟨v, none⟩
    | .error cause => .stopped old cause c.place

end Change

/-- The place of a fault at an index: the bracket if the value has no indices at all. -/
def indexFaultPlace (place bracket : Place) : Cause → Place
  | .noIndexer .. | .readOnlyIndexer .. => bracket
  | _ => place

namespace Value

/-- The text with another character at a place. -/
def setChar (s : String) (k : Nat) : Value → Value
  | char c => str (String.ofList (s.toList.set k c))
  | _ => str s

/-- The map with a new value in a field that had `old`; a missing field on the way to
the part does not come into being. -/
def withField (fields : List (String × Value)) (key : String) (isLast : Bool) (new : Value) :
    Value :=
  if (fields.lookup key).isNone && !isLast then map fields
  else map (Dict.place key new fields)

/-- The change of the part at the end of some links, in the whole value. -/
def change (c : Change) (v : Value) : List BoundLink → Changed
  | [] => c.on v
  | .method name _ place :: _ => .stopped v (.unknownFunction name [v]) place
  | .property name place :: links =>
    let sealed (new : Value) : Changed :=
      .stopped v (.readOnlyProperty name v.typeName new.typeName) place
    match v with
    | map fields =>
      (change c ((fields.lookup name).getD unit) links).map (withField fields name links.isEmpty)
    | v =>
      match Library.property v name with
      | .ok part =>
        let new := change c part links
        if !links.isEmpty || new.fault.isSome then new.map fun _ => v else sealed new.value
      | .error cause =>
        if links.isEmpty && c.op.isNone then sealed c.value else .stopped v cause place
  | .index i place bracket :: links =>
    let stopped (cause : Cause) : Changed :=
      .stopped v cause (indexFaultPlace place bracket cause)
    match v with
    | map fields =>
      match Library.fieldIndex i with
      | .error cause => stopped cause
      | .ok key =>
        (change c ((fields.lookup key).getD unit) links).map (withField fields key links.isEmpty)
    | array items =>
      match Library.placeIn items.length i .arrayIndex with
      | .error cause => stopped cause
      | .ok k =>
        (change c (items[k]?.getD unit) links).map fun new => array (items.set k new)
    | str s =>
      match Library.placeIn s.length i .textIndex with
      | .error cause => stopped cause
      | .ok k =>
        (change c ((s.toList[k]?.map char).getD unit) links).map (setChar s k)
    | v => stopped (.readOnlyIndexer v.typeName i.typeName c.value.typeName)

end Value

end FlowGraph.Script
