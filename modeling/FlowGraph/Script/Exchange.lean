import FlowGraph.Json.Basic
import FlowGraph.Script.Value

/-!
# JSON values in scripts

The unit is null. Whole numbers beyond the range of scripts become doubles. Going back,
a character becomes a text and a double that JSON lacks becomes null; ranges, and
whatever holds one, have no JSON value.
-/

namespace FlowGraph.Script

namespace Value

mutual

/-- The value of a JSON value. -/
def ofJson : Json → Value
  | .null => unit
  | .bool b => bool b
  | .int n =>
    match inRange? n with
    | some m => int m
    | none => float (toDouble n)
  | .float x => float x
  | .str s => str s
  | .arr items => array (ofJsonItems items)
  | .obj fields => ofFields (ofJsonFields fields)

/-- The values of some items. -/
def ofJsonItems : List Json → List Value
  | [] => []
  | item :: items => ofJson item :: ofJsonItems items

/-- The values of some fields. -/
def ofJsonFields : List (String × Json) → List (String × Value)
  | [] => []
  | (key, value) :: fields => (key, ofJson value) :: ofJsonFields fields

end

mutual

/-- The JSON value of a value, if it has one. -/
def toJson? : Value → Option Json
  | unit => some .null
  | bool b => some (.bool b)
  | int n => some (.int n)
  | float x => some (if x.isNaN || x.isInf then .null else .float x)
  | char c => some (.str c.toString)
  | str s => some (.str s)
  | array items => (toJsonItems? items).map .arr
  | map fields => (toJsonFields? fields).map .obj
  | range _ _ _ => none

/-- The JSON values of some items, if all have one. -/
def toJsonItems? : List Value → Option (List Json)
  | [] => some []
  | item :: items => do return (← toJson? item) :: (← toJsonItems? items)

/-- The JSON values of some fields, if all have one. -/
def toJsonFields? : List (String × Value) → Option (List (String × Json))
  | [] => some []
  | (key, value) :: fields => do return (key, ← toJson? value) :: (← toJsonFields? fields)

end

end Value

end FlowGraph.Script
