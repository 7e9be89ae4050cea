import FlowGraph.Dict

/-!
# JSON values

Numbers are whole numbers or doubles, as the text spelled them. An object is a list of
fields; values that come out of `Json.ofDict` have their fields in rising key order
with no key twice, which `Canonical` says of a value and everything inside it.
-/

namespace FlowGraph

/-- A JSON value. -/
inductive Json where
  | null
  | bool (b : Bool)
  | int (n : Int)
  | float (x : Float)
  | str (s : String)
  | arr (items : List Json)
  | obj (fields : List (String × Json))
  deriving Inhabited, BEq

namespace Json

/-- The object of a dict. -/
def ofDict (d : Dict Json) : Json := .obj d.entries

/-- A text or null. -/
def ofText? : Option String → Json
  | some s => .str s
  | none => .null

/-- A whole number or null. -/
def ofInt? : Option Int → Json
  | some n => .int n
  | none => .null

/-- A list of texts. -/
def texts (ss : List String) : Json := .arr (ss.map .str)

/-- The value of a field of an object. -/
def field? (key : String) : Json → Option Json
  | .obj fields => fields.lookup key
  | _ => none

mutual

/-- Every object inside the value lists its fields in rising key order. -/
def Canonical : Json → Prop
  | .arr items => CanonicalItems items
  | .obj fields => Rising fields ∧ CanonicalFields fields
  | _ => True

/-- `Canonical` of every item. -/
def CanonicalItems : List Json → Prop
  | [] => True
  | item :: rest => Canonical item ∧ CanonicalItems rest

/-- `Canonical` of every field's value. -/
def CanonicalFields : List (String × Json) → Prop
  | [] => True
  | (_, value) :: rest => Canonical value ∧ CanonicalFields rest

end

end Json

end FlowGraph
