import FlowGraph.Json.Decode
import FlowGraph.Text.Blank
import FlowGraph.Variables

/-!
# Reading typed settings out of a configuration

A value binds as what it is. A text may also hold the JSON of the value, with blanks
around it, and a number or truth value may stand where a text is wanted. A field that
is absent, or holds something else, leaves its setting as it was.
-/

namespace FlowGraph

namespace Json

/-- What a configuration value binds to when it is not itself of the wanted type. -/
def convertIndirectly? {α : Type} (decode : Decoder α) : Json → Option α
  | .str s => (decodeText decode (Text.trim s)).toOption
  | .int n => (Json.decode decode (.str (Json.int n).asText)).toOption
  | .float x => (Json.decode decode (.str (Json.float x).asText)).toOption
  | .bool b => (Json.decode decode (.str (Json.bool b).asText)).toOption
  | _ => none

/-- What a configuration value binds to. -/
def convert? {α : Type} (decode : Decoder α) (v : Json) : Option α :=
  (Json.decode decode v).toOption.or (convertIndirectly? decode v)

end Json

namespace Model

/-- A field that is there and binds. -/
def field? {α : Type} (m : Model) (decode : Json.Decoder α) (name : String) : Option α :=
  (m.get? name).bind (Json.convert? decode)

/-- A setting: its field if that binds, else a default. -/
def setting {α : Type} (m : Model) (decode : Json.Decoder α) (name : String)
    (otherwise : α) : α :=
  (m.field? decode name).getD otherwise

/-- The field is there and does not bind. -/
def isSkipped {α : Type} (m : Model) (decode : Json.Decoder α) (name : String) : Bool :=
  m.contains name && (m.field? decode name).isNone

end Model

end FlowGraph
