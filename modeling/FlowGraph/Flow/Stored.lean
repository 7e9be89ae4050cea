import FlowGraph.Flow.Basic
import FlowGraph.Json.Decode

/-!
# Flows as JSON

A flow definition is an object with the fields of the flow. Fields that may be absent
have a default, and absent options are not written.
-/

namespace FlowGraph

open Json (required defaulted)

/-- The kinds of flows by name. -/
def FlowKind.named : List (String × FlowKind) :=
  [("normal", .normal), ("failure", .failure), ("sub_flow", .subFlow)]

/-- Reads a connection. -/
def Connection.decoder : Json.Decoder Connection :=
  Json.record "Connection"
    (.cons (required "output" Json.int32) <|
     .cons (required "target" Json.uuid) .nil)
    fun (output, target, _) => { output, target }

/-- Reads a part. -/
def Part.decoder : Json.Decoder Part :=
  Json.record "Part"
    (.cons (required "uid" Json.uuid) <|
     .cons (defaulted "name" (Json.optional Json.text) none) <|
     .cons (defaulted "label" (Json.optional Json.text) none) <|
     .cons (required "element" Json.text) <|
     .cons (defaulted "inputs" Json.natural32 0) <|
     .cons (defaulted "outputs" Json.natural32 0) <|
     .cons (defaulted "output_connections" (Json.list Connection.decoder) []) <|
     .cons (defaulted "error_connection" (Json.optional Connection.decoder) none) <|
     .cons (defaulted "model" (Json.dict Json.anyValue) .empty) .nil)
    fun (uid, name, label, element, inputs, outputs, outputConnections, errorConnection,
        model, _) =>
      { uid, name, label, element, inputs, outputs, outputConnections, errorConnection, model }

/-- Reads a flow. -/
def Flow.decoder : Json.Decoder Flow :=
  Json.record "Flow"
    (.cons (required "uid" Json.uuid) <|
     .cons (required "name" Json.text) <|
     .cons (defaulted "kind" (Json.variant FlowKind.named) .normal) <|
     .cons (defaulted "max_nodes" (Json.optional Json.count) none) <|
     .cons (defaulted "variables" (Json.dict Json.anyValue) .empty) <|
     .cons (defaulted "parts" (Json.list Part.decoder) []) .nil)
    fun (uid, name, kind, maxNodes, vars, parts, _) =>
      { uid, name, kind, maxNodes, vars, parts }

/-- A field that is only written when it has a value. -/
def Json.present {α : Type} (key : String) (encode : α → Json) : Option α → List (String × Json)
  | some a => [(key, encode a)]
  | none => []

/-- A connection as JSON. -/
def Connection.toJson (c : Connection) : Json :=
  .obj [("output", .int c.output), ("target", .str c.target.text)]

/-- A part as JSON. -/
def Part.toJson (p : Part) : Json :=
  .obj ([("uid", .str p.uid.text)] ++ Json.present "name" .str p.name ++
    Json.present "label" .str p.label ++
    [("element", .str p.element), ("inputs", .int p.inputs), ("outputs", .int p.outputs),
     ("output_connections", .arr (p.outputConnections.map Connection.toJson))] ++
    Json.present "error_connection" Connection.toJson p.errorConnection ++
    [("model", .ofDict p.model)])

/-- A flow as JSON. -/
def Flow.toJson (f : Flow) : Json :=
  .obj ([("uid", .str f.uid.text), ("name", .str f.name), ("kind", .str f.kind.text)] ++
    Json.present "max_nodes" (fun n => .int (n : Nat)) f.maxNodes ++
    [("variables", .ofDict f.vars), ("parts", .arr (f.parts.map Part.toJson))])

end FlowGraph
