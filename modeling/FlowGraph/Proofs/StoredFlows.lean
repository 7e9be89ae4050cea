import FlowGraph.Files.Loading
import FlowGraph.Proofs.Yields

/-!
# Flows survive storage

A flow that is encoded and decoded again is the same flow. Every field that is left out of the
text has for a default just the value that it is left out for, and numbers keep within the ranges
of their fields. What a decoder accepts keeps within these ranges by itself, so a flow that was
read from any text at all, however it was written, can be stored and read again.
-/

namespace FlowGraph

open Json (required defaulted)

/-- The number of the output has 32 bits with a sign. -/
def Connection.Fits (c : Connection) : Prop := -0x80000000 ≤ c.output ∧ c.output ≤ 0x7fffffff

/-- The numbers of the part have the bits of their fields, and the objects of its configuration
have their keys in rising order. -/
structure Part.Fits (p : Part) : Prop where
  inputs : p.inputs < UInt32.size
  outputs : p.outputs < UInt32.size
  outputConnections : ∀ c ∈ p.outputConnections, c.Fits
  errorConnection : ∀ c ∈ p.errorConnection, c.Fits
  model : ∀ e ∈ p.model.entries, e.2.Canonical

/-- The numbers of the flow and its parts have the bits of their fields, and the objects among its
variables have their keys in rising order. -/
structure Flow.Fits (f : Flow) : Prop where
  maxNodes : ∀ n ∈ f.maxNodes, n < UInt64.size
  vars : ∀ e ∈ f.vars.entries, e.2.Canonical
  parts : ∀ p ∈ f.parts, p.Fits

/-- Every number in the variables of the flow and in the configurations of its parts is whole and
fits 64 bits, with a sign or without. -/
structure Flow.HoldsWhole (f : Flow) : Prop where
  vars : ∀ e ∈ f.vars.entries, e.2.IsWhole
  models : ∀ p ∈ f.parts, ∀ e ∈ p.model.entries, e.2.IsWhole

/-- The flow is decoded from both of its texts, and loaded from a file with one of them. -/
def Flow.ReadsBack (f : Flow) : Prop :=
  ∀ text ∈ [f.toJson.compact, f.toJson.indented],
    Json.decodeText Flow.decoder text = .ok f ∧
      ∀ (files : FileTree) (path : Path), files.readText path = .ok text →
        files.loadFlow path = .ok f

/-! ## What was written is read -/

/-- An optional field that is left out when it has no value. -/
theorem Json.Writes.present {α : Type} {ts : List Type} {fs : Json.Fields ts}
    {vs : Json.Values ts} {es : List (String × Json)} {decoder : Json.Decoder α}
    {encode : α → Json} (name : String) {value : Option α}
    (reads : ∀ a ∈ value, decoder.Reads (encode a) a) (there : ∀ a, encode a ≠ .null)
    (rest : Json.Writes fs vs es) :
    Json.Writes (.cons (defaulted name (Json.optional decoder) none) fs) (value, vs)
      (Json.present name encode value ++ es) := by
  cases value with
  | none => exact .omitted rfl rest
  | some a => exact .written ((reads a rfl).optional (there a)) rest

/-- The values of the fields of a connection. -/
def Connection.values (c : Connection) : Json.Values [Int, Uuid] := (c.output, c.target, ())

/-- The values of the fields of a part. -/
def Part.values (p : Part) : Json.Values [Uuid, Option String, Option String, String, Nat, Nat,
    List Connection, Option Connection, Model] :=
  (p.uid, p.name, p.label, p.element, p.inputs, p.outputs, p.outputConnections, p.errorConnection,
    p.model, ())

/-- The values of the fields of a flow. -/
def Flow.values (f : Flow) :
    Json.Values [Uuid, String, FlowKind, Option Nat, Variables, List Part] :=
  (f.uid, f.name, f.kind, f.maxNodes, f.vars, f.parts, ())

theorem Connection.reads {c : Connection} (fits : c.Fits) :
    Connection.decoder.Reads c.toJson c := by
  have target := Json.reads_uuid (Uuid.parse?_text c.target)
  refine Json.reads_record (?_ : Json.Writes _ c.values _) (by decide) "Connection" _
  exact .written (Json.reads_int32 fits) (.written target .nil)

/-- A dict of values whose objects have their keys in rising order is read as itself. -/
theorem Json.reads_values {d : Dict Json} (canonical : ∀ e ∈ d.entries, e.2.Canonical) :
    (Json.dict Json.anyValue).Reads (.ofDict d) d :=
  Json.reads_dict fun e mem => Json.reads_anyValue (canonical e mem)

theorem Part.reads {p : Part} (fits : p.Fits) : Part.decoder.Reads p.toJson p := by
  have connections : (Json.list Connection.decoder).Reads
      (.arr (p.outputConnections.map Connection.toJson)) p.outputConnections :=
    Json.reads_list fun c mem => Connection.reads (fits.outputConnections c mem)
  unfold Part.toJson
  simp only [List.append_assoc, List.cons_append, List.nil_append]
  refine Json.reads_record (?_ : Json.Writes _ p.values _) (by decide) "Part" _
  exact .written (Json.reads_uuid (Uuid.parse?_text p.uid)) <|
    .present "name" (fun s _ => Json.reads_text s) nofun <|
    .present "label" (fun s _ => Json.reads_text s) nofun <|
    .written (Json.reads_text p.element) <|
    .written (Json.reads_natural32 fits.inputs) <|
    .written (Json.reads_natural32 fits.outputs) <|
    .written connections <|
    .present "error_connection" (fun c mem => Connection.reads (fits.errorConnection c mem))
      nofun <|
    .written (Json.reads_values fits.model) .nil

theorem FlowKind.lookup_text (kind : FlowKind) : FlowKind.named.lookup kind.text = some kind := by
  cases kind with
  | normal | failure | subFlow => rfl

theorem Flow.reads {f : Flow} (fits : f.Fits) : Flow.decoder.Reads f.toJson f := by
  have parts : (Json.list Part.decoder).Reads (.arr (f.parts.map Part.toJson)) f.parts :=
    Json.reads_list fun p mem => Part.reads (fits.parts p mem)
  unfold Flow.toJson
  simp only [List.cons_append, List.nil_append]
  refine Json.reads_record (?_ : Json.Writes _ f.values _) (by decide) "Flow" _
  exact .written (Json.reads_uuid (Uuid.parse?_text f.uid)) <|
    .written (Json.reads_text f.name) <|
    .written (Json.reads_variant f.kind.lookup_text) <|
    .present "max_nodes" (fun n mem => Json.reads_count (fits.maxNodes n mem)) nofun <|
    .written (Json.reads_values fits.vars) <|
    .written parts .nil

/-! ## What is written

What holds of the values under the fields of a part or a flow holds of all that is written of it;
so its text is whole and nested as deeply as that of its values.
-/

theorem Json.forall_present {α : Type} {Q : Json → Prop} {name : String} {encode : α → Json}
    {value : Option α} (each : ∀ a ∈ value, Q (encode a)) :
    ∀ e ∈ Json.present name encode value, Q e.2 := by
  cases value with
  | none => exact List.forall_mem_nil _
  | some a =>
    intro e mem
    rw [List.mem_singleton.1 mem]
    exact each a rfl

theorem Part.forall_toJson (Q : Json → Prop) {p : Part} {fields : List (String × Json)}
    (object : p.toJson = .obj fields) (texts : ∀ s, Q (.str s)) (inputs : Q (.int p.inputs))
    (outputs : Q (.int p.outputs))
    (outputConnections : Q (.arr (p.outputConnections.map Connection.toJson)))
    (errorConnection : ∀ c ∈ p.errorConnection, Q c.toJson) (model : Q (.ofDict p.model)) :
    ∀ e ∈ fields, Q e.2 := by
  cases object
  have none := List.forall_mem_nil fun e : String × Json => Q e.2
  simp only [List.forall_mem_append, List.forall_mem_cons]
  refine ⟨⟨⟨⟨⟨⟨texts _, none⟩, ?_⟩, ?_⟩, ?_⟩, ?_⟩, ⟨model, none⟩⟩
  · exact Json.forall_present fun s _ => texts s
  · exact Json.forall_present fun s _ => texts s
  · exact ⟨texts _, inputs, outputs, outputConnections, none⟩
  · exact Json.forall_present errorConnection

theorem Flow.forall_toJson (Q : Json → Prop) {f : Flow} {fields : List (String × Json)}
    (object : f.toJson = .obj fields) (texts : ∀ s, Q (.str s))
    (maxNodes : ∀ n ∈ f.maxNodes, Q (.int (n : Nat))) (vars : Q (.ofDict f.vars))
    (parts : Q (.arr (f.parts.map Part.toJson))) : ∀ e ∈ fields, Q e.2 := by
  cases object
  have none := List.forall_mem_nil fun e : String × Json => Q e.2
  simp only [List.forall_mem_append, List.forall_mem_cons]
  refine ⟨⟨⟨texts _, texts _, texts _, none⟩, ?_⟩, ⟨vars, parts, none⟩⟩
  exact Json.forall_present maxNodes

theorem Connection.isWhole_toJson {c : Connection} (fits : c.Fits) : c.toJson.IsWhole :=
  ⟨Json.isWhole_int32 fits, trivial, trivial⟩

theorem Part.isWhole_toJson {p : Part} (fits : p.Fits)
    (whole : ∀ e ∈ p.model.entries, e.2.IsWhole) : p.toJson.IsWhole := by
  refine Json.wholeFields_iff.2 (Part.forall_toJson Json.IsWhole rfl (fun _ => trivial)
    (Json.isWhole_natural32 fits.inputs) (Json.isWhole_natural32 fits.outputs) ?_ ?_ ?_)
  · exact Json.isWhole_map fun c mem => Connection.isWhole_toJson (fits.outputConnections c mem)
  · exact fun c mem => Connection.isWhole_toJson (fits.errorConnection c mem)
  · exact Json.wholeFields_iff.2 whole

theorem Flow.isWhole_toJson {f : Flow} (fits : f.Fits) (holds : f.HoldsWhole) :
    f.toJson.IsWhole := by
  refine Json.wholeFields_iff.2
    (Flow.forall_toJson Json.IsWhole rfl (fun _ => trivial) ?_ ?_ ?_)
  · exact fun n mem => Json.isWhole_natural64 (fits.maxNodes n mem)
  · exact Json.wholeFields_iff.2 holds.vars
  · exact Json.isWhole_map fun p mem => Part.isWhole_toJson (fits.parts p mem) (holds.models p mem)

theorem Part.depth_toJson_le {p : Part} {n : Nat}
    (model : ∀ e ∈ p.model.entries, e.2.depth ≤ n + 1) : p.toJson.depth ≤ n + 3 := by
  have flat (c : Connection) : c.toJson.depth = 1 := rfl
  refine Nat.succ_le_succ (Json.depthOfFields_le.2 (Part.forall_toJson (fun v => v.depth ≤ n + 2)
    rfl (fun _ => Nat.zero_le _) (Nat.zero_le _) (Nat.zero_le _) ?_ ?_ ?_))
  · refine Nat.le_trans (Json.depth_map_le fun c _ => Nat.le_of_eq (flat c)) ?_
    omega
  · intro c _
    rw [flat]
    omega
  · exact Nat.succ_le_succ (Json.depthOfFields_le.2 model)

theorem Flow.depth_toJson_le {f : Flow} {n : Nat}
    (vars : ∀ e ∈ f.vars.entries, e.2.depth ≤ n + 3)
    (models : ∀ p ∈ f.parts, ∀ e ∈ p.model.entries, e.2.depth ≤ n + 1) :
    f.toJson.depth ≤ n + 5 := by
  refine Nat.succ_le_succ (Json.depthOfFields_le.2 (Flow.forall_toJson (fun v => v.depth ≤ n + 4)
    rfl (fun _ => Nat.zero_le _) (fun _ _ => Nat.zero_le _) ?_ ?_))
  · exact Nat.succ_le_succ (Json.depthOfFields_le.2 vars)
  · exact Json.depth_map_le fun p mem => Part.depth_toJson_le (models p mem)

/-! ## What is read fits -/

theorem Connection.gives_decoder : Connection.decoder.Gives fun _ c => c.Fits := by
  intro room d
  have fields : Json.Fields.Gives
      (.cons (required "output" Json.int32) (.cons (required "target" Json.uuid) .nil))
      (.cons (fun _ n => -0x80000000 ≤ n ∧ n ≤ 0x7fffffff) (.cons (fun _ _ => True) .nil)) :=
    .cons (Json.gives_intWithin _ _ "i32") (fun _ => nofun)
      (.cons (Json.Decoder.gives_true _) (fun _ => nofun) .nil)
  refine (fields.record "Connection" _ room d).imp ?_
  rintro _ ⟨⟨output, target, _⟩, ⟨fits, -⟩, rfl⟩
  exact fits

/-- The values of a dict that is decoded fit in the room that is left inside of it. -/
theorem Json.gives_values : (Json.dict Json.anyValue).Gives fun room d =>
    ∀ e ∈ d.entries, Json.FitsIn (room - 1) e.2 :=
  Json.Decoder.Gives.dict Json.gives_anyValue

/-- What is decoded of a part: its numbers fit, and so does its configuration. -/
def Part.guards : Json.Guards [Uuid, Option String, Option String, String, Nat, Nat,
    List Connection, Option Connection, Model] :=
  .cons (fun _ _ => True) <| .cons (fun _ _ => True) <| .cons (fun _ _ => True) <|
  .cons (fun _ _ => True) <| .cons (fun _ n => n < UInt32.size) <|
  .cons (fun _ n => n < UInt32.size) <| .cons (fun _ cs => ∀ c ∈ cs, c.Fits) <|
  .cons (fun _ c? => ∀ c ∈ c?, c.Fits) <|
  .cons (fun room d => ∀ e ∈ d.entries, Json.FitsIn (room - 1) e.2) .nil

theorem Part.gives_decoder : Part.decoder.Gives fun room p =>
    p.Fits ∧ ∀ e ∈ p.model.entries, e.2.depth ≤ room - 2 := by
  intro room d
  have free {α : Type} (decoder : Json.Decoder α) : decoder.Gives fun _ _ => True :=
    Json.Decoder.gives_true decoder
  refine ((?_ : Json.Fields.Gives _ Part.guards).record "Part" _ room d).imp ?_
  · have zero : ∀ room : Nat, ∀ n ∈ some 0, n < UInt32.size := by
      rintro room _ ⟨⟩
      decide
    have free {α : Type} (decoder : Json.Decoder α) : decoder.Gives fun _ _ => True :=
      Json.Decoder.gives_true decoder
    refine .cons (free _) (fun _ => nofun) <|
      .cons (free _) (fun _ _ _ => trivial) <|
      .cons (free _) (fun _ _ _ => trivial) <|
      .cons (free _) (fun _ => nofun) <|
      .cons Json.gives_natural32 zero <|
      .cons Json.gives_natural32 zero <|
      .cons Connection.gives_decoder.list ?_ <|
      .cons Connection.gives_decoder.optional ?_ <|
      .cons Json.gives_values ?_ .nil
    · rintro _ _ ⟨⟩
      exact List.forall_mem_nil _
    · rintro _ _ ⟨⟩
      exact nofun
    · rintro _ _ ⟨⟩
      exact List.forall_mem_nil _
  · rintro _ ⟨⟨uid, name, label, element, inputs, outputs, outputConnections, errorConnection,
      model, _⟩, ⟨-, -, -, -, hinputs, houtputs, hconnections, herror, hmodel, -⟩, rfl⟩
    exact ⟨⟨hinputs, houtputs, hconnections, herror, fun e mem => (hmodel e mem).canonical⟩,
      fun e mem => (hmodel e mem).depth⟩

/-- What is decoded of a flow: its numbers fit, and so do its variables and its parts. -/
def Flow.guards : Json.Guards [Uuid, String, FlowKind, Option Nat, Variables, List Part] :=
  .cons (fun _ _ => True) <| .cons (fun _ _ => True) <| .cons (fun _ _ => True) <|
  .cons (fun _ n? => ∀ n ∈ n?, n < UInt64.size) <|
  .cons (fun room d => ∀ e ∈ d.entries, Json.FitsIn (room - 1) e.2) <|
  .cons (fun room ps => ∀ p ∈ ps, p.Fits ∧ ∀ e ∈ p.model.entries, e.2.depth ≤ room - 1 - 2) .nil

theorem Flow.gives_decoder : Flow.decoder.Gives fun room f =>
    f.Fits ∧ (∀ e ∈ f.vars.entries, e.2.depth ≤ room - 2) ∧
      ∀ p ∈ f.parts, ∀ e ∈ p.model.entries, e.2.depth ≤ room - 4 := by
  intro room d
  have free {α : Type} (decoder : Json.Decoder α) : decoder.Gives fun _ _ => True :=
    Json.Decoder.gives_true decoder
  refine ((?_ : Json.Fields.Gives _ Flow.guards).record "Flow" _ room d).imp ?_
  · refine .cons (free _) (fun _ => nofun) <|
      .cons (free _) (fun _ => nofun) <|
      .cons (free _) (fun _ _ _ => trivial) <|
      .cons Json.gives_count.optional ?_ <|
      .cons Json.gives_values ?_ <|
      .cons Part.gives_decoder.list ?_ .nil
    · rintro _ _ ⟨⟩
      exact nofun
    · rintro _ _ ⟨⟩
      exact List.forall_mem_nil _
    · rintro _ _ ⟨⟩
      exact List.forall_mem_nil _
  · rintro _ ⟨⟨uid, name, kind, maxNodes, vars, parts, _⟩, ⟨-, -, -, hmax, hvars, hparts, -⟩, rfl⟩
    exact ⟨⟨hmax, fun e mem => (hvars e mem).canonical, fun p mem => (hparts p mem).1⟩,
      fun e mem => (hvars e mem).depth, fun p mem => (hparts p mem).2⟩

/-! ## There and back -/

/-- A flow that fits is read back from what is written of it. -/
theorem Flow.Fits.readsBack {f : Flow} (fits : f.Fits) (holds : f.HoldsWhole)
    (shallow : f.toJson.depth ≤ Json.maxDepth) : f.ReadsBack := by
  obtain ⟨compact, indented⟩ :=
    (Flow.reads fits).decodeText (Flow.isWhole_toJson fits holds) shallow
  intro text among
  have decodes : Json.decodeText Flow.decoder text = .ok f := by
    simp only [List.mem_cons, List.not_mem_nil, or_false] at among
    rcases among with rfl | rfl
    · exact compact
    · exact indented
  refine ⟨decodes, ?_⟩
  intro files path holds
  have loaded : files.loadText path = .ok text := by
    rw [FileTree.loadText, holds]
  simp only [FileTree.loadFlow, loaded, bind, Except.bind, decodes]

/-- A flow that some text decodes to fits, and its own text is not nested too deeply. -/
theorem Flow.fits_of_decodeText {text : String} {f : Flow}
    (decodes : Json.decodeText Flow.decoder text = .ok f) :
    f.Fits ∧ f.toJson.depth ≤ Json.maxDepth := by
  obtain ⟨fits, vars, models⟩ := Flow.gives_decoder.decodeText decodes
  have shallow : f.toJson.depth ≤ 122 + 5 := Flow.depth_toJson_le vars models
  exact ⟨fits, shallow⟩

/-- **Flows survive storage.** A flow whose numbers fit their fields, and whose variables and
configurations hold whole numbers of 64 bits, is read back from its text, on one line or indented,
and from a file that holds the text, if it is nested no deeper than a text may be. And whatever
text a flow was decoded from, with fields missing or in another order, with null for absent
options, with records written as lists or with uuids in another form, the flow is read back from
its own text if it holds whole numbers. -/
theorem flow_is_read_back :
    (∀ f : Flow, f.Fits → f.HoldsWhole → f.toJson.depth ≤ Json.maxDepth → f.ReadsBack) ∧
      ∀ (text : String) (f : Flow), Json.decodeText Flow.decoder text = .ok f → f.HoldsWhole →
        f.ReadsBack := by
  constructor
  · intro f fits holds shallow
    exact fits.readsBack holds shallow
  · intro text f decodes holds
    obtain ⟨fits, shallow⟩ := Flow.fits_of_decodeText decodes
    exact fits.readsBack holds shallow

namespace Sample

/-- A part with the greatest numbers that it can hold, and connections of the least output and of
the greatest one. -/
def storedPart : Part :=
  { Part.new "Std.Print" default with
    inputs := 0xffffffff
    outputs := 0xffffffff
    outputConnections := [⟨-0x80000000, default⟩, ⟨0x7fffffff, default⟩]
    errorConnection := some ⟨Connection.errorOutput, default⟩
    model := .ofList [("Text", .arr [.str "\u00e9", .int (-1)])] }

/-- A flow with the greatest numbers that it can hold. -/
def stored : Flow :=
  { Flow.new "a \"b\"\n" .failure default with
    maxNodes := some 0xffffffffffffffff
    vars := .ofList [("range", .arr [.int (-0x8000000000000000), .int 0xffffffffffffffff])]
    parts := [storedPart] }

theorem fits_storedPart : storedPart.Fits where
  inputs := by decide
  outputs := by decide
  outputConnections := by
    intro c mem
    rcases List.mem_cons.1 mem with rfl | mem
    · exact ⟨by decide, by decide⟩
    · obtain rfl := List.mem_singleton.1 mem
      exact ⟨by decide, by decide⟩
  errorConnection := by
    rintro _ ⟨⟩
    exact ⟨by decide, by decide⟩
  model := by
    intro e mem
    obtain rfl := List.mem_singleton.1 mem
    exact ⟨trivial, trivial, trivial⟩

theorem fits_stored : stored.Fits where
  maxNodes := by
    rintro _ ⟨⟩
    decide
  vars := by
    intro e mem
    obtain rfl := List.mem_singleton.1 mem
    exact ⟨trivial, trivial, trivial⟩
  parts := by
    intro p mem
    rw [List.mem_singleton.1 mem]
    exact fits_storedPart

theorem holdsWhole_stored : stored.HoldsWhole where
  vars := by
    intro e mem
    obtain rfl := List.mem_singleton.1 mem
    exact ⟨⟨by decide, by decide⟩, ⟨by decide, by decide⟩, trivial⟩
  models := by
    intro p inFlow e mem
    obtain rfl := List.mem_singleton.1 inFlow
    obtain rfl := List.mem_singleton.1 mem
    exact ⟨trivial, ⟨by decide, by decide⟩, trivial⟩

/-- A part with a connection of the least output and a configuration. -/
def listedPart : Part :=
  { Part.new "Std.Print" default with
    inputs := 0
    outputs := 0
    outputConnections := [⟨-0x80000000, default⟩]
    model := .ofList [("Text", .str "a")] }

/-- A flow written as a list, with the digits of its uid alone, its kind as an object, a part with
its fields in another order, and nothing of what they can do without. -/
def asList : Json :=
  let uid : Json := .str "00000000000000000000000000000000"
  .arr [uid, .str "listed", .obj [("normal", .null)], .null, .obj [],
    .arr [.obj [("model", .obj [("Text", .str "a")]),
      ("output_connections", .arr [.arr [.int (-0x80000000), uid]]),
      ("element", .str "Std.Print"), ("uid", uid)]]]

/-- The flow that was written as a list. -/
def listedFlow : Flow := { Flow.new "listed" .normal default with parts := [listedPart] }

theorem decodeText_asList : Json.decodeText Flow.decoder asList.compact = .ok listedFlow := by
  have whole : asList.IsWhole := by
    simp [asList, Json.IsWhole, Json.WholeItems, Json.WholeFields]
  have draft : Flow.decoder (.text Json.maxDepth) (Json.toDraft asList) = .ok listedFlow := by
    rfl
  exact (Json.decodeText_of_draft whole draft).1

end Sample

/-- A flow with the greatest numbers is read back, and so is one that was written as a list. -/
theorem listed_flow_is_read_back : Sample.stored.ReadsBack ∧ Sample.listedFlow.ReadsBack := by
  obtain ⟨fitting, decoded⟩ := flow_is_read_back
  constructor
  · exact fitting Sample.stored Sample.fits_stored Sample.holdsWhole_stored (by decide)
  · refine decoded Sample.asList.compact _ Sample.decodeText_asList ⟨List.forall_mem_nil _, ?_⟩
    intro p inFlow e mem
    obtain rfl := List.mem_singleton.1 inFlow
    obtain rfl := List.mem_singleton.1 mem
    trivial

end FlowGraph
