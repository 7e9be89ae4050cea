import FlowGraph.Json.Reading
import FlowGraph.Json.Text
import FlowGraph.Text.Quoted
import FlowGraph.Uuid

/-!
# Decoding JSON into typed values

A decoder takes a draft apart from left to right and stops at the first thing that
does not fit, so a mistake in the shape of a value is reported before a fault in the
text after it. Drafts come from a text, which may nest 127 brackets deep, or from a
value at hand, which has no such limit and no repeated fields.
-/

namespace FlowGraph.Json

/-- What was found where something else was expected. -/
inductive Found where
  | null
  | bool (b : Bool)
  | int (n : Int)
  | float (x : Float)
  | str (s : String)
  | sequence
  | map

/-- A mistake in the shape of a value. -/
inductive Mismatch where
  | missingField (name : String)
  | duplicateField (name : String)
  | unknownVariant (given : String) (known : List String)
  | invalidType (found : Found) (expected : String)
  /-- A whole number outside the range of the type. -/
  | outOfRange (n : Int) (expected : String)
  | invalidLength (count : Nat) (expected : String)
  /-- An object with none or several fields where one names a variant. -/
  | notOneKey
  | badUuid

/-- Why a value could not be decoded. -/
inductive DecodeError where
  | fault (f : Fault)
  | mismatch (m : Mismatch)

/-- The wording of what was found. -/
def Found.text : Found → String
  | .null => "null"
  | .bool b => "boolean `" ++ (if b then "true" else "false") ++ "`"
  | .int n => "integer `" ++ toString n ++ "`"
  | .float x => "floating point `" ++ String.ofList (floatLayout.writeFloat x) ++ "`"
  | .str s => "string " ++ Text.quoted s
  | .sequence => "sequence"
  | .map => "map"

/-- The wording of a mismatch; a bad uuid has no fixed one. -/
def Mismatch.message? : Mismatch → Option String
  | .missingField name => some ("missing field `" ++ name ++ "`")
  | .duplicateField name => some ("duplicate field `" ++ name ++ "`")
  | .unknownVariant given known =>
    some ("unknown variant `" ++ given ++ "`, expected one of " ++
      ", ".intercalate (known.map fun k => "`" ++ k ++ "`"))
  | .invalidType found expected =>
    some ("invalid type: " ++ found.text ++ ", expected " ++ expected)
  | .outOfRange n expected =>
    some ("invalid value: integer `" ++ toString n ++ "`, expected " ++ expected)
  | .invalidLength count expected =>
    some ("invalid length " ++ toString count ++ ", expected " ++ expected)
  | .notOneKey => some "invalid value: map, expected map with a single key"
  | .badUuid => none

/-- Where a draft comes from. -/
inductive Origin where
  /-- A text in which `room` more brackets may be opened. -/
  | text (room : Nat)
  /-- A value at hand. -/
  | value
  deriving DecidableEq

/-- The deepest nesting of a text. -/
def maxDepth : Nat := 127

/-- Takes a draft apart. -/
abbrev Decoder (α : Type) := Origin → Draft → Except DecodeError α

/-- A fault of the text, as an error. -/
def fail {α : Type} (f : Fault) : Except DecodeError α := .error (.fault f)

/-- A mismatch, as an error. -/
def refuse {α : Type} (m : Mismatch) : Except DecodeError α := .error (.mismatch m)

/-- Nothing, unless a fault was met. -/
def noFault : Option Fault → Except DecodeError Unit
  | some f => fail f
  | none => .ok ()

/-- Goes into a bracket. -/
def Origin.enter : Origin → Except DecodeError Origin
  | .text 0 => fail .malformed
  | .text (room + 1) => .ok (.text room)
  | .value => .ok .value

/-- The error of a decoder that expected something else. -/
def mismatched {α : Type} (expected : String) : Draft → Except DecodeError α
  | .null => refuse (.invalidType .null expected)
  | .bool b => refuse (.invalidType (.bool b) expected)
  | .int n => refuse (.invalidType (.int n) expected)
  | .float x => refuse (.invalidType (.float x) expected)
  | .str s => refuse (.invalidType (.str s) expected)
  | .arr _ _ => refuse (.invalidType .sequence expected)
  | .obj _ _ => refuse (.invalidType .map expected)
  | .unreadable wanted _ => fail wanted

/-- A whole number between `low` and `high`. -/
def intWithin (low high : Int) (expected : String) : Decoder Int := fun _ d =>
  match d with
  | .int n => if low ≤ n ∧ n ≤ high then .ok n else refuse (.outOfRange n expected)
  | d => mismatched expected d

/-- A whole number of 32 bits without sign. -/
def natural32 : Decoder Nat := fun o d => Int.toNat <$> intWithin 0 0xffffffff "u32" o d

/-- A whole number of 64 bits without sign. -/
def natural64 : Decoder Nat := fun o d => Int.toNat <$> intWithin 0 0xffffffffffffffff "u64" o d

/-- A count. -/
def count : Decoder Nat := fun o d => Int.toNat <$> intWithin 0 0xffffffffffffffff "usize" o d

/-- A whole number of 32 bits with sign. -/
def int32 : Decoder Int := intWithin (-0x80000000) 0x7fffffff "i32"

/-- A whole number of 64 bits with sign. -/
def int64 : Decoder Int := intWithin (-0x8000000000000000) 0x7fffffffffffffff "i64"

/-- A text. -/
def text : Decoder String := fun _ d =>
  match d with
  | .str s => .ok s
  | d => mismatched "a string" d

/-- The text of a path. -/
def pathText : Decoder String := fun _ d =>
  match d with
  | .str s => .ok s
  | d => mismatched "path string" d

/-- A truth value. -/
def boolean : Decoder Bool := fun _ d =>
  match d with
  | .bool b => .ok b
  | d => mismatched "a boolean" d

/-- A uuid in any of its written forms. -/
def uuid : Decoder Uuid := fun _ d =>
  match d with
  | .str s =>
    match Uuid.parse? s with
    | some u => .ok u
    | none => refuse .badUuid
  | d => mismatched "a formatted UUID string" d

/-- A value or null. -/
def optional {α : Type} (decode : Decoder α) : Decoder (Option α) := fun o d =>
  match d with
  | .null => .ok none
  | d => some <$> decode o d

/-- Decodes items in order. -/
def eachItem {α : Type} (decode : Draft → Except DecodeError α) :
    List Draft → Except DecodeError (List α)
  | [] => .ok []
  | d :: ds => do
    let a ← decode d
    let as ← eachItem decode ds
    return a :: as

/-- A list. -/
def list {α : Type} (decode : Decoder α) : Decoder (List α) := fun o d =>
  match d with
  | .arr items stop => do
    let o ← o.enter
    let as ← eachItem (decode o) items
    noFault stop
    return as
  | d => mismatched "a sequence" d

/-- Decodes fields in order; every key has to name a text. -/
def eachField {α : Type} (decode : Draft → Except DecodeError α) :
    List (Option String × Draft) → Except DecodeError (List (String × α))
  | [] => .ok []
  | (none, _) :: _ => fail .malformed
  | (some key, d) :: ds => do
    let a ← decode d
    let as ← eachField decode ds
    return (key, a) :: as

/-- A dict; the last value of a repeated key stays. -/
def dict {α : Type} (decode : Decoder α) : Decoder (Dict α) := fun o d =>
  match d with
  | .obj fields stop => do
    let o ← o.enter
    let as ← eachField (decode o) fields
    noFault stop
    return Dict.ofList as
  | d => mismatched "a map" d

mutual

/-- Any value. -/
def anyValue (o : Origin) : Draft → Except DecodeError Json
  | .null => .ok .null
  | .bool b => .ok (.bool b)
  | .int n => .ok (.int n)
  | .float x => .ok (.float x)
  | .str s => .ok (.str s)
  | .arr items stop => do
    let o ← o.enter
    let vs ← anyItems o items
    noFault stop
    return .arr vs
  | .obj fields stop => do
    let o ← o.enter
    let vs ← anyFields o fields
    noFault stop
    return .ofDict (Dict.ofList vs)
  | .unreadable wanted _ => fail wanted

/-- Any values, in order. -/
def anyItems (o : Origin) : List Draft → Except DecodeError (List Json)
  | [] => .ok []
  | d :: ds => do
    let v ← anyValue o d
    let vs ← anyItems o ds
    return v :: vs

/-- Any values under keys, in order. -/
def anyFields (o : Origin) :
    List (Option String × Draft) → Except DecodeError (List (String × Json))
  | [] => .ok []
  | (none, _) :: _ => fail .malformed
  | (some key, d) :: ds => do
    let v ← anyValue o d
    let vs ← anyFields o ds
    return (key, v) :: vs

end

/-- One of several named variants without content: its name, or an object with the
name as its only key and null as the value. -/
def variant {α : Type} (known : List (String × α)) : Decoder α :=
  let pick (name : String) : Except DecodeError α :=
    match known.lookup name with
    | some a => .ok a
    | none => refuse (.unknownVariant name (known.map (·.1)))
  fun o d =>
    match o, d with
    | _, .str s => pick s
    | .text _, .obj fields stop => do
      let _ ← o.enter
      match fields with
      | [] => fail ((stop.getD .malformed))
      | (none, _) :: _ => fail .malformed
      | (some key, content) :: rest =>
        let a ← pick key
        match content with
        | .null =>
          match rest, stop with
          | [], none => .ok a
          | [], some f => fail f
          | _ :: _, _ => fail .malformed
        | content => mismatched "unit" content
    | .value, .obj [(some key, content)] _ => do
      let a ← pick key
      match content with
      | .null => .ok a
      | content => mismatched "unit" content
    | .value, .obj _ _ => refuse .notOneKey
    | _, .unreadable wanted _ => fail wanted
    | .text _, _ => fail .malformed
    | .value, d => mismatched "string or map" d

/-! ## Records -/

/-- A field of a record. -/
structure Field (α : Type) where
  name : String
  decode : Decoder α
  /-- The value of an absent field, if it may be absent. -/
  absent : Option α
  /-- The field may also be absent from a record written as a list. -/
  trailing : Bool

/-- A field that has to be there. -/
def required {α : Type} (name : String) (decode : Decoder α) : Field α :=
  ⟨name, decode, none, false⟩

/-- A field with a default. -/
def defaulted {α : Type} (name : String) (decode : Decoder α) (value : α) : Field α :=
  ⟨name, decode, some value, true⟩

/-- A field that may be absent or null, though a record written as a list has it. -/
def nullable {α : Type} (name : String) (decode : Decoder α) : Field (Option α) :=
  ⟨name, optional decode, some none, false⟩

/-- The fields of a record, in declaration order. -/
inductive Fields : List Type → Type 1 where
  | nil : Fields []
  | cons {α : Type} {ts : List Type} (field : Field α) (rest : Fields ts) : Fields (α :: ts)

/-- The values of the fields of a record. -/
def Values : List Type → Type
  | [] => Unit
  | α :: ts => α × Values ts

/-- The values found so far. -/
def Slots : List Type → Type
  | [] => Unit
  | α :: ts => Option α × Slots ts

/-- No value found yet. -/
def Slots.empty : (ts : List Type) → Slots ts
  | [] => ()
  | _ :: ts => (none, Slots.empty ts)

/-- The number of fields. -/
def Fields.size {ts : List Type} : Fields ts → Nat
  | .nil => 0
  | .cons _ rest => rest.size + 1

/-- Decodes a value into the slot of its name; `none` if no field has the name. -/
def Fields.fill {ts : List Type} (fs : Fields ts) (slots : Slots ts) (o : Origin)
    (name : String) (d : Draft) : Option (Except DecodeError (Slots ts)) :=
  match ts, fs, slots with
  | _, .nil, _ => none
  | _, .cons field rest, (slot, slots) =>
    if field.name == name then
      if slot.isSome then some (refuse (.duplicateField name))
      else some ((fun a => (some a, slots)) <$> field.decode o d)
    else (rest.fill slots o name d).map fun r => (fun s => (slot, s)) <$> r

/-- Decodes fields in text order. -/
def Fields.fillAll {ts : List Type} (fs : Fields ts) (o : Origin) (slots : Slots ts) :
    List (Option String × Draft) → Except DecodeError (Slots ts)
  | [] => .ok slots
  | (none, _) :: _ => fail .malformed
  | (some key, d) :: rest =>
    match fs.fill slots o key d with
    | some (.ok slots) => fs.fillAll o slots rest
    | some (.error e) => .error e
    | none => do
      noFault d.skip?
      fs.fillAll o slots rest

/-- The values of a record, with defaults for absent fields. -/
def Fields.settle {ts : List Type} (fs : Fields ts) (slots : Slots ts) :
    Except DecodeError (Values ts) :=
  match ts, fs, slots with
  | _, .nil, _ => .ok ()
  | _, .cons field rest, (slot, slots) => do
    match slot.or field.absent with
    | some a => (fun v => (a, v)) <$> rest.settle slots
    | none => refuse (.missingField field.name)

/-- Decodes a record written as a list: the values, and the items left over. -/
def Fields.inOrder {ts : List Type} (fs : Fields ts) (o : Origin) (stop : Option Fault)
    (expected : String) (seen : Nat) (items : List Draft) :
    Except DecodeError (Values ts × List Draft) :=
  match ts, fs, items with
  | _, .nil, items => .ok ((), items)
  | _, .cons field rest, d :: items => do
    let a ← field.decode o d
    let (v, left) ← rest.inOrder o stop expected (seen + 1) items
    return ((a, v), left)
  | _, .cons field rest, [] => do
    noFault stop
    match field.absent, field.trailing with
    | some a, true =>
      let (v, left) ← rest.inOrder o stop expected (seen + 1) []
      return ((a, v), left)
    | _, _ => refuse (.invalidLength seen expected)

/-- A record by its fields: an object, or a list of the values in declaration order. -/
def record {α : Type} {ts : List Type} (name : String) (fs : Fields ts)
    (make : Values ts → α) : Decoder α := fun o d =>
  match d with
  | .obj fields stop => do
    let o ← o.enter
    let slots ← fs.fillAll o (Slots.empty ts) fields
    noFault stop
    make <$> fs.settle slots
  | .arr items stop => do
    let inner ← o.enter
    let expected := "struct " ++ name ++ " with " ++ toString fs.size ++ " elements"
    let (v, left) ← fs.inOrder inner stop expected 0 items
    match left, o with
    | [], _ => do
      noFault stop
      return make v
    | _ :: _, .text _ => fail .malformed
    | _ :: _, .value => refuse (.invalidLength items.length "fewer elements in array")
  | d => mismatched ("struct " ++ name) d

/-! ## Texts and values -/

/-- Decodes a whole text. -/
def decodeChars {α : Type} (decode : Decoder α) (cs : List Char) : Except DecodeError α :=
  let (draft, rest) := readDraft cs
  match decode (.text maxDepth) draft, rest with
  | .error e, _ => .error e
  | .ok a, some [] => .ok a
  | .ok _, some _ => fail .malformed
  | .ok _, none => fail .ended

/-- Decodes a whole text. -/
def decodeText {α : Type} (decode : Decoder α) (s : String) : Except DecodeError α :=
  decodeChars decode s.toList

mutual

/-- A value at hand as a draft. -/
def toDraft : Json → Draft
  | .null => .null
  | .bool b => .bool b
  | .int n => .int n
  | .float x => .float x
  | .str s => .str s
  | .arr items => .arr (draftItems items) none
  | .obj fields => .obj (draftFields fields) none

/-- Items at hand as drafts. -/
def draftItems : List Json → List Draft
  | [] => []
  | v :: vs => toDraft v :: draftItems vs

/-- Fields at hand as drafts. -/
def draftFields : List (String × Json) → List (Option String × Draft)
  | [] => []
  | (key, v) :: vs => (some key, toDraft v) :: draftFields vs

end

/-- Decodes a value at hand. -/
def decode {α : Type} (decoder : Decoder α) (v : Json) : Except DecodeError α :=
  decoder .value (toDraft v)

/-- Reads a JSON value from a text. -/
def parse (s : String) : Except DecodeError Json := decodeText anyValue s

end FlowGraph.Json
