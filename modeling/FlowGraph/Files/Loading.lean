import FlowGraph.Files.Tree
import FlowGraph.Flow.Stored
import FlowGraph.Text.Utf8

/-!
# Flows and scripts in folders

Every file of a folder with the extension of flow definitions holds one flow, and every
file with that of scripts holds one script, named by the stem of its file.
-/

namespace FlowGraph

/-- Why a definition could not be loaded. -/
inductive LoadError where
  | unreadable (path : Path) (e : OsError)
  | invalid (path : Path) (e : Json.DecodeError)

/-- A reason in front of its explanation, if it has one. -/
def Json.DecodeError.explained (reason : String) (e : Json.DecodeError) : String :=
  match e with
  | .mismatch m => (m.message?.map fun text => reason ++ ": " ++ text).getD reason
  | .fault _ => reason

/-- The wording for a definition that could not be loaded. -/
def LoadError.message : LoadError → String
  | .unreadable path e => "cannot read " ++ path.text ++ ": " ++ e.message
  | .invalid path e => e.explained ("invalid flow definition " ++ path.text)

namespace FileTree

def flowExtension : String := "json"
def scriptExtension : String := "rhai"

/-- The path of a file has an extension, up to the case of ASCII letters. -/
def hasExtension (ext : String) (p : Path) : Bool :=
  match p.extension? with
  | some e => Text.eqIgnoringCase e ext
  | none => false

/-- The files of a folder that have an extension, in the order of their names. -/
def filesWithExtension (t : FileTree) (folder : Path) (ext : String) :
    Except LoadError (List Path) :=
  match t.list folder with
  | .error e => .error (.unreadable folder e)
  | .ok entries =>
    .ok ((entries.map fun (name, _) => folder.join name).filter fun p =>
      t.isFile p && hasExtension ext p)

/-- The text of a file. -/
def loadText (t : FileTree) (p : Path) : Except LoadError String :=
  match t.readText p with
  | .ok text => .ok text
  | .error e => .error (.unreadable p e)

/-- The flow that a file defines. -/
def loadFlow (t : FileTree) (p : Path) : Except LoadError Flow := do
  let text ← t.loadText p
  match Json.decodeText Flow.decoder text with
  | .ok flow => .ok flow
  | .error e => .error (.invalid p e)

/-- The flows that a folder defines. -/
def loadFlows (t : FileTree) (folder : Path) : Except LoadError (List Flow) := do
  let paths ← t.filesWithExtension folder flowExtension
  paths.mapM t.loadFlow

/-- The scripts of a folder by name. -/
def loadScripts (t : FileTree) (folder : Path) : Except LoadError (List (String × String)) := do
  let paths ← t.filesWithExtension folder scriptExtension
  paths.mapM fun p => do
    let source ← t.loadText p
    return (p.stem, source)

/-! ## JSON that may not be text -/

/-- The characters of some bytes; a byte that is no text becomes a character that no
JSON holds. -/
def jsonChars (bytes : ByteArray) : List Char :=
  match String.fromUTF8? bytes with
  | some s => s.toList
  | none =>
    (Text.readFrom none bytes.toList).map fun c => if c = Text.replacement then '\x00' else c

/-- Decodes the bytes of a JSON file. -/
def decodeBytes {α : Type} (decode : Json.Decoder α) (bytes : ByteArray) :
    Except Json.DecodeError α :=
  Json.decodeChars decode (jsonChars bytes)

end FileTree

end FlowGraph
