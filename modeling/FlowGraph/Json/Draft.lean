/-!
# JSON values as far as their text could be read

A `Draft` is a value as it was written: fields in written order, repetitions kept, up
to the first place where the text breaks off or is malformed. Whoever takes a draft
apart from left to right meets its parts in the order of the text, so the first thing
found wrong is the first thing wrong in the text.
-/

namespace FlowGraph.Json

/-- How a text can fail to be JSON. -/
inductive Fault where
  /-- Something stands where it must not. -/
  | malformed
  /-- The text ends too early. -/
  | ended
  deriving DecidableEq, Repr

/-- A JSON value as far as its text could be read. -/
inductive Draft where
  | null
  | bool (b : Bool)
  | int (n : Int)
  | float (x : Float)
  | str (s : String)
  /-- Items, and why the list was left before its end, if it was. -/
  | arr (items : List Draft) (stop : Option Fault)
  /-- Fields by their keys (a key that names no text has none), and why the object was
  left before its end, if it was. -/
  | obj (fields : List (Option String × Draft)) (stop : Option Fault)
  /-- No value: `wanted` is what is wrong for whoever wants the value, `skipped` what is
  wrong even for whoever passes over it. -/
  | unreadable (wanted : Fault) (skipped : Option Fault)
  deriving Inhabited

mutual

/-- What is wrong with a value that is only passed over. -/
def Draft.skip? : Draft → Option Fault
  | .arr items stop => (skipItems? items).or stop
  | .obj fields stop => (skipFields? fields).or stop
  | .unreadable _ skipped => skipped
  | _ => none

/-- What is wrong with the first item that cannot be passed over. -/
def skipItems? : List Draft → Option Fault
  | [] => none
  | item :: rest => (Draft.skip? item).or (skipItems? rest)

/-- What is wrong with the first field that cannot be passed over. -/
def skipFields? : List (Option String × Draft) → Option Fault
  | [] => none
  | (_, value) :: rest => (Draft.skip? value).or (skipFields? rest)

end

end FlowGraph.Json
