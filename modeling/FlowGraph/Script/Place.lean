/-!
# Places in a script

A place names a character of a script by its line and its position in that line, both
counted from one.
-/

namespace FlowGraph.Script

/-- A line and a position in it. -/
structure Place where
  line : Nat
  position : Nat
  deriving DecidableEq, Repr

namespace Place

/-- The place of the first character. -/
def start : Place := ⟨1, 1⟩

/-- The place after a character that stands at this one. -/
def after (p : Place) (c : Char) : Place :=
  if c = '\n' then ⟨p.line + 1, 1⟩ else ⟨p.line, p.position + 1⟩

/-- The wording of a place. -/
def text (p : Place) : String :=
  "line " ++ toString p.line ++ ", position " ++ toString p.position

/-- A message with its place, if it has one. -/
def note (message : String) : Option Place → String
  | some p => message ++ " (" ++ p.text ++ ")"
  | none => message

end Place

end FlowGraph.Script
