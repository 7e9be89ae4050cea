import FlowGraph.Json.Text

/-!
# Variables and placeholders

The variables of a run are JSON values by name. A text may hold placeholders such as
`{file.Name}`; expanding it is one pass from left to right, in which what was put in
is not looked at again and names without a variable stay as they are.
-/

namespace FlowGraph

/-- The variables of a run, by name. -/
abbrev Variables := Dict Json

/-- The configuration of a part, by field. -/
abbrev Model := Dict Json

/-- The text that stands for a value: a text itself, nothing for null, and the compact
JSON of every other value. -/
def Json.asText : Json → String
  | .str s => s
  | .null => ""
  | v => v.compact

namespace Variables

/-- The value of a variable as text; nothing for null. -/
def text? (vars : Variables) (key : String) : Option String :=
  match vars.get? key with
  | none | some .null => none
  | some v => some v.asText

/-- A character that a placeholder's name may start with. -/
def isNameStart (c : Char) : Bool := c.isAlpha || c == '_'

/-- A character inside a placeholder's name. -/
def isNameChar (c : Char) : Bool := isNameStart c || c.isDigit || c == '.' || c == '-'

/-- The name of a placeholder: a letter or underscore, then letters, digits,
underscores, points and hyphens. -/
def IsName : List Char → Prop
  | [] => False
  | c :: cs => isNameStart c ∧ cs.all isNameChar

/-- The character `c` extends the name of a placeholder, whose characters so far are
`name`, last one first. -/
def extendsName (name : List Char) (c : Char) : Bool :=
  if name.isEmpty then isNameStart c else isNameChar c

/-- What an opening brace and the characters after it stand for when no placeholder
comes of them. -/
def unfinished (name : List Char) : List Char := '\x7b' :: name.reverse

/-- What a whole placeholder stands for. -/
def substitute (vars : Variables) (name : List Char) : List Char :=
  match vars.get? (String.ofList name.reverse) with
  | some v => v.asText.toList
  | none => unfinished name ++ ['\x7d']

/-- Expands the rest of a text; `pending` holds the name of a placeholder that may have
begun, last character first. -/
def expandFrom (vars : Variables) : Option (List Char) → List Char → List Char
  | none, [] => []
  | some name, [] => unfinished name
  | none, c :: cs =>
    if c = '\x7b' then expandFrom vars (some []) cs else c :: expandFrom vars none cs
  | some name, c :: cs =>
    if c = '\x7b' then unfinished name ++ expandFrom vars (some []) cs
    else if c = '\x7d' ∧ name ≠ [] then substitute vars name ++ expandFrom vars none cs
    else if extendsName name c then expandFrom vars (some (c :: name)) cs
    else unfinished name ++ c :: expandFrom vars none cs

/-- Replaces the placeholders of a text by the values of their variables. -/
def expand (vars : Variables) (text : String) : String :=
  String.ofList (expandFrom vars none text.toList)

end Variables

end FlowGraph
