import FlowGraph.Script.Mistake
import FlowGraph.Text.Ascii
import FlowGraph.Text.Blank

/-!
# Texts in scripts

A text stands between two equal quotes and holds a quote of its own if that is written
twice. Between plain quotes a backslash begins an escape; between backticks every
character stands for itself, lines may end, and a dollar sign before a brace pauses the
text for an expression.
-/

namespace FlowGraph.Script

/-- What is left of a script, with the place of its next character. -/
structure Cursor where
  place : Place
  rest : List Char

namespace Cursor

/-- The cursor after some characters that hold no end of line. -/
def skip (c : Cursor) (n : Nat) : Cursor :=
  ⟨⟨c.place.line, c.place.position + n⟩, c.rest.drop n⟩

/-- The cursor after its next character. -/
def next (c : Cursor) : Cursor :=
  match c.rest with
  | [] => c
  | d :: rest => ⟨c.place.after d, rest⟩

end Cursor

/-- A way of writing texts. -/
structure TextStyle where
  quote : Char
  /-- Every character stands for itself, and expressions may stand inside. -/
  verbatim : Bool
  /-- A backslash at the end of a line goes on with the text in the next line. -/
  continues : Bool

namespace TextStyle

/-- A text on one line, with escapes. -/
def plain : TextStyle := ⟨'"', false, true⟩

/-- A single character, with escapes. -/
def single : TextStyle := ⟨'\'', false, false⟩

/-- A text on many lines. -/
def free : TextStyle := ⟨'\x60', true, false⟩

end TextStyle

/-- How far the reader is inside an escape. -/
inductive Escaping where
  | none
  | begun
  /-- So many digits of a code point are wanted; `seen` has the escape, last character
  first. -/
  | code (wanted value : Nat) (seen : List Char)

/-- How a text ends. -/
inductive TextEnd where
  | closed (text : String) (after : Cursor)
  /-- An expression inside the text begins at the cursor. -/
  | paused (text : String) (after : Cursor)
  /-- The end of the script comes first. -/
  | unclosed
  | broken (m : Mistake) (place : Place)

/-- The state of reading a text. -/
structure TextState where
  escaping : Escaping
  /-- Blank characters before this position are left out. -/
  margin : Nat
  place : Place
  /-- The characters read so far, last one first. -/
  read : List Char

/-- The number of digits after the letter of an escape by code point. -/
def codeLength? : Char → Option Nat
  | 'x' => some 2
  | 'u' => some 4
  | 'U' => some 8
  | _ => none

/-- What the letter of a short escape stands for. -/
def shortEscape? : Char → Option Char
  | '\\' => some '\\'
  | 't' => some '\t'
  | 'n' => some '\n'
  | 'r' => some '\r'
  | _ => none

/-- The text read so far. -/
def TextState.text (s : TextState) : String := String.ofList s.read.reverse

/-- The state after the character `here`, with `c` added to the text. -/
def TextState.take (s : TextState) (here c : Char) : TextState :=
  { s with escaping := .none, margin := 0, place := s.place.after here, read := c :: s.read }

/-- The state after a character inside an escape, or the mistake there. -/
def TextState.escape (style : TextStyle) (start : Place) (s : TextState) (c : Char) :
    Escaping → Except Mistake TextState
  | .code wanted value seen =>
    let seen := c :: seen
    let wrong : Mistake := .wrongEscape (String.ofList seen.reverse)
    match Text.hexValue? c with
    | none => .error wrong
    | some d =>
      let value := value * 16 + d.val
      if wanted ≤ 1 then
        if value.isValidChar then .ok (s.take c (Char.ofNat value)) else .error wrong
      else .ok { s with escaping := .code (wanted - 1) value seen, place := s.place.after c }
  | _ =>
    match shortEscape? c with
    | some d => .ok (s.take c d)
    | none =>
      match codeLength? c with
      | some n => .ok { s with escaping := .code n 0 [c, '\\'], place := s.place.after c }
      | none =>
        if c = '\n' then
          if style.continues then
            .ok { s with escaping := .none, margin := start.position + 1, place := s.place.after c }
          else .error .openText
        else if c = style.quote then .ok (s.take c c)
        else .error (.wrongEscape (String.ofList ['\\', c]))

/-- Reads a text from a state; `start` is the place of its first quote. -/
def textFrom (style : TextStyle) (start : Place) (s : TextState) : List Char → TextEnd
  | [] => .unclosed
  | c :: cs =>
    match s.escaping with
    | .none =>
      if c = style.quote then
        match cs with
        | d :: rest =>
          if d = style.quote then
            textFrom style start { s.take c c with place := (s.place.after c).after d } rest
          else .closed s.text ⟨s.place.after c, d :: rest⟩
        | [] => .closed s.text ⟨s.place.after c, []⟩
      else if style.verbatim && c == '$' && cs.head? == some '\x7b' then
        .paused s.text ⟨s.place.after c, cs⟩
      else if style.verbatim then textFrom style start (s.take c c) cs
      else if c = '\\' then
        textFrom style start { s with escaping := .begun, place := s.place.after c } cs
      else if c = '\n' then .broken .openText start
      else if Text.isBlank c && s.place.position < s.margin then
        textFrom style start { s with place := s.place.after c } cs
      else textFrom style start (s.take c c) cs
    | escaping =>
      match s.escape style start c escaping with
      | .ok s => textFrom style start s cs
      | .error .openText => .broken .openText start
      | .error m => .broken m s.place

/-- Reads a text from the cursor behind its first quote. -/
def readText (style : TextStyle) (start : Place) (c : Cursor) : TextEnd :=
  textFrom style start ⟨.none, 0, c.place, []⟩ c.rest

end FlowGraph.Script
