import FlowGraph.Json.Basic
import FlowGraph.Decimal.Layout
import FlowGraph.Text.Ascii

/-!
# Writing JSON

A value is written in front of whatever follows it, so writing composes. A `Style`
says what stands before an item, before a closing bracket and after a colon; the
compact style puts nothing there and the indented style starts a new line.
-/

namespace FlowGraph.Json

/-- Doubles are written with the point in place for exponents from -5 to 15, and with a
signed exponent otherwise. -/
def floatLayout : Decimal.Layout := ⟨-5, 15, true⟩

/-- The blanks between the tokens of a written value. -/
structure Style where
  /-- What stands before an item at a depth, and before a bracket that closes there. -/
  gap : Nat → List Char
  /-- What stands after a colon. -/
  afterColon : List Char

/-- No blanks at all. -/
def compactStyle : Style := ⟨fun _ => [], []⟩

/-- A new line for every item, two blanks deeper at every level. -/
def indentedStyle : Style := ⟨fun depth => '\n' :: List.replicate (2 * depth) ' ', [' ']⟩

/-- One character inside a written text. -/
def escape (c : Char) : List Char :=
  match c with
  | '"' => ['\\', '"']
  | '\\' => ['\\', '\\']
  | '\x08' => ['\\', 'b']
  | '\x0c' => ['\\', 'f']
  | '\n' => ['\\', 'n']
  | '\r' => ['\\', 'r']
  | '\t' => ['\\', 't']
  | c =>
    if c.toNat < 0x20 then
      ['\\', 'u', '0', '0', Text.hexDigit (Fin.ofNat 16 (c.toNat / 16)),
        Text.hexDigit (Fin.ofNat 16 c.toNat)]
    else [c]

/-- A text between double quotes, in front of `rest`. -/
def writeText (s : String) (rest : List Char) : List Char :=
  '"' :: (s.toList.flatMap escape ++ '"' :: rest)

/-- A whole number in front of `rest`. -/
def writeInt (n : Int) (rest : List Char) : List Char :=
  match n with
  | .ofNat n => Nat.toDigits 10 n ++ rest
  | .negSucc n => '-' :: (Nat.toDigits 10 (n + 1) ++ rest)

mutual

/-- A value at a depth, in front of `rest`. -/
def write (style : Style) (depth : Nat) : Json → List Char → List Char
  | .null, rest => 'n' :: 'u' :: 'l' :: 'l' :: rest
  | .bool true, rest => 't' :: 'r' :: 'u' :: 'e' :: rest
  | .bool false, rest => 'f' :: 'a' :: 'l' :: 's' :: 'e' :: rest
  | .int n, rest => writeInt n rest
  | .float x, rest => floatLayout.writeFloat x ++ rest
  | .str s, rest => writeText s rest
  | .arr [], rest => '[' :: ']' :: rest
  | .arr (item :: items), rest =>
    '[' :: (style.gap (depth + 1) ++
      write style (depth + 1) item (writeItems style (depth + 1) items
        (style.gap depth ++ ']' :: rest)))
  | .obj [], rest => '\x7b' :: '\x7d' :: rest
  | .obj ((key, value) :: fields), rest =>
    '\x7b' :: (style.gap (depth + 1) ++ writeText key (':' :: (style.afterColon ++
      write style (depth + 1) value (writeFields style (depth + 1) fields
        (style.gap depth ++ '\x7d' :: rest)))))

/-- The items after the first one. -/
def writeItems (style : Style) (depth : Nat) : List Json → List Char → List Char
  | [], rest => rest
  | item :: items, rest =>
    ',' :: (style.gap depth ++ write style depth item (writeItems style depth items rest))

/-- The fields after the first one. -/
def writeFields (style : Style) (depth : Nat) :
    List (String × Json) → List Char → List Char
  | [], rest => rest
  | (key, value) :: fields, rest =>
    ',' :: (style.gap depth ++ writeText key (':' :: (style.afterColon ++
      write style depth value (writeFields style depth fields rest))))

end

/-- The text of a value without blanks. -/
def compact (v : Json) : String := String.ofList (write compactStyle 0 v [])

/-- The text of a value on indented lines. -/
def indented (v : Json) : String := String.ofList (write indentedStyle 0 v [])

end FlowGraph.Json
