import FlowGraph.Decimal.Reading
import FlowGraph.Script.Token
import FlowGraph.Script.Value
import FlowGraph.Text.Ascii

/-!
# Numerals

A numeral has a base by its second character, or is decimal with an optional fraction
and power of ten. Underscores between digits say nothing. A decimal numeral without
fraction and exponent is a whole number while it fits, and a double otherwise.
-/

namespace FlowGraph.Script

/-- A stretch of digits and underscores. -/
structure Digits where
  /-- The digits alone. -/
  digits : List Char
  /-- The number of characters with the underscores. -/
  length : Nat
  rest : List Char

/-- The digits in front, of a class. -/
def Digits.ofFront (isDigit : Char → Bool) (cs : List Char) : Digits :=
  let mine (c : Char) : Bool := isDigit c || c == '_'
  let front := cs.takeWhile mine
  ⟨front.filter (· != '_'), front.length, cs.dropWhile mine⟩

/-- The base that a letter after a zero announces. -/
def baseOf? (c : Char) : Option Nat :=
  match c.toLower with
  | 'x' => some 16
  | 'o' => some 8
  | 'b' => some 2
  | _ => none

/-- The value of digits in a base, if there are any and each of them is below it. -/
def valueIn? (base : Nat) (ds : List Char) : Option Nat :=
  if ds.isEmpty then none
  else ds.foldlM (fun n c =>
    (Text.hexValue? c).bind fun d => if d.val < base then some (n * base + d.val) else none) 0

/-- A number of 64 bits as a whole number of scripts with the same last 64 bits. -/
def wrapped (n : Nat) : Int := if (n : Int) ≤ maxInt then n else (n : Int) - UInt64.size

/-- The token of digits in a base. -/
def basedToken (negative : Bool) (base : Nat) (ds : List Char) : Token :=
  match valueIn? base ds with
  | some n =>
    if n < UInt64.size then .integer (if negative then -wrapped n else wrapped n)
    else .bad (.wrongNumber (String.ofList ds))
  | none => .bad (.wrongNumber (String.ofList ds))

/-- The fraction behind the digits of a numeral, if it has one: the point counts when a
digit follows it, or something that cannot go on with a name, an underscore or a range. -/
def fraction? (cs : List Char) : Option Digits :=
  match cs with
  | '.' :: c :: rest =>
    if c.isDigit then
      let d := Digits.ofFront Char.isDigit (c :: rest)
      some { d with length := d.length + 1 }
    else if c == '.' || Token.startsName c then none
    else some ⟨['0'], 1, c :: rest⟩
  | _ => none

/-- The exponent behind the digits of a numeral, if it has one; its digits keep their
sign. -/
def exponentPart? (cs : List Char) : Option Digits :=
  match cs with
  | 'e' :: c :: rest =>
    if c.isDigit then
      let d := Digits.ofFront Char.isDigit (c :: rest)
      some { d with length := d.length + 1 }
    else if c == '+' || c == '-' then
      let d := Digits.ofFront Char.isDigit rest
      some ⟨c :: d.digits, d.length + 2, d.rest⟩
    else none
  | _ => none

/-- The token of a decimal numeral by its text. -/
def decimalToken (isWhole : Bool) (cs : List Char) : Token :=
  let whole? : Option Int :=
    if isWhole then
      match cs with
      | '-' :: ds => inRange? (-(Text.digitsValue ds : Int))
      | ds => inRange? (Text.digitsValue ds)
    else none
  match whole?, Decimal.readFloat? cs with
  | some n, _ => .integer n
  | none, some x => .float x
  | none, none => .bad (.wrongNumber (String.ofList cs))

/-- The numeral in front of a text that begins with a digit, with the number of its
characters. -/
def numeral (negative : Bool) (cs : List Char) : Token × Nat :=
  let whole := Digits.ofFront Char.isDigit cs
  let base? := match whole.digits, whole.rest with
    | ['0'], c :: rest => (baseOf? c).map fun base => (base, rest)
    | _, _ => none
  match base? with
  | some (base, rest) =>
    let isDigit := if base = 16 then fun c => (Text.hexValue? c).isSome else Char.isDigit
    let ds := Digits.ofFront isDigit rest
    (basedToken negative base ds.digits, whole.length + 1 + ds.length)
  | none =>
    let sign := if negative then ['-'] else []
    let fraction := fraction? whole.rest
    let afterFraction := (fraction.map Digits.rest).getD whole.rest
    let exponent := exponentPart? afterFraction
    let text := sign ++ whole.digits ++
      (match fraction with | some d => '.' :: d.digits | none => []) ++
      (match exponent with | some d => 'e' :: d.digits | none => [])
    (decimalToken (fraction.isNone && exponent.isNone) text,
      whole.length + (fraction.map Digits.length).getD 0 + (exponent.map Digits.length).getD 0)

end FlowGraph.Script
