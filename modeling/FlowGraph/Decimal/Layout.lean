import FlowGraph.Decimal.Shortest

/-!
# How decimal digits are written

The same digits can be written with the point in its place (`0.0125`) or with a power
of ten (`1.25e-2`). A `Layout` says which one is used and how the exponent looks.
-/

namespace FlowGraph.Decimal

/-- The character of a digit. -/
def digitChar (d : Nat) : Char := Char.ofNat ('0'.toNat + d)

/-- The digits with the point in its place; a whole number ends in `.0` on request. -/
def positional (pointZero : Bool) (s : Scientific) : List Char :=
  let ds := s.digits.map digitChar
  if s.exponent < 0 then
    '0' :: '.' :: (List.replicate (-s.exponent - 1).toNat '0' ++ ds)
  else
    let whole := s.exponent.toNat + 1
    let front := ds.take whole ++ List.replicate (whole - ds.length) '0'
    match ds.drop whole with
    | [] => if pointZero then front ++ ['.', '0'] else front
    | rest => front ++ '.' :: rest

/-- One digit before the point and a power of ten; a positive exponent has a plus sign
on request. -/
def scientific (plus : Bool) (s : Scientific) : List Char :=
  let front := match s.digits.map digitChar with
    | [] => ['0']
    | [d] => [d]
    | d :: rest => d :: '.' :: rest
  let mark := if s.exponent < 0 then ['e', '-'] else if plus then ['e', '+'] else ['e']
  front ++ mark ++ Nat.toDigits 10 s.exponent.natAbs

/-- A choice between the two ways of writing, by the exponent. -/
structure Layout where
  /-- Exponents from `least` to `greatest` are written with the point in its place. -/
  least : Int
  greatest : Int
  /-- A positive exponent is written with a plus sign. -/
  plus : Bool

/-- The text of a decimal in a layout. -/
def Layout.write (l : Layout) (s : Scientific) : List Char :=
  if l.least ≤ s.exponent ∧ s.exponent ≤ l.greatest then positional true s
  else scientific l.plus s

/-- The text of a double in a layout. -/
def Layout.writeFloat (l : Layout) (x : Float) : List Char :=
  let body := l.write (ofFloat x)
  if isNegative x then '-' :: body else body

end FlowGraph.Decimal
