/-!
# The fewest decimal digits that name a binary number

A finite binary number is a mantissa times a power of two. The decimals that round to
it fill an interval around it, whose ends belong to it when the mantissa is even.
`shortest` tries the grids of 1, 2, … 17 significant digits and takes the first one
with a point in that interval; of the two neighbours on that grid it takes the nearer.
All of it is exact arithmetic on natural numbers.
-/

namespace FlowGraph.Decimal

/-- A decimal number by its significant digits and the power of ten of the first. -/
structure Scientific where
  digits : List Nat
  exponent : Int
  deriving DecidableEq, Repr

/-- The digits of a number in base ten, first one first. -/
def digitsOf (n : Nat) : List Nat :=
  (Nat.toDigits 10 n).map fun c => c.toNat - '0'.toNat

/-- The digits without the zeros at their end. -/
def dropTrailingZeros (ds : List Nat) : List Nat :=
  (ds.reverse.dropWhile (· == 0)).reverse

/-- The interval of numbers that round to a binary number, over one denominator. -/
structure Neighbourhood where
  value : Nat
  low : Nat
  high : Nat
  den : Nat
  /-- The ends round to the number too. -/
  closed : Bool

/-- The neighbourhood of `mantissa · 2 ^ exponent`; it is `narrow` when the number
below is at half the distance of the number above. -/
def neighbourhood (mantissa : Nat) (exponent : Int) (narrow : Bool) : Neighbourhood :=
  let up := 1 <<< (exponent - 2).toNat
  { value := 4 * mantissa * up
    low := (4 * mantissa - if narrow then 1 else 2) * up
    high := (4 * mantissa + 2) * up
    den := 1 <<< (2 - exponent).toNat
    closed := mantissa % 2 == 0 }

/-- The power of ten of the first digit of `num / den`. -/
def leadingExponent (num den : Nat) : Int :=
  let gap : Int := (digitsOf num).length - (digitsOf den).length
  if den * Nat.pow 10 gap.toNat ≤ num * Nat.pow 10 (-gap).toNat then gap else gap - 1

/-- The point of the grid with step `10 ^ step` that names the number, if the grid has
one. -/
def onGrid? (b : Neighbourhood) (step : Int) : Option Nat :=
  let unit := b.den * Nat.pow 10 step.toNat
  let scale := Nat.pow 10 (-step).toNat
  let below := b.value * scale / unit
  let inside (d : Nat) : Bool :=
    if b.closed then b.low * scale ≤ d * unit && d * unit ≤ b.high * scale
    else b.low * scale < d * unit && d * unit < b.high * scale
  let gapBelow := b.value * scale - below * unit
  let gapAbove := (below + 1) * unit - b.value * scale
  match inside below, inside (below + 1) with
  | true, true =>
    if gapBelow < gapAbove || (gapBelow == gapAbove && below % 2 == 0) then some below
    else some (below + 1)
  | true, false => some below
  | false, true => some (below + 1)
  | false, false => none

/-- The digits found on the first grid from `count` digits on; `left` grids remain. -/
def fromCount (b : Neighbourhood) (lead : Int) : (left count : Nat) → Scientific
  | 0, _ => ⟨[0], 0⟩
  | left + 1, count =>
    let step := lead + 1 - count
    match onGrid? b step with
    | some d =>
      let ds := digitsOf d
      ⟨dropTrailingZeros ds, step + ds.length - 1⟩
    | none => fromCount b lead left (count + 1)

/-- The fewest digits that round to `mantissa · 2 ^ exponent`. -/
def shortest (mantissa : Nat) (exponent : Int) (narrow : Bool) : Scientific :=
  if mantissa = 0 then ⟨[0], 0⟩
  else
    let b := neighbourhood mantissa exponent narrow
    fromCount b (leadingExponent b.value b.den) 17 1

/-- The fewest digits that name a finite double, its sign left out. -/
def ofFloat (x : Float) : Scientific :=
  let bits : Nat := x.toBits.toNat
  let fraction : Nat := bits % (1 <<< 52)
  let biased : Nat := (bits >>> 52) % (1 <<< 11)
  if biased = 0 then shortest fraction (-1074) false
  else shortest (fraction + (1 <<< 52)) ((biased : Int) - 1075) (fraction == 0 && biased != 1)

/-- The sign bit of a double is set. -/
def isNegative (x : Float) : Bool :=
  x.toBits.toNat ≥ 0x8000000000000000

end FlowGraph.Decimal
