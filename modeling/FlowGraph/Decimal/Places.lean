import FlowGraph.Decimal.Layout

/-!
# Single-precision numbers with a fixed count of decimal places

The number is taken exactly and rounded once; a tie goes to the even last digit.
-/

namespace FlowGraph.Decimal

/-- The quotient rounded to the nearest natural number, a tie to the even one. -/
def roundDiv (num den : Nat) : Nat :=
  let down := num / den
  let rest := 2 * (num % den)
  if rest < den || (rest == den && down % 2 == 0) then down else down + 1

/-- A natural number of units of `10 ^ -places`, with its point. -/
def withPoint (places units : Nat) : List Char :=
  let ds := Nat.toDigits 10 units
  let padded := List.replicate (places + 1 - ds.length) '0' ++ ds
  let whole := padded.length - places
  padded.take whole ++ '.' :: padded.drop whole

/-- A single-precision number with `places` decimals. -/
def fixed (places : Nat) (x : Float32) : String :=
  let bits : Nat := x.toBits.toNat
  let fraction : Nat := bits % (1 <<< 23)
  let biased : Nat := (bits >>> 23) % (1 <<< 8)
  let sign := if bits ≥ 0x80000000 then ['-'] else []
  if biased = 255 then
    if fraction = 0 then String.ofList (sign ++ ['i', 'n', 'f']) else "NaN"
  else
    let mantissa := if biased = 0 then fraction else fraction + (1 <<< 23)
    let exponent : Int := if biased = 0 then -149 else (biased : Int) - 150
    let units :=
      roundDiv ((mantissa <<< exponent.toNat) * Nat.pow 10 places) (1 <<< (-exponent).toNat)
    String.ofList (sign ++ withPoint places units)

end FlowGraph.Decimal
