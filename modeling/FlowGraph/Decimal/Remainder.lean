/-!
# The remainder of doubles

The remainder of a division that rounds towards zero is exact: over the smaller power
of two, both numbers are whole.
-/

namespace FlowGraph.Decimal

/-- The size of a finite double as a whole number of units of a power of two. -/
def units (x : Float) : Nat × Int :=
  let bits : Nat := x.toBits.toNat
  let fraction : Nat := bits % (1 <<< 52)
  let biased : Nat := (bits >>> 52) % (1 <<< 11)
  if biased = 0 then (fraction, -1074) else (fraction + (1 <<< 52), (biased : Int) - 1075)

/-- The remainder of a division that rounds towards zero; it has the sign of the
dividend. -/
def remainder (x y : Float) : Float :=
  if x.isNaN || y.isNaN || x.isInf || y == 0.0 then 0.0 / 0.0
  else if y.isInf then x
  else
    let (m, e) := units x
    let (n, f) := units y
    let low := min e f
    let rest := (m <<< (e - low).toNat) % (n <<< (f - low).toNat)
    let size := (Float.ofNat rest).scaleB low
    if x.toBits.toNat ≥ 0x8000000000000000 then -size else size

end FlowGraph.Decimal
