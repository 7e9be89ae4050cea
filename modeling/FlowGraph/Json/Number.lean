/-!
# JSON numbers

A number without fraction and exponent is whole while it fits 64 bits. Every other one
is a double, read in one fixed way: the leading digits that fit 64 bits are taken as a
double, the digits after them count only as places, and the double is scaled once by
the power of ten that remains.
-/

namespace FlowGraph.Json

/-- The value that a number in a text stands for. -/
inductive Number where
  | whole (n : Int)
  | double (x : Float)
  /-- The number is beyond every double. -/
  | tooLarge

/-- The parts of a written number: its sign, the digits before the point, the digits
after it, and the exponent with its sign. -/
structure Spelling where
  negative : Bool
  whole : List Nat
  fraction : Option (List Nat)
  exponent : Option (Bool × List Nat)

/-- The largest number of 64 bits. -/
def maxWord : Nat := 0xffffffffffffffff

/-- Reads digits onto `n` while the result fits 64 bits; gives the result and how many
digits were left out. -/
def fit (n : Nat) : List Nat → Nat × List Nat
  | [] => (n, [])
  | d :: ds => if n * 10 + d ≤ maxWord then fit (n * 10 + d) ds else (n, d :: ds)

/-- A power of ten as a double. -/
def tenTo (k : Nat) : Float := Float.ofScientific 1 false k

/-- Divides by `10 ^ n`, in steps that doubles can hold. -/
def shrink (x : Float) (n : Nat) : Float :=
  if n ≤ 308 then x / tenTo n
  else if x == 0.0 then x
  else shrink (x / tenTo 308) (n - 308)
termination_by n

/-- Scales a double by `10 ^ power`; nothing if it leaves the range of doubles. -/
def scale (x : Float) (power : Int) : Option Float :=
  if power < 0 then some (shrink x (-power).toNat)
  else if power ≤ 308 then
    let y := x * tenTo power.toNat
    if y.isInf then none else some y
  else if x == 0.0 then some x
  else none

/-- The number a run of digits writes. -/
def natOf (ds : List Nat) : Nat := ds.foldl (fun n d => n * 10 + d) 0

/-- The largest exponent that is counted exactly. -/
def maxExponent : Nat := 0x7fffffff

/-- A double of a 64-bit significand, a power of ten and a written exponent. -/
def scaled (negative : Bool) (significand : Nat) (power : Int)
    (exponent : Option (Bool × List Nat)) : Number :=
  let signed (x : Float) : Number := .double (if negative then -x else x)
  let atPower (p : Int) : Number :=
    match scale significand.toUInt64.toFloat p with
    | some x => signed x
    | none => .tooLarge
  match exponent with
  | none => atPower power
  | some (down, ds) =>
    let e := natOf ds
    if e ≤ maxExponent then atPower (if down then power - e else power + e)
    else if significand ≠ 0 ∧ !down then .tooLarge
    else signed 0.0

/-- The value of a written number. -/
def Spelling.value (s : Spelling) : Number :=
  let (front, late) := fit 0 s.whole
  match s.fraction, s.exponent, late with
  | none, none, [] =>
    if !s.negative then .whole front
    else if front = 0 ∨ front > 0x8000000000000000 then .double (-front.toUInt64.toFloat)
    else .whole (-front)
  | fraction, exponent, late =>
    let ds := fraction.getD []
    let (significand, dropped) := fit front ds
    let power : Int := late.length - (ds.length - dropped.length : Nat)
    scaled s.negative significand power exponent

end FlowGraph.Json
