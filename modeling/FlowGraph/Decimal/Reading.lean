/-!
# Reading a double

A double is written as decimal digits with an optional point and an optional power of
ten, or as a word for infinity or for what is not a number. The value is the nearest
double to the number that is written.
-/

namespace FlowGraph.Decimal

/-- Decimal digits with a point and a power of ten, in parts. -/
structure Written where
  whole : List Char
  fraction : List Char
  /-- The exponent, already signed. -/
  exponent : Int

/-- The number that decimal digits write. -/
def digitsNumber (ds : List Char) : Nat :=
  ds.foldl (fun n d => n * 10 + (d.toNat - '0'.toNat)) 0

/-- No double has a first digit at or above this power of ten. -/
def overflowPower : Int := 309

/-- Every number whose first digit is below this power of ten is nearest to zero. -/
def underflowPower : Int := -325

/-- The nearest double to `n · 10 ^ power`. -/
def nearest (n : Nat) (power : Int) : Float :=
  let first : Int := power + (Nat.toDigits 10 n).length - 1
  if n = 0 || first < underflowPower then 0.0
  else if first ≥ overflowPower then 1.0 / 0.0
  else if power < 0 then Float.ofScientific n true (-power).toNat
  else Float.ofScientific (n * Nat.pow 10 power.toNat) false 0

/-- The nearest double to a written number. -/
def Written.value (w : Written) : Float :=
  nearest (digitsNumber (w.whole ++ w.fraction)) (w.exponent - w.fraction.length)

/-- A sign in front, taken off; true for a minus. -/
def signed (cs : List Char) : Bool × List Char :=
  match cs with
  | '-' :: rest => (true, rest)
  | '+' :: rest => (false, rest)
  | _ => (false, cs)

/-- An exponent after its mark. -/
def exponent? (cs : List Char) : Option Int :=
  let (negative, ds) := signed cs
  if ds.isEmpty || !ds.all Char.isDigit then none
  else if negative then some (-digitsNumber ds) else some (digitsNumber ds)

/-- The parts of a number without its sign, if the text writes one. -/
def written? (cs : List Char) : Option Written :=
  let whole := cs.takeWhile Char.isDigit
  let (fraction, rest) := match cs.dropWhile Char.isDigit with
    | '.' :: rest => (rest.takeWhile Char.isDigit, rest.dropWhile Char.isDigit)
    | rest => ([], rest)
  if whole.isEmpty && fraction.isEmpty then none
  else match rest with
    | [] => some ⟨whole, fraction, 0⟩
    | mark :: rest =>
      if mark = 'e' || mark = 'E' then (exponent? rest).map fun e => ⟨whole, fraction, e⟩
      else none

/-- The words for infinity. -/
def infinityWords : List (List Char) := ["inf".toList, "infinity".toList]

/-- The word for what is not a number. -/
def nanWord : List Char := "nan".toList

/-- The double that a text writes. -/
def readFloat? (cs : List Char) : Option Float :=
  let (negative, body) := signed cs
  let word := body.map Char.toLower
  let size : Option Float :=
    if infinityWords.contains word then some (1.0 / 0.0)
    else if word = nanWord then some (0.0 / 0.0)
    else (written? body).map Written.value
  size.map fun x => if negative then -x else x

end FlowGraph.Decimal
