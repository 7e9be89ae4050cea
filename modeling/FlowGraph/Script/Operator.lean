import FlowGraph.Decimal.Remainder
import FlowGraph.Script.Fault
import FlowGraph.Text.Search

/-!
# Operators

Whole numbers that leave their range are a fault. A whole number beside a double counts
as a double, and a character beside a text as a text. A text takes up the text of any
value that is added to it. Values of different types are never equal, and none is less
than the other.
-/

namespace FlowGraph.Script

namespace Value

/-- The characters of a text or of a single character. -/
def chars? : Value → Option (List Char)
  | str s => some s.toList
  | char c => some [c]
  | _ => none

/-- A number as a double. -/
def double? : Value → Option Float
  | int n => some (toDouble n)
  | float x => some x
  | _ => none

mutual

/-- Equality as the operator has it. -/
def equals : Value → Value → Bool
  | unit, unit => true
  | bool a, bool b => a == b
  | int m, int n => m == n
  | int m, float y => toDouble m == y
  | float x, int n => x == toDouble n
  | float x, float y => x == y
  | char a, char b => a == b
  | char a, str t => [a] == t.toList
  | str s, char b => s.toList == [b]
  | str s, str t => s == t
  | array xs, array ys => equalItems xs ys
  | map xs, map ys => equalFields xs ys
  | range a b c, range d e f => a == d && b == e && c == f
  | _, _ => false

/-- The items are equal one by one. -/
def equalItems : List Value → List Value → Bool
  | [], [] => true
  | x :: xs, y :: ys => equals x y && equalItems xs ys
  | _, _ => false

/-- The fields have the same names and equal values one by one. -/
def equalFields : List (String × Value) → List (String × Value) → Bool
  | [], [] => true
  | (k, x) :: xs, (l, y) :: ys => k == l && equals x y && equalFields xs ys
  | _, _ => false

end

end Value

namespace BinaryOp

/-- What an order says to a comparison. -/
def holdsFor {α : Type} (op : BinaryOp) (less : α → α → Bool) (x y : α) : Bool :=
  match op with
  | lt => less x y
  | le => !less y x
  | gt => less y x
  | ge => !less x y
  | _ => false

/-- A comparison of doubles. -/
def compareDoubles (op : BinaryOp) (x y : Float) : Bool :=
  match op with
  | lt => x < y
  | le => x <= y
  | gt => y < x
  | ge => y <= x
  | _ => false

/-- An order between values, if they have one. -/
def ordered? (op : BinaryOp) : Value → Value → Option Bool
  | .unit, .unit => some false
  | .bool a, .bool b => some (op.holdsFor (fun a b => !a && b) a b)
  | .int m, .int n => some (op.holdsFor (fun m n => decide (m < n)) m n)
  | .array _, .array _ | .map _, .map _ => none
  | .range _ _ c, .range _ _ d => if c == d then none else some false
  | x, y =>
    match x.double?, y.double?, x.chars?, y.chars? with
    | some x, some y, _, _ => some (op.compareDoubles x y)
    | _, _, some s, some t =>
      some (op.holdsFor (fun s t => decide (String.ofList s < String.ofList t)) s t)
    | _, _, _, _ => some false

/-- The result of a whole-number operation, which must be in range. -/
def inRange (op : BinaryOp) (x y n : Int) : Except Cause Value :=
  match inRange? n with
  | some n => .ok (.int n)
  | none => .error (.overflow op x y)

/-- No power above this one of a number other than -1, 0 and 1 is in range. -/
def greatestPower : Nat := 64

/-- A power of whole numbers. -/
def power (x y : Int) : Except Cause Value :=
  if y < 0 then .error (.negativePower x y)
  else if y ≥ UInt32.size then .error (.overflow pow x y)
  else if x = 0 || x = 1 || x = -1 then .ok (.int (if y = 0 || (x = -1 && y % 2 = 0) then 1 else x))
  else if y > greatestPower then .error (.overflow pow x y)
  else inRange pow x y (Int.pow x y.toNat)

/-- An operation on whole numbers, if it is one. -/
def onInts? (op : BinaryOp) (x y : Int) : Option (Except Cause Value) :=
  match op with
  | add => some (inRange op x y (x + y))
  | sub => some (inRange op x y (x - y))
  | mul => some (inRange op x y (x * y))
  | div =>
    some (if y = 0 then .error (.divisionByZero x y) else inRange op x y (x.tdiv y))
  | rem =>
    some (if y = 0 || (x = minInt && y = -1) then .error (.remainder x y)
      else .ok (.int (x.tmod y)))
  | pow => some (power x y)
  | range => some (.ok (.range x y false))
  | closedRange => some (.ok (.range x y true))
  | _ => none

/-- An operation on doubles, if it is one. -/
def onDoubles? (op : BinaryOp) (x y : Float) : Option Value :=
  match op with
  | add => some (.float (x + y))
  | sub => some (.float (x - y))
  | mul => some (.float (x * y))
  | div => some (.float (x / y))
  | rem => some (.float (Decimal.remainder x y))
  | pow => some (.float (x.pow y))
  | _ => none

/-- The sum of values other than numbers, if there is one. -/
def sum? : Value → Value → Option Value
  | .array xs, .array ys => some (.array (xs ++ ys))
  | .map xs, .map ys => some (.ofFields (xs ++ ys))
  | .str s, y => some (.str (s ++ y.text))
  | x, .str t => some (.str (x.text ++ t))
  | .char a, .char b => some (.str (String.ofList [a, b]))
  | _, _ => none

/-- The difference of texts, if there is one: the left text without the right one. -/
def difference? : Value → Value → Option Value
  | .str s, y => y.chars?.map fun t => .str (String.ofList (Text.replaceAll t [] s.toList))
  | _, _ => none

/-- An operation other than a comparison, if the values have it. -/
def compute? (op : BinaryOp) (x y : Value) : Option (Except Cause Value) :=
  match x, y with
  | .int m, .int n => onInts? op m n
  | _, _ =>
    match x.double?, y.double? with
    | some m, some n => (onDoubles? op m n).map .ok
    | _, _ =>
      match op with
      | add => (sum? x y).map .ok
      | sub => (difference? x y).map .ok
      | _ => none

/-- The value of an operator between two values. -/
def apply (op : BinaryOp) (x y : Value) : Except Cause Value :=
  let missing : Except Cause Value := .error (.unknownFunction op.sign [x, y])
  match op with
  | eq => .ok (.bool (x.equals y))
  | ne => .ok (.bool (!x.equals y))
  | lt | le | gt | ge =>
    match op.ordered? x y with
    | some b => .ok (.bool b)
    | none => missing
  | _ => (op.compute? x y).getD missing

/-- The value that an assignment by an operator leaves. -/
def assign (op : BinaryOp) (old new : Value) : Except Cause Value :=
  match op, old, new with
  | add, .array xs, .array ys => .ok (.array (xs ++ ys))
  | add, .array xs, y => .ok (.array (xs ++ [y]))
  | _, _, _ => op.apply old new

end BinaryOp

namespace UnaryOp

/-- The value of an operator in front of a value. -/
def apply (op : UnaryOp) (x : Value) : Except Cause Value :=
  match op, x with
  | negate, .int n =>
    match inRange? (-n) with
    | some m => .ok (.int m)
    | none => .error (.negationOverflow n)
  | negate, .float x => .ok (.float (-x))
  | plus, .int n => .ok (.int n)
  | plus, .float x => .ok (.float x)
  | not, .bool b => .ok (.bool (!b))
  | _, _ => .error (.unknownFunction op.sign [x])

end UnaryOp

end FlowGraph.Script
