import FlowGraph.Decimal.Layout
import FlowGraph.Dict
import FlowGraph.Text.Quoted

/-!
# Values of scripts

A value has one text form for output and one for its place inside an array or a map,
where texts are quoted. Maps hold their fields in rising key order.
-/

namespace FlowGraph.Script

/-- A value. -/
inductive Value where
  | unit
  | bool (b : Bool)
  | int (n : Int)
  | float (x : Float)
  | char (c : Char)
  | str (s : String)
  | array (items : List Value)
  | map (fields : List (String × Value))
  /-- The whole numbers from the first to the last one, which belongs to the range if it
  is closed. -/
  | range (first last : Int) (closed : Bool)
  deriving Inhabited

/-- The least whole number. -/
def minInt : Int := -0x8000000000000000

/-- The greatest whole number. -/
def maxInt : Int := 0x7fffffffffffffff

/-- A result that is a whole number of scripts, if it is one. -/
def inRange? (n : Int) : Option Int :=
  if minInt ≤ n ∧ n ≤ maxInt then some n else none

namespace Value

/-- The name of a value's type in messages. -/
def typeName : Value → String
  | unit => "()"
  | bool _ => "bool"
  | int _ => "i64"
  | float _ => "f64"
  | char _ => "char"
  | str _ => "string"
  | array _ => "array"
  | map _ => "map"
  | range _ _ false => "range"
  | range _ _ true => "range="

/-- The unabridged name of a value's type. -/
def fullTypeName : Value → String
  | range _ _ false => "core::ops::range::Range<i64>"
  | range _ _ true => "core::ops::range::RangeInclusive<i64>"
  | v => v.typeName

/-- The value is a text. -/
def isText : Value → Bool
  | str _ => true
  | _ => false

/-- Numbers beyond this one are written with a power of ten. -/
def largestPlain : Float := (1e13 : Float32).toFloat

/-- Numbers nearer to zero than this one are written with a power of ten. -/
def smallestPlain : Float := (1e-13 : Float32).toFloat

/-- The text of a double that is written by digits, or by a word. -/
def floatChars (digits : Decimal.Scientific → List Char) (x : Float) : List Char :=
  if x.isNaN then "NaN".toList
  else
    let body := if x.isInf then "inf".toList else digits (Decimal.ofFloat x)
    if Decimal.isNegative x then '-' :: body else body

/-- The text of a double. -/
def floatText (x : Float) : List Char :=
  if x == 0.0 then ['0', '.', '0']
  else if largestPlain < x.abs || x.abs < smallestPlain then
    floatChars (Decimal.scientific false) x
  else floatChars (Decimal.positional true) x

/-- How a double is written inside an array or a map. -/
def innerLayout : Decimal.Layout := ⟨-4, 15, false⟩

/-- The text of a double inside an array or a map. -/
def innerFloatText (x : Float) : List Char := floatChars innerLayout.write x

/-- The text of a whole number. -/
def intText (n : Int) : List Char := (toString n).toList

/-- The text of a truth value. -/
def boolText (b : Bool) : List Char := if b then "true".toList else "false".toList

/-- The text of a range. -/
def rangeText (first last : Int) (closed : Bool) : List Char :=
  intText first ++ (if closed then ['.', '.', '='] else ['.', '.']) ++ intText last

/-- A character between single quotes. -/
def quotedChar (c : Char) : List Char :=
  let body := match c with
    | '\'' => ['\\', '\'']
    | '"' => ['"']
    | c => Text.quoteChar c
  '\'' :: (body ++ ['\''])

mutual

/-- The text of a value inside an array or a map. -/
def inner : Value → List Char
  | unit => ['(', ')']
  | bool b => boolText b
  | int n => intText n
  | float x => innerFloatText x
  | char c => quotedChar c
  | str s => (Text.quoted s).toList
  | array items => '[' :: (innerItems items ++ [']'])
  | map fields => '#' :: '\x7b' :: (innerFields fields ++ ['\x7d'])
  | range first last closed => rangeText first last closed

/-- The items of an array, separated by commas. -/
def innerItems : List Value → List Char
  | [] => []
  | [item] => inner item
  | item :: items => inner item ++ ',' :: ' ' :: innerItems items

/-- The fields of a map, separated by commas. -/
def innerFields : List (String × Value) → List Char
  | [] => []
  | [(key, value)] => (Text.quoted key).toList ++ ':' :: ' ' :: inner value
  | (key, value) :: fields =>
    (Text.quoted key).toList ++ ':' :: ' ' :: (inner value ++ ',' :: ' ' :: innerFields fields)

end

/-- The text of a value. -/
def text : Value → String
  | unit => ""
  | float x => String.ofList (floatText x)
  | char c => c.toString
  | str s => s
  | v => String.ofList v.inner

mutual

/-- Two values are the same in type and content. -/
def same : Value → Value → Bool
  | unit, unit => true
  | bool a, bool b => a == b
  | int m, int n => m == n
  | float x, float y => x.toBits == y.toBits
  | char a, char b => a == b
  | str s, str t => s == t
  | array xs, array ys => sameItems xs ys
  | map xs, map ys => sameFields xs ys
  | range a b c, range d e f => a == d && b == e && c == f
  | _, _ => false

/-- The items are the same one by one. -/
def sameItems : List Value → List Value → Bool
  | [], [] => true
  | x :: xs, y :: ys => same x y && sameItems xs ys
  | _, _ => false

/-- The fields are the same one by one. -/
def sameFields : List (String × Value) → List (String × Value) → Bool
  | [], [] => true
  | (k, x) :: xs, (l, y) :: ys => k == l && same x y && sameFields xs ys
  | _, _ => false

end

/-- The map of some fields; the last one of a name stays. -/
def ofFields (fields : List (String × Value)) : Value :=
  map (fields.foldl (fun placed field => Dict.place field.1 field.2 placed) [])

/-- A whole number as a double. -/
def toDouble (n : Int) : Float :=
  if n < 0 then -(Float.ofNat n.natAbs) else Float.ofNat n.natAbs

end Value

end FlowGraph.Script
