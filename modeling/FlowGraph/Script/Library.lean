import FlowGraph.Decimal.Reading
import FlowGraph.Script.Call
import FlowGraph.Script.Operator
import FlowGraph.Text.Blank
import FlowGraph.Text.LetterCase
import FlowGraph.Text.Search

/-!
# Functions that scripts can call

A function is found by its name and the types of all its arguments. Functions that
change a value take it as their first argument and leave the new one; every other
function leaves its arguments alone.
-/

namespace FlowGraph.Script

/-- What a function leaves. -/
structure Given where
  value : Value
  /-- The first argument after the call, if the function changes it. -/
  receiver : Option Value
  calls : List ScriptCall

/-- What is known of a call: nothing if no function takes it. -/
abbrev Answer := Option (Except Cause Given)

namespace Answer

/-- A function that only gives a value. -/
def value (v : Value) : Answer := some (.ok ⟨v, none, []⟩)

/-- A function that changes its first argument. -/
def change (receiver result : Value) : Answer := some (.ok ⟨result, some receiver, []⟩)

/-- A function that acts on the run. -/
def act (call : ScriptCall) (result : Value) : Answer := some (.ok ⟨result, none, [call]⟩)

/-- A function that met a fault. -/
def fault (c : Cause) : Answer := some (.error c)

/-- A value or a fault. -/
def ofExcept (r : Except Cause Value) : Answer := some (r.map fun v => ⟨v, none, []⟩)

/-- The text of some characters. -/
def text (cs : List Char) : Answer := value (.str (String.ofList cs))

/-- A truth value. -/
def truth (b : Bool) : Answer := value (.bool b)

/-- A number of things. -/
def count (n : Nat) : Answer := value (.int n)

/-- A number that may be missing; then it is -1. -/
def position : Option Nat → Answer
  | some n => count n
  | none => value (.int (-1))

/-- An answer that needs the characters of a text or of a single character. -/
def withChars (v : Value) (answer : List Char → Answer) : Answer :=
  match v.chars? with
  | some cs => answer cs
  | none => none

end Answer

namespace Library

/-- The value of the code by which a script says that its step failed. -/
def failureCode : Int := -1

/-- The value of a digit in bases up to 36. -/
def digitValue? (c : Char) : Option Nat :=
  let l := c.toLower
  if l.isDigit then some (l.toNat - '0'.toNat)
  else if 'a' ≤ l && l ≤ 'z' then some (l.toNat - 'a'.toNat + 10)
  else none

/-- The number that digits of a base write. -/
def digitsIn? (base : Nat) (cs : List Char) : Option Nat :=
  cs.foldlM (fun n c => (digitValue? c).bind fun d =>
    if d < base then some (n * base + d) else none) 0

/-- The whole number that a text writes in a base. -/
def parseInt (base : Nat) (s : String) : Except Cause Value :=
  let fault (why : NumberFault) : Except Cause Value := .error (.wrongNumber s why)
  let cs := Text.trimChars s.toList
  let (negative, ds) := match cs with
    | '-' :: rest => (true, rest)
    | '+' :: rest => (false, rest)
    | _ => (false, cs)
  if cs.isEmpty then fault .empty
  else if ds.isEmpty then fault .digit
  else match digitsIn? base ds with
    | none => fault .digit
    | some n =>
      match inRange? (if negative then -(n : Int) else n) with
      | some m => .ok (.int m)
      | none => fault (if negative then .tooSmall else .tooLarge)

/-- The whole number that a text writes in a base of the script's choice. -/
def parseIntIn (s : String) (base : Int) : Except Cause Value :=
  if 2 ≤ base ∧ base ≤ 36 then parseInt base.toNat s else .error (.wrongRadix base)

/-- The double that a text writes. -/
def parseFloat (s : String) : Except Cause Value :=
  let cs := Text.trimChars s.toList
  match Decimal.readFloat? cs with
  | some x => .ok (.float x)
  | none => .error (.wrongNumber s (if cs.isEmpty then .emptyFloat else .float))

/-- The index from the front that an index means in so many items; a negative one counts
from the back. -/
def place? (size : Nat) (index : Int) : Option Nat :=
  if index < 0 then
    if index.natAbs ≤ size then some (size - index.natAbs) else none
  else if index.toNat < size then some index.toNat else none

/-- Some characters of a text, by the first one and their number. -/
def part (cs : List Char) (start length : Int) : List Char :=
  let first := if start < 0 then cs.length - start.natAbs else start.toNat
  (cs.drop first).take length.toNat

/-- The place of a text in another one, looked for from some character on. -/
def positionFrom (find cs : List Char) (start : Int) : Option Nat :=
  let first? : Option Nat :=
    if start < 0 then some (cs.length - start.natAbs)
    else if start = 0 then some 0
    else if start.toNat < cs.length then some start.toNat
    else none
  if cs.isEmpty then none
  else first?.bind fun first => (Text.position? find (cs.drop first)).map (· + first)

/-- The texts of some pieces as an array. -/
def texts (ps : List (List Char)) : Value := .array (ps.map fun p => .str (String.ofList p))

/-- A text cut in two at a character; a negative number counts from the back. -/
def cutAt (cs : List Char) (index : Int) : Value :=
  let n := if index < 0 then cs.length - index.natAbs else index.toNat
  texts [cs.take n, cs.drop n]

/-- The order in which values of one type are sorted, if they have one. -/
def sortOrder? : Value → Value → Option Bool
  | .int m, .int n => some (decide (m ≤ n))
  | .float x, .float y => some (!(y < x))
  | .char a, .char b => some (decide (a.toNat ≤ b.toNat))
  | .str s, .str t => some (!decide (t < s))
  | .bool a, .bool b => some (!a || b)
  | .unit, .unit => some true
  | _, _ => none

/-- Sorts an array of one type. -/
def sort (items : List Value) : Answer :=
  match items with
  | [] | [_] => .change (.array items) .unit
  | first :: _ =>
    if items.all fun item => (sortOrder? first item).isSome then
      .change (.array (items.mergeSort fun a b => (sortOrder? a b).getD true)) .unit
    else .fault .mixedSort

/-- The functions on texts; `s` is the text, `more` are the other arguments. -/
def onText (name : String) (s : String) (more : List Value) : Answer :=
  let cs := s.toList
  let kept (cs : List Char) : Answer := .change (.str (String.ofList cs)) .unit
  match name, more with
  | "len", [] => .count cs.length
  | "bytes", [] => .count s.utf8ByteSize
  | "is_empty", [] => .truth cs.isEmpty
  | "to_upper", [] => .value (.str (Text.upper s))
  | "to_lower", [] => .value (.str (Text.lower s))
  | "trim", [] => kept (Text.trimChars cs)
  | "clear", [] => kept []
  | "pop", [] =>
    match cs.getLast? with
    | some c => .change (.str (String.ofList cs.dropLast)) (.char c)
    | none => .change (.str s) .unit
  | "pop", [.int n] =>
    let left := cs.length - n.toNat
    .change (.str (String.ofList (cs.take left))) (.str (String.ofList (cs.drop left)))
  | "split", [] => .value (.array ((Text.words s).map .str))
  | "split", [.int n] => .value (cutAt cs n)
  | "split", [find] => .withChars find fun f => .value (texts (Text.pieces f cs))
  | "split", [find, .int n] =>
    .withChars find fun f => .value (texts (Text.piecesUpTo (max n 1).toNat f cs))
  | "replace", [find, put] =>
    .withChars find fun f => .withChars put fun p => kept (Text.replaceAll f p cs)
  | "remove", [find] => .withChars find fun f => kept (Text.replaceAll f [] cs)
  | "sub_string", [.int start, .int length] => .text (part cs start length)
  | "sub_string", [.int start] => .text (part cs start s.utf8ByteSize)
  | "sub_string", [.range first last closed] =>
    let start := max first 0
    .text (part cs start ((if closed then last + 1 else last) - start))
  | "contains", [find] => .withChars find fun f => .truth (Text.position? f cs).isSome
  | "index_of", [find] => .withChars find fun f => .position (positionFrom f cs 0)
  | "index_of", [find, .int start] =>
    .withChars find fun f => .position (positionFrom f cs start)
  | "starts_with", [.str t] => .truth (t.toList.isPrefixOf cs)
  | "ends_with", [.str t] => .truth (t.toList.isSuffixOf cs)
  | "parse_int", [] => .ofExcept (parseInt 10 s)
  | "parse_int", [.int base] => .ofExcept (parseIntIn s base)
  | "parse_float", [] => .ofExcept (parseFloat s)
  | "log", [] => .act (.log s) .unit
  | "fail", [] => .act (.fail s) (.int failureCode)
  | "set_working_file", [] => .act (.setWorkingFile s) .unit
  | _, _ => none

/-- The functions on arrays. -/
def onArray (name : String) (items : List Value) (more : List Value) : Answer :=
  match name, more with
  | "len", [] => .count items.length
  | "is_empty", [] => .truth items.isEmpty
  | "push", [item] => .change (.array (items ++ [item])) .unit
  | "pop", [] => .change (.array items.dropLast) (items.getLast?.getD .unit)
  | "shift", [] => .change (.array (items.drop 1)) (items.head?.getD .unit)
  | "clear", [] => .change (.array []) .unit
  | "reverse", [] => .change (.array items.reverse) .unit
  | "sort", [] => sort items
  | "contains", [item] => .truth (items.any fun other => other.equals item)
  | "index_of", [item] => .position (items.findIdx? fun other => other.equals item)
  | "remove", [.int index] =>
    match place? items.length index with
    | some n => .change (.array (items.eraseIdx n)) (items[n]?.getD .unit)
    | none => .change (.array items) .unit
  | _, _ => none

/-- The functions on maps. -/
def onMap (name : String) (fields : List (String × Value)) (more : List Value) : Answer :=
  match name, more with
  | "len", [] => .count fields.length
  | "is_empty", [] => .truth fields.isEmpty
  | "keys", [] => .value (.array (fields.map fun field => .str field.1))
  | "values", [] => .value (.array (fields.map (·.2)))
  | "clear", [] => .change (.map []) .unit
  | "contains", [.str key] => .truth (fields.lookup key).isSome
  | "remove", [.str key] =>
    .change (.map (fields.filter fun field => field.1 != key)) ((fields.lookup key).getD .unit)
  | _, _ => none

/-- A whole number lies in a range. -/
def inRange (first last : Int) (closed : Bool) (n : Int) : Bool :=
  first ≤ n && (n < last || (closed && n == last))

/-- The functions on values of every type. -/
def onAny (name : String) (v : Value) : Answer :=
  match name with
  | "to_string" => .value (.str v.text)
  | "to_debug" => .text v.inner
  | "type_of" => .value (.str v.typeName)
  | _ => none

/-- The functions on values of other types. -/
def onOther (name : String) (v : Value) (more : List Value) : Answer :=
  match name, v, more with
  | "to_upper", .char c, [] => .value (.char (Text.single Text.upperChars c))
  | "to_lower", .char c, [] => .value (.char (Text.single Text.lowerChars c))
  | "log", .float x, [] => .value (.float x.log10)
  | "contains", .range first last closed, [.int n] => .truth (inRange first last closed n)
  | _, _, _ => none

/-- The answer to a call. -/
def call (name : String) (arguments : List Value) : Answer :=
  match arguments with
  | [] => none
  | v :: more =>
    let special := match v with
      | .str s => onText name s more
      | .array items => onArray name items more
      | .map fields => onMap name fields more
      | v => onOther name v more
    match special with
    | some answer => some answer
    | none => if more.isEmpty then onAny name v else none

/-- The property of a value other than a map. -/
def property (v : Value) (name : String) : Except Cause Value :=
  match v, name with
  | .str s, "len" => .ok (.int s.length)
  | .str s, "bytes" => .ok (.int s.utf8ByteSize)
  | .str s, "is_empty" => .ok (.bool s.isEmpty)
  | .array items, "len" => .ok (.int items.length)
  | .array items, "is_empty" => .ok (.bool items.isEmpty)
  | v, name => .error (.noProperty name v.typeName)

/-- The whole number that an index is. -/
def wholeIndex (index : Value) : Except Cause Int :=
  match index with
  | .int n => .ok n
  | v => .error (.wrongType v.typeName (Value.int 0).typeName)

/-- The place that an index means in a list of so many items, or the fault that says
why there is none. -/
def placeIn (size : Nat) (index : Value) (fault : Nat → Int → Cause) : Except Cause Nat := do
  let n ← wholeIndex index
  match place? size n with
  | some k => return k
  | none => throw (fault size n)

/-- The name of a field that an index is. -/
def fieldIndex (index : Value) : Except Cause String :=
  match index with
  | .str key => .ok key
  | v => .error (.wrongType v.typeName (Value.str "").typeName)

/-- The bit of a whole number at a place. -/
def bit (n : Int) (k : Nat) : Bool := (n >>> k) % 2 = 1

/-- The part of a value at an index. -/
def at_ (v index : Value) : Except Cause Value :=
  match v with
  | .array items => do
    let k ← placeIn items.length index .arrayIndex
    return items[k]?.getD .unit
  | .map fields => do
    let key ← fieldIndex index
    return (fields.lookup key).getD .unit
  | .str s =>
    match index with
    | .range first last closed =>
      .ok (.str (String.ofList (part s.toList first ((if closed then last + 1 else last) - first))))
    | index => do
      let k ← placeIn s.length index .textIndex
      return ((s.toList[k]?).map Value.char).getD .unit
  | .int n => do
    let k ← placeIn 64 index fun _ i => .bitIndex i
    return .bool (bit n k)
  | v => .error (.noIndexer v.typeName index.typeName)

end Library

end FlowGraph.Script
