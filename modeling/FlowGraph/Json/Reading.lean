import FlowGraph.Json.Token

/-!
# From tokens to a draft

The tokens are folded onto a stack of open brackets. A finished value goes to the
bracket on top, and with no bracket open it is the outcome; a token in a place where
it must not stand ends the reading and leaves every open bracket as it is.
-/

namespace FlowGraph.Json

/-- An open bracket with what it holds so far, last one first. -/
inductive Frame where
  | list (items : List Draft)
  /-- An object, and the key whose value is being read. -/
  | object (fields : List (Option String × Draft)) (key : Option String)

/-- What may come next. -/
inductive Expect where
  | value
  /-- A value or the end of a list just opened. -/
  | firstItem
  /-- A key; or the end of the object, if it was just opened. -/
  | key (mayClose : Bool)
  | colon
  /-- A comma or a closing bracket. -/
  | separator

/-- The open brackets, innermost first, and what may come next. -/
structure Place where
  stack : List Frame
  expect : Expect

/-- The outcome of one token. -/
inductive Progress where
  | next (place : Place)
  /-- The outermost value is finished. -/
  | finished (value : Draft)
  /-- The reading stops here. -/
  | stopped (value : Draft)

/-- Leaves every open bracket with what it holds, the innermost one as the value being
read in the next. -/
def leave (fault : Fault) : Draft → List Frame → Draft
  | value, [] => value
  | value, .list items :: stack =>
    leave fault (.arr (value :: items).reverse (some fault)) stack
  | value, .object fields key :: stack =>
    leave fault (.obj ((key, value) :: fields).reverse (some fault)) stack

/-- Leaves all brackets at a place where the innermost one has no value under way. -/
def leaveOpen (fault : Fault) : List Frame → Draft
  | [] => .unreadable fault (some fault)
  | .list items :: stack => leave fault (.arr items.reverse (some fault)) stack
  | .object fields _ :: stack => leave fault (.obj fields.reverse (some fault)) stack

/-- Hands a finished value to the innermost bracket. -/
def deliver (value : Draft) : List Frame → Progress
  | [] => .finished value
  | .list items :: stack => .next ⟨.list (value :: items) :: stack, .separator⟩
  | .object fields key :: stack =>
    .next ⟨.object ((key, value) :: fields) none :: stack, .separator⟩

/-- A value that cannot be read is the last thing read. -/
def deliverBroken (wanted skipped : Fault) (stack : List Frame) : Progress :=
  .stopped (leave wanted (.unreadable wanted (some skipped)) stack)

/-- A token where a value may start. -/
def startValue (stack : List Frame) : Token → Progress
  | .openList => .next ⟨.list [] :: stack, .firstItem⟩
  | .openObject => .next ⟨.object [] none :: stack, .key true⟩
  | .plain (.unreadable wanted (some skipped)) => deliverBroken wanted skipped stack
  | .plain value => deliver value stack
  | .text (some s) => deliver (.str s) stack
  | .text none => deliver (.unreadable .malformed none) stack
  | .brokenText wanted skipped => deliverBroken wanted skipped stack
  | _ => deliverBroken .malformed .malformed stack

/-- A token after a finished value. -/
def afterValue (stack : List Frame) (token : Token) : Progress :=
  match stack, token with
  | .list _ :: _, .comma => .next ⟨stack, .value⟩
  | .list items :: outer, .closeList => deliver (.arr items.reverse none) outer
  | .object _ _ :: _, .comma => .next ⟨stack, .key false⟩
  | .object fields _ :: outer, .closeObject => deliver (.obj fields.reverse none) outer
  | _, _ => .stopped (leaveOpen .malformed stack)

/-- A token where a key must stand. -/
def startKey (mayClose : Bool) (stack : List Frame) (token : Token) : Progress :=
  match stack, token with
  | .object fields _ :: outer, .text key => .next ⟨.object fields key :: outer, .colon⟩
  | .object _ _ :: _, .brokenText wanted _ => .stopped (leaveOpen wanted stack)
  | .object fields _ :: outer, .closeObject =>
    if mayClose then deliver (.obj fields.reverse none) outer
    else .stopped (leaveOpen .malformed stack)
  | _, _ => .stopped (leaveOpen .malformed stack)

/-- The outcome of one token at a place. -/
def Place.step (p : Place) (token : Token) : Progress :=
  match p.expect, token with
  | .value, token => startValue p.stack token
  | .firstItem, .closeList => afterValue p.stack token
  | .firstItem, token => startValue p.stack token
  | .key mayClose, token => startKey mayClose p.stack token
  | .colon, .colon => .next ⟨p.stack, .value⟩
  | .colon, _ => deliverBroken .malformed .malformed p.stack
  | .separator, token => afterValue p.stack token

/-- The draft of a text that ends at a place. -/
def Place.cutOff (p : Place) : Draft :=
  match p.expect with
  | .value | .colon => leave .ended (.unreadable .ended (some .ended)) p.stack
  | _ => leaveOpen .ended p.stack

/-- Reads one value; gives the tokens after it unless the reading stopped. -/
def readFrom (p : Place) : List Token → Draft × Option (List Token)
  | [] => (p.cutOff, none)
  | token :: rest =>
    match p.step token with
    | .next p => readFrom p rest
    | .finished value => (value, some rest)
    | .stopped value => (value, none)

/-- Reads the value at the front of a text. -/
def readDraft (cs : List Char) : Draft × Option (List Token) :=
  readFrom ⟨[], .value⟩ (tokens cs)

end FlowGraph.Json
