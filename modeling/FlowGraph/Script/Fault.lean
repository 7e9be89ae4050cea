import FlowGraph.Script.Expr
import FlowGraph.Script.Place
import FlowGraph.Script.Value

/-!
# Faults of running scripts

A fault has a cause, and the place of the phrase that met it. A fault inside a function
is told together with the call it came from. Scripts can catch faults, other than calls
that go too deep.
-/

namespace FlowGraph.Script

/-- Why a text is no number. -/
inductive NumberFault where
  | empty
  | digit
  | tooLarge
  | tooSmall
  | float
  | emptyFloat
  deriving DecidableEq

/-- Why running a script cannot go on. -/
inductive Cause where
  /-- A script threw the value itself. -/
  | thrown (v : Value)
  | unknownVariable (name : String)
  | unknownFunction (name : String) (arguments : List Value)
  | mixedSort
  | overflow (op : BinaryOp) (x y : Int)
  | divisionByZero (x y : Int)
  | remainder (x y : Int)
  | negativePower (x y : Int)
  | negationOverflow (x : Int)
  | wrongNumber (text : String) (why : NumberFault)
  | wrongRadix (radix : Int)
  | wrongType (actual expected : String)
  | noItems
  | arrayIndex (size : Nat) (index : Int)
  | textIndex (size : Nat) (index : Int)
  | bitIndex (index : Int)
  | noProperty (name typeName : String)
  | readOnlyProperty (name typeName valueType : String)
  | noIndexer (typeName indexType : String)
  | readOnlyIndexer (typeName indexType valueType : String)
  | changedConstant (method : String)
  | noSelf
  | tooManyCalls
  /-- Running took more steps than it was given. -/
  | exhausted

namespace NumberFault

/-- The wording of what is wrong with a text that should be a number. -/
def message : NumberFault → String
  | empty => "cannot parse integer from empty string"
  | digit => "invalid digit found in string"
  | tooLarge => "number too large to fit in target type"
  | tooSmall => "number too small to fit in target type"
  | float => "invalid float literal"
  | emptyFloat => "cannot parse float from empty string"

/-- The kind of number that was wanted. -/
def kind : NumberFault → String
  | float | emptyFloat => "floating-point"
  | _ => "integer"

end NumberFault

namespace Cause

/-- How the type of an argument is shown when no function takes it. -/
def argumentType (v : Value) : String :=
  if v.isText then "&str | ImmutableString | String" else v.typeName

/-- A call that no function takes. -/
def signature (name : String) (arguments : List Value) : String :=
  name ++ " (" ++ ", ".intercalate (arguments.map argumentType) ++ ")"

/-- The wording for an operator whose result is out of range. -/
def overflowName : BinaryOp → String
  | .add => "Addition"
  | .sub => "Subtraction"
  | .mul => "Multiplication"
  | .div => "Division"
  | _ => "Exponential"

/-- An operator between two numbers. -/
def operation (op : BinaryOp) (x y : Int) : String :=
  toString x ++ " " ++ op.sign ++ " " ++ toString y

/-- The wording for an index out of bounds. -/
def bounds (what thing one many : String) (size : Nat) (index : Int) : String :=
  what ++ " index " ++ toString index ++ " out of bounds: " ++
    (match size with
    | 0 => thing ++ " is empty"
    | 1 => "only 1 " ++ one ++ " in " ++ thing
    | n => "only " ++ toString n ++ " " ++ many ++ " in " ++ thing)

/-- The wording of a cause. -/
def message : Cause → String
  | thrown v =>
    match v with
    | .unit | .str "" => "Runtime error"
    | v => "Runtime error: " ++ v.text
  | unknownVariable name => "Variable not found: " ++ name
  | unknownFunction name arguments => "Function not found: " ++ signature name arguments
  | mixedSort => "Function not found: sort() cannot be called with elements of different types"
  | overflow op x y => overflowName op ++ " overflow: " ++ operation op x y
  | divisionByZero x y => "Division by zero: " ++ operation .div x y
  | remainder x y => "Modulo division by zero or overflow: " ++ operation .rem x y
  | negativePower x y => "Integer raised to a negative power: " ++ operation .pow x y
  | negationOverflow x => "Negation overflow: -" ++ toString x
  | wrongNumber text why =>
    "Error parsing " ++ why.kind ++ " number '" ++ text ++ "': " ++ why.message
  | wrongRadix radix => "Invalid radix: '" ++ toString radix ++ "'"
  | wrongType actual expected =>
    "Data type incorrect: " ++ actual ++ " (expecting " ++ expected ++ ")"
  | noItems => "For loop expects iterable type"
  | arrayIndex size index => bounds "Array" "array" "element" "elements" size index
  | textIndex size index => bounds "String" "string" "character" "characters" size index
  | bitIndex index => bounds "Bit-field" "bit-field" "bit" "bits" 64 index
  | noProperty name typeName =>
    "Unknown property '" ++ name ++ "' - a getter is not registered for type '" ++ typeName ++ "'"
  | readOnlyProperty name typeName valueType =>
    "No writable property '" ++ name ++ "' - a setter is not registered for type '" ++ typeName ++
      "' to handle '" ++ valueType ++ "'"
  | noIndexer typeName indexType =>
    "Indexer unavailable: " ++ typeName ++ " [" ++ indexType ++ "]"
  | readOnlyIndexer typeName indexType valueType =>
    "Indexer unavailable: " ++ typeName ++ " [" ++ indexType ++ "] = " ++ valueType
  | changedConstant method =>
    "Non-pure method '" ++ method ++ "' cannot be called on a constant"
  | noSelf => "'this' not bound"
  | tooManyCalls => "Stack overflow"
  | exhausted => "Too many operations"

/-- Scripts cannot catch the fault, and it passes through calls untold. -/
def isFinal : Cause → Bool
  | tooManyCalls | exhausted => true
  | _ => false

/-- The name of a kind of fault in the value that a script catches. -/
def kindName : Cause → String
  | thrown _ => "ErrorRuntime"
  | unknownVariable _ => "ErrorVariableNotFound"
  | unknownFunction _ _ | mixedSort => "ErrorFunctionNotFound"
  | overflow .. | divisionByZero .. | remainder .. | negativePower .. | negationOverflow _ =>
    "ErrorArithmetic"
  | wrongNumber .. | wrongRadix _ => "ErrorArithmetic"
  | wrongType .. => "ErrorMismatchDataType"
  | noItems => "ErrorFor"
  | arrayIndex .. => "ErrorArrayBounds"
  | textIndex .. => "ErrorStringBounds"
  | bitIndex _ => "ErrorBitFieldBounds"
  | noProperty .. | readOnlyProperty .. => "ErrorDotExpr"
  | noIndexer .. | readOnlyIndexer .. => "ErrorIndexingType"
  | changedConstant _ => "ErrorNonPureMethodCallOnConstant"
  | noSelf => "ErrorUnboundThis"
  | tooManyCalls => "ErrorStackOverflow"
  | exhausted => "ErrorTooManyOperations"

/-- What a caught fault says of itself besides its message. -/
def details : Cause → List (String × Value)
  | unknownVariable name => [("variable", .str name)]
  | unknownFunction name arguments => [("function", .str (signature name arguments))]
  | mixedSort =>
    [("function", .str "sort() cannot be called with elements of different types")]
  | wrongType actual expected => [("requested", .str expected), ("actual", .str actual)]
  | arrayIndex size index | textIndex size index => [("length", .int size), ("index", .int index)]
  | bitIndex index => [("length", .int 64), ("index", .int index)]
  | _ => []

end Cause

/-- A fault. -/
inductive Fault where
  | met (cause : Cause) (place : Option Place)
  /-- A fault inside a function, with the place of the call. -/
  | inCall (function : String) (fault : Fault) (place : Place)

namespace Fault

/-- What is at the bottom of a fault. -/
def cause : Fault → Cause
  | met cause _ => cause
  | inCall _ fault _ => fault.cause

/-- The place of a fault. -/
def place : Fault → Option Place
  | met _ place => place
  | inCall _ _ place => some place

/-- The fault at another place. -/
def at_ (place : Place) : Fault → Fault
  | met cause _ => met cause (some place)
  | inCall function fault _ => inCall function fault place

mutual

/-- The wording of a fault without its own place. -/
def message : Fault → String
  | met cause _ => cause.message
  | inCall function fault _ => fault.text ++ "\nin call to function '" ++ function ++ "'"

/-- The wording of a fault. -/
def text : Fault → String
  | met cause place => Place.note cause.message place
  | inCall function fault place =>
    Place.note (fault.text ++ "\nin call to function '" ++ function ++ "'") (some place)

end

/-- The value that a script catches. -/
def caught (f : Fault) : Value :=
  match f.cause with
  | .thrown v => v
  | cause =>
    let kind := match f with
      | met .. => [("error", Value.str cause.kindName)] ++ cause.details
      | inCall function .. =>
        [("error", .str "ErrorInFunctionCall"), ("function", .str function), ("source", .str "")]
    let place := match f.place with
      | some p => [("line", Value.int p.line), ("position", .int p.position)]
      | none => []
    Value.ofFields (("message", .str f.message) :: place ++ kind)

end Fault

end FlowGraph.Script
