import FlowGraph.Script.Place
import FlowGraph.Script.Value

/-!
# Expressions and statements

A script is a list of statements and the functions that stand between them. Chains of
properties, methods and indices are kept flat: a root and its links from left to right.
-/

namespace FlowGraph.Script

/-- An operator in front of its operand. -/
inductive UnaryOp where
  | negate
  | plus
  | not
  deriving DecidableEq

/-- An operator between its operands. -/
inductive BinaryOp where
  | add
  | sub
  | mul
  | div
  | rem
  | pow
  | eq
  | ne
  | lt
  | le
  | gt
  | ge
  | range
  | closedRange
  deriving DecidableEq

namespace UnaryOp

/-- The sign of an operator. -/
def sign : UnaryOp → String
  | negate => "-"
  | plus => "+"
  | not => "!"

end UnaryOp

namespace BinaryOp

/-- The sign of an operator. -/
def sign : BinaryOp → String
  | add => "+"
  | sub => "-"
  | mul => "*"
  | div => "/"
  | rem => "%"
  | pow => "**"
  | eq => "=="
  | ne => "!="
  | lt => "<"
  | le => "<="
  | gt => ">"
  | ge => ">="
  | range => ".."
  | closedRange => "..="

/-- The operator compares its operands. -/
def compares : BinaryOp → Bool
  | eq | ne | lt | le | gt | ge => true
  | _ => false

end BinaryOp

mutual

/-- An expression, with the place that messages about it show. -/
inductive Expr where
  | literal (value : Value) (place : Place)
  /-- A text put together from the texts of its parts. -/
  | text (parts : List Expr) (place : Place)
  | array (items : List Expr) (place : Place)
  | map (fields : List (String × Expr)) (place : Place)
  | variable (name : String) (place : Place)
  /-- The value that a function was called on. -/
  | self (place : Place)
  | both (left right : Expr) (place : Place)
  | either (left right : Expr) (place : Place)
  /-- The left value, or the right one if the left one is the unit. -/
  | orElse (left right : Expr) (place : Place)
  | unary (op : UnaryOp) (operand : Expr) (place : Place)
  | binary (op : BinaryOp) (left right : Expr) (place : Place)
  /-- The item is inside the container. -/
  | inside (item container : Expr) (place : Place)
  | call (name : String) (arguments : List Expr) (place : Place)
  | chain (root : Expr) (first : Link) (more : List Link)
  /-- A statement used for its value. -/
  | statement (s : Stmt) (place : Place)

/-- A link of a chain, with the place of its dot or bracket. -/
inductive Link where
  | property (name : String) (place dot : Place)
  | method (name : String) (arguments : List Expr) (place dot : Place)
  | index (e : Expr) (bracket : Place)

/-- A statement. -/
inductive Stmt where
  | expr (e : Expr)
  | define (constant : Bool) (name : String) (value : Expr)
  /-- Assigns a value, or the value of an operator on the old and the new one. -/
  | assign (op : Option BinaryOp) (place : Place) (target value : Expr)
  | block (body : List Stmt)
  | cond (test : Expr) (yes no : List Stmt)
  | select (subject : Expr) (cases : List Case) (default : Option (List Stmt))
  /-- Repeats while the test holds, or for ever if there is none. -/
  | loop (test : Option Expr) (body : List Stmt)
  | forEach (name : String) (counter : Option String) (source : Expr) (body : List Stmt)
  | leave (value : Option Expr)
  | again
  | back (value : Option Expr)
  | raise (value : Option Expr) (place : Place)
  | attempt (body : List Stmt) (name : Option String) (rescue : List Stmt)

/-- A case of a selection: it is taken for its values when its guard holds. -/
inductive Case where
  | of (values : List Value) (guard : Option Expr) (body : List Stmt)

end

/-- A function of a script. -/
structure Function where
  name : String
  parameters : List String
  body : List Stmt

/-- A script that has been read. -/
structure Program where
  body : List Stmt
  functions : List Function

namespace Link

/-- The place of the dot or bracket. -/
def joint : Link → Place
  | property _ _ dot => dot
  | method _ _ _ dot => dot
  | index _ bracket => bracket

end Link

namespace Expr

/-- The place that messages about the expression show. -/
def place : Expr → Place
  | .literal _ p | .text _ p | .array _ p | .map _ p | .variable _ p | .self p => p
  | .both _ _ p | .either _ _ p | .orElse _ _ p | .unary _ _ p | .binary _ _ _ p => p
  | .inside _ _ p | .call _ _ p | .statement _ p => p
  | .chain _ first _ => first.joint

/-- The place where the expression begins. -/
def start : Expr → Place
  | .both left _ _ | .either left _ _ | .orElse left _ _ => left.start
  | .chain root _ _ => root.start
  | e => e.place

end Expr

mutual

/-- Evaluating the expression has no effect and calls nothing. -/
def Expr.isIdle : Expr → Bool
  | .literal _ _ | .variable _ _ => true
  | .text parts _ => Expr.areIdle parts
  | .array items _ => Expr.areIdle items
  | .map fields _ => Expr.fieldsAreIdle fields
  | .both left right _ | .either left right _ | .orElse left right _ =>
    left.isIdle && right.isIdle
  | .statement s _ => s.isIdle
  | _ => false

/-- All of some expressions are idle. -/
def Expr.areIdle : List Expr → Bool
  | [] => true
  | e :: es => e.isIdle && Expr.areIdle es

/-- All values of some fields are idle. -/
def Expr.fieldsAreIdle : List (String × Expr) → Bool
  | [] => true
  | (_, e) :: es => e.isIdle && Expr.fieldsAreIdle es

/-- Nothing but the value of the statement could be seen. -/
def Stmt.isIdle : Stmt → Bool
  | .expr e => e.isIdle
  | .block body => Stmt.areIdle body
  | .cond test yes no => test.isIdle && Stmt.areIdle yes && Stmt.areIdle no
  | .select subject cases none => subject.isIdle && Case.areIdle cases
  | .select subject cases (some body) =>
    subject.isIdle && Case.areIdle cases && Stmt.areIdle body
  | .loop (some (.literal (.bool false) _)) _ => true
  | .forEach _ _ source body => source.isIdle && Stmt.areIdle body
  | .attempt body _ rescue => Stmt.areIdle body && Stmt.areIdle rescue
  | _ => false

/-- All of some statements are idle. -/
def Stmt.areIdle : List Stmt → Bool
  | [] => true
  | s :: ss => s.isIdle && Stmt.areIdle ss

/-- All of some cases are idle. -/
def Case.areIdle : List Case → Bool
  | [] => true
  | .of _ none body :: cases => Stmt.areIdle body && Case.areIdle cases
  | .of _ (some guard) body :: cases =>
    guard.isIdle && Stmt.areIdle body && Case.areIdle cases

end

namespace Stmt

/-- The statement ends by itself and needs no semicolon. -/
def endsItself : Stmt → Bool
  | cond .. | select .. | loop .. | forEach .. | block _ | attempt .. => true
  | _ => false

/-- The statement can have a value other than the unit. -/
def givesValue : Stmt → Bool
  | expr _ | cond .. | select .. | block _ => true
  | _ => false

end Stmt

end FlowGraph.Script
