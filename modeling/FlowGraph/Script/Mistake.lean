import FlowGraph.Script.Place

/-!
# Mistakes in the text of a script

A script with a mistake does not run at all. Every mistake has a cause and the place
that is shown with it.
-/

namespace FlowGraph.Script

/-- Why a text is no script. -/
inductive Mistake where
  | unexpected (text : String)
  | openText
  | wrongEscape (text : String)
  | wrongNumber (text : String)
  | wrongChar (text : String)
  | improperName (text : String)
  /-- A sign that other languages have, with the advice that is given. -/
  | improperSign (advice : String)
  | reservedWord (text : String)
  | reservedSign (text : String)
  | unknownOperator (text : String)
  | incomplete
  /-- A sign is missing, with what it is wanted for. -/
  | missing (sign purpose : String)
  /-- An expression of a kind is missing. -/
  | missingExpression (kind : String)
  /-- An expression of a kind is wanted and something else is written. -/
  | notOfKind (kind actual : String)
  | missingVariable
  | missingProperty
  | duplicateProperty (name : String)
  | duplicateVariable (name : String)
  | selfOutside (word : String)
  | constantAssigned (name : String)
  | literalAssigned
  | notAssignable
  | strayBreak
  | innerFunction
  | functionName
  | functionParameters (name : String)
  | functionBody (name : String)
  | duplicateParameter (function name : String)
  | duplicateFunction (name : String) (parameters : Nat)
  | indexKind (advice : String)
  | conditionOnDefault
  | defaultNotLast
  | tooComplex

namespace Mistake

/-- The wording for a number of parameters. -/
def parameterCount : Nat → String
  | 0 => "no parameters"
  | 1 => "1 parameter"
  | n => toString n ++ " parameters"

/-- The wording of a mistake. -/
def message : Mistake → String
  | unexpected text => "Unexpected '" ++ text ++ "'"
  | openText => "Open string is not terminated"
  | wrongEscape text => "Invalid escape sequence: '" ++ text ++ "'"
  | wrongNumber text => "Invalid number: '" ++ text ++ "'"
  | wrongChar text => "Invalid character: '" ++ text ++ "'"
  | improperName text => "Variable name is not proper: '" ++ text ++ "'"
  | improperSign advice => advice
  | reservedWord text => "'" ++ text ++ "' is a reserved keyword"
  | reservedSign text => "'" ++ text ++ "' is a reserved symbol"
  | unknownOperator text => "Unknown operator: '" ++ text ++ "'"
  | incomplete => "Script is incomplete"
  | missing sign purpose => "Expecting '" ++ sign ++ "' " ++ purpose
  | missingExpression kind => "Expecting " ++ kind ++ " expression"
  | notOfKind kind actual => "Expecting " ++ kind ++ ", not " ++ actual
  | missingVariable => "Expecting name of a variable"
  | missingProperty => "Expecting name of a property"
  | duplicateProperty name => "Duplicated property for object map literal: " ++ name
  | duplicateVariable name => "Duplicated variable name: " ++ name
  | selfOutside word => "'" ++ word ++ "' can only be used in functions"
  | constantAssigned name => "Cannot assign to constant " ++ name
  | literalAssigned => "Cannot assign to a constant value"
  | notAssignable => "Expression cannot be assigned to"
  | strayBreak => "Break statement should only be used inside a loop"
  | innerFunction =>
    "Function definitions must be at global level and cannot be inside a block or another function"
  | functionName => "Expecting function name in function declaration"
  | functionParameters name => "Expecting parameters for function " ++ name
  | functionBody name => "Expecting body statement block for function " ++ name
  | duplicateParameter function name =>
    "Duplicated parameter " ++ name ++ " for function " ++ function
  | duplicateFunction name parameters =>
    "Function " ++ name ++ " with " ++ parameterCount parameters ++ " already exists"
  | indexKind advice => advice
  | conditionOnDefault => "This switch case cannot have a condition"
  | defaultNotLast => "Default switch case must be the last"
  | tooComplex => "Expression exceeds maximum complexity"

end Mistake

/-- A mistake at its place. -/
structure Misplaced where
  mistake : Mistake
  place : Option Place

/-- The wording of a mistake at its place. -/
def Misplaced.text (m : Misplaced) : String :=
  Place.note ("Syntax error: " ++ m.mistake.message) m.place

end FlowGraph.Script
