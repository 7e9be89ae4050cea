import FlowGraph.Script.Operand
import FlowGraph.Script.Scan

/-!
# Reading statements

Statements are separated by semicolons, which are left out behind those that end in a
block. Functions stand between the statements at the top of a script. Whether a name is
constant is known while reading, so an assignment to it is a mistake.
-/

namespace FlowGraph.Script

namespace Expr

/-- The place of the first link that cannot be assigned through. -/
def obstacle? : List Link → Option Place
  | [] => none
  | .method _ _ place _ :: _ => some place
  | _ :: links => obstacle? links

end Expr

namespace Parse

/-- Stops if a name in scope is constant. -/
def mustVary (name : String) (place : Place) : Parse Unit := do
  match (← get).names.find? fun known => known.name == name with
  | some known => if known.constant then fail (.constantAssigned name) place
  | none => return

/-- Stops unless an expression can be assigned to; `place` is the place of the sign, and
`plain` says that it is a plain equals sign. -/
def mustBeTarget (e : Expr) (plain : Bool) (place : Place) : Parse Unit :=
  match e with
  | .self _ => return
  | .variable name place => mustVary name place
  | .chain root first more =>
    match Expr.obstacle? (first :: more), root with
    | some place, _ => fail .notAssignable place
    | none, .variable name place => mustVary name place
    | none, .self _ => return
    | none, root => fail .notAssignable root.place
  | .both _ _ _ | .either _ _ _ | .orElse _ _ _ =>
    if plain then fail (.improperSign "Possibly a typo of '=='?") place
    else fail .notAssignable e.place
  | e => if e.isWrittenOut then fail .literalAssigned e.start else fail .notAssignable e.place

/-- The operator of a sign that assigns; nothing inside for a plain equals sign. -/
def assignment? : Token → Option (Option BinaryOp)
  | .sign "=" => some none
  | .sign "+=" => some (some .add)
  | .sign "-=" => some (some .sub)
  | .sign "*=" => some (some .mul)
  | .sign "/=" => some (some .div)
  | .sign "%=" => some (some .rem)
  | .sign "**=" => some (some .pow)
  | _ => none

end Parse

namespace Phrases

open Parse

variable (g : Phrases)

/-- An expression, or an assignment to it. -/
def exprStmt (s : Surroundings) : Parse Stmt := do
  let e ← g.expr s
  let lexeme ← peek
  match assignment? lexeme.token with
  | none => return .expr e
  | some op =>
    let _ ← next
    let value ← g.expr s
    mustBeTarget e op.isNone lexeme.place
    return .assign op lexeme.place e value

/-- A definition, at its word. -/
def definition (s : Surroundings) (constant : Bool) : Parse Stmt := do
  let _ ← next
  let place := (← peek).place
  let name ← variableName
  let value ← if ← sign? "=" then g.expr s else pure (.literal .unit place)
  declare name constant
  return .define constant name value

/-- The value behind a word that leaves, if there is one. -/
def leavingValue (s : Surroundings) (braceEnds : Bool) : Parse (Option Expr) := do
  match (← peek).token with
  | .ending | .sign ";" => return none
  | .sign "\x7d" => if braceEnds then return none else some <$> g.expr s
  | _ => some <$> g.expr s

/-- A block that is tried, with the block for its failure, at its word. -/
def attempt (s : Surroundings) : Parse Stmt := do
  let _ ← next
  let body ← g.block s
  word "catch" "for the 'try' statement"
  within do
    let name ← if ← sign? "(" then do
        let name ← variableName
        if !(← sign? ")") then
          fail (.missing ")" "to enclose the catch variable") (← peek).place
        declare name false
        pure (some name)
      else pure none
    return .attempt body name (← g.block s)

/-- The parameters of a function behind its bracket, after some others. -/
def parameters (function : String) (names : List String) : Nat → Parse (List String)
  | 0 => do fail .tooComplex (← peek).place
  | limit + 1 => do
    let lexeme ← next
    match lexeme.token with
    | .sign ")" => return []
    | .name name =>
      if names.contains name then fail (.duplicateParameter function name) lexeme.place
      let after ← next
      match after.token with
      | .sign ")" => return [name]
      | .sign "," => return name :: (← parameters function (name :: names) limit)
      | _ =>
        reject after
          (.missing "," ("to separate the parameters of function '" ++ function ++ "'"))
    | .reserved text =>
      if Token.isReservedWord text then fail (.reservedWord text) lexeme.place
      else fail (.reservedSign text) lexeme.place
    | _ =>
      reject lexeme
        (.missing ")" ("to close the parameters list of function '" ++ function ++ "'"))

/-- The name of a function. -/
def functionName : Parse String := do
  let lexeme ← next
  match lexeme.token with
  | .name name => return name
  | .reserved text =>
    if Token.isReservedWord text then fail (.reservedWord text) lexeme.place
    else fail (.reservedSign text) lexeme.place
  | _ => fail .functionName lexeme.place

/-- A function, behind its word; no name outside is in scope inside. -/
def function (place : Place) : Parse Unit := do
  let name ← functionName
  let params ← do
    if ← sign? "()" then pure []
    else if ← sign? "(" then parameters name [] (← left)
    else fail (.functionParameters name) (← peek).place
  let lexeme ← peek
  if !isSign lexeme.token "\x7b" then fail (.functionBody name) lexeme.place
  let body ← within do
    modify fun r => { r with names := params.map fun p => ⟨p, false⟩ }
    g.block { inLoop := false, inFunction := true, top := false }
  let others := (← get).functions
  if others.any fun f => f.name == name && f.parameters.length == params.length then
    fail (.duplicateFunction name params.length) place
  modify fun r => { r with functions := ⟨name, params, body⟩ :: r.functions }

/-- A statement; nothing for one that is empty or a function. -/
def statement (s : Surroundings) : Parse (Option Stmt) := do
  let lexeme ← peek
  let place := lexeme.place
  match lexeme.token with
  | .ending => return none
  | .sign ";" =>
    let _ ← next
    return none
  | .sign "\x7b" => return some (.block (← g.block s))
  | .word "fn" =>
    if !s.top then fail .innerFunction place
    let _ ← next
    g.function place
    return none
  | .word "if" => some <$> g.choice s (← left)
  | .word "switch" => some <$> g.selection s
  | .word "while" | .word "loop" => some <$> g.loop s
  | .word "for" => some <$> g.iteration s
  | .word "continue" =>
    if !s.inLoop then fail .strayBreak place
    let _ ← next
    return some .again
  | .word "break" =>
    if !s.inLoop then fail .strayBreak place
    let _ ← next
    return some (.leave (← g.leavingValue s true))
  | .word "return" =>
    let _ ← next
    return some (.back (← g.leavingValue s (!s.top)))
  | .word "throw" =>
    let _ ← next
    return some (.raise (← g.leavingValue s (!s.top)) place)
  | .word "try" => some <$> g.attempt s
  | .word "let" => some <$> g.definition s false
  | .word "const" => some <$> g.definition s true
  | _ => some <$> g.exprStmt s

/-- The rules for phrases that hold so many others inside each other. -/
def upTo : Nat → Phrases
  | 0 =>
    let tooDeep {α : Type} : Parse α := do fail .tooComplex (← peek).place
    { expr := fun _ => tooDeep, operators := fun _ _ _ => tooDeep, operand := fun _ => tooDeep,
      stmt := fun _ => tooDeep }
  | depth + 1 =>
    { expr := fun s => (upTo depth).wholeExpr s
      operators := fun s floor e => do (upTo depth).operatorsFrom s floor e (← left)
      operand := fun s => (upTo depth).unary s
      stmt := fun s => (upTo depth).statement s }

/-- The statements at the top of a script. -/
def topLevel (s : Surroundings) : Nat → Parse (List Stmt)
  | 0 => do fail .tooComplex (← peek).place
  | limit + 1 => do
    if let .ending := (← peek).token then return []
    match ← g.stmt s with
    | none => topLevel s limit
    | some st =>
      let after ← peek
      match after.token with
      | .ending => return [st]
      | .sign ";" =>
        if !st.endsItself then
          let _ ← next
        return st :: (← topLevel s limit)
      | _ =>
        if st.endsItself then return st :: (← topLevel s limit)
        else reject after (.missing ";" "to terminate this statement")

end Phrases

namespace Program

/-- Reads a script. No phrase holds more others inside each other than the script has
lexemes. -/
def read (source : String) : Except Misplaced Program := do
  let lexemes := cut source
  let limit := lexemes.length + 2
  let top : Surroundings := { inLoop := false, inFunction := false, top := true }
  let (body, r) ← ((Phrases.upTo limit).topLevel top limit).run ⟨lexemes, [], []⟩
  return ⟨body, r.functions⟩

end Program

end FlowGraph.Script
