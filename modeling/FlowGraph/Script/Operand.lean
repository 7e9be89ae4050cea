import FlowGraph.Script.Reader

/-!
# Reading expressions

An expression is operands between operators. An operand may have signs in front of it
and calls, properties and indices behind it.
-/

namespace FlowGraph.Script

namespace Token

/-- The precedence of a token as an operator; zero if it is none. -/
def precedence : Token → Nat
  | sign s =>
    if s == "||" then 30
    else if s == "&&" then 60
    else if s == "==" || s == "!=" then 90
    else if s == "!in" then 110
    else if s == "<" || s == "<=" || s == ">" || s == ">=" then 130
    else if s == "??" then 135
    else if s == ".." || s == "..=" then 140
    else if s == "+" || s == "-" then 150
    else if s == "*" || s == "/" || s == "%" then 180
    else if s == "**" then 190
    else 0
  | word s => if s == "in" then 110 else 0
  | _ => 0

/-- Operators of the same precedence in a row are read from the right. -/
def bindsRight : Token → Bool
  | sign s => s == "**"
  | _ => false

end Token

namespace BinaryOp

/-- The operators with values on both sides. -/
def all : List BinaryOp :=
  [add, sub, mul, div, rem, pow, eq, ne, lt, le, gt, ge, range, closedRange]

/-- The operator of a sign. -/
def ofSign? (s : String) : Option BinaryOp := all.find? fun op => op.sign == s

end BinaryOp

namespace Expr

/-- What a literal is, where something else is wanted. -/
def literalKind? : Expr → Option String
  | .literal .unit _ => some "()"
  | .literal (.int _) _ => some "a number"
  | .literal (.float _) _ => some "a floating-point number"
  | .literal (.char _) _ => some "a character"
  | .literal (.str _) _ | .text _ _ => some "a string"
  | .array _ _ => some "an array"
  | .map _ _ => some "an object map"
  | _ => none

/-- The expression, unless it is plain that its value is no truth value. -/
def asTest (e : Expr) : Parse Expr :=
  match e.literalKind? with
  | some kind => Parse.fail (.notOfKind "a boolean expression" kind) e.start
  | none => return e

/-- The expression, unless it is plain that its value has no items. -/
def asSource (e : Expr) : Parse Expr :=
  let wrong (kind : String) : Parse Expr :=
    Parse.fail (.notOfKind "an iterable value" kind) e.start
  match e with
  | .literal (.bool _) _ => wrong "a boolean"
  | .literal (.str _) _ | .text _ _ | .array _ _ => return e
  | e =>
    match e.literalKind? with
    | some kind => wrong kind
    | none => return e

mutual

/-- The value of an expression that is written out. -/
def constant? : Expr → Option Value
  | .literal v _ => some v
  | .array items _ => (constants? items).map .array
  | .map fields _ => (fieldConstants? fields).map Value.ofFields
  | .binary .range (.literal (.int a) _) (.literal (.int b) _) _ => some (.range a b false)
  | .binary .closedRange (.literal (.int a) _) (.literal (.int b) _) _ => some (.range a b true)
  | _ => none

/-- The values of expressions that are written out. -/
def constants? : List Expr → Option (List Value)
  | [] => some []
  | e :: es => do return (← constant? e) :: (← constants? es)

/-- The fields with values that are written out. -/
def fieldConstants? : List (String × Expr) → Option (List (String × Value))
  | [] => some []
  | (key, e) :: es => do return (key, ← constant? e) :: (← fieldConstants? es)

end

mutual

/-- The expression consists of literals. -/
def isWrittenOut : Expr → Bool
  | .literal _ _ => true
  | .text parts _ => areWrittenOut parts
  | .array items _ => areWrittenOut items
  | .map fields _ => fieldsAreWrittenOut fields
  | _ => false

/-- All of some expressions consist of literals. -/
def areWrittenOut : List Expr → Bool
  | [] => true
  | e :: es => e.isWrittenOut && areWrittenOut es

/-- All values of some fields consist of literals. -/
def fieldsAreWrittenOut : List (String × Expr) → Bool
  | [] => true
  | (_, e) :: es => e.isWrittenOut && fieldsAreWrittenOut es

end

/-- The expression with one more link; what stands in brackets is a root of its own. -/
def withLink (e : Expr) (growing : Bool) (link : Link) : Expr :=
  match e with
  | .chain root first more =>
    if growing then .chain root first (more ++ [link]) else .chain e link []
  | _ => .chain e link []

/-- The negative of an operand; literals are negated at once. -/
def negated (e : Expr) (place : Place) : Expr :=
  match e with
  | .literal (.int n) _ =>
    match inRange? (-n) with
    | some m => .literal (.int m) place
    | none => .literal (.float (-Value.toDouble n)) place
  | .literal (.float x) _ => .literal (.float (-x)) place
  | e => .unary .negate e place

end Expr

namespace Phrases

open Parse

variable (g : Phrases)

/-- The arguments of a call behind its bracket. -/
def arguments (s : Surroundings) (name : String) : Parse (List Expr) := do
  let unclosed : Mistake :=
    .missing ")" ("to close the arguments list of this function call '" ++ name ++ "'")
  let separating := "to separate the arguments to function call '" ++ name ++ "'"
  let item : Parse (Option Expr) := do
    let lexeme ← peek
    match lexeme.token with
    | .sign ")" => return none
    | _ =>
      let e ← g.expr s
      let after ← peek
      match after.token with
      | .sign ")" => return some e
      | .sign "," =>
        let _ ← next
        return some e
      | .ending => fail unclosed after.place
      | _ => reject after (.missing "," separating)
  let lexeme ← peek
  match lexeme.token with
  | .ending => fail unclosed lexeme.place
  | .bad m => fail m lexeme.place
  | _ =>
    let es ← repeated item (← left)
    let _ ← next
    return es

/-- The items of an array behind its bracket. -/
def arrayItems (s : Surroundings) : Parse (List Expr) := do
  let unclosed : Mistake := .missing "]" "to end this array literal"
  let item : Parse (Option Expr) := do
    let lexeme ← peek
    match lexeme.token with
    | .sign "]" => return none
    | .ending => fail unclosed lexeme.place
    | _ =>
      let e ← g.expr s
      let after ← peek
      match after.token with
      | .sign "," =>
        let _ ← next
        return some e
      | .sign "]" => return some e
      | .ending => fail unclosed after.place
      | _ => reject after (.missing "," "to separate the items of this array literal")
  let es ← repeated item (← left)
  let _ ← next
  return es

/-- The name of a field of a map that has others already. -/
def fieldName (names : List String) : Parse String := do
  let unclosed : Mistake := .missing "\x7d" "to end this object map literal"
  let lexeme ← next
  match lexeme.token with
  | .name s | .str s =>
    if names.contains s then fail (.duplicateProperty s) lexeme.place else return s
  | .piece _ => fail .missingProperty lexeme.place
  | .reserved s =>
    if Token.isReservedWord s then fail (.reservedWord s) lexeme.place
    else fail (if names.isEmpty then unclosed else .missingProperty) lexeme.place
  | .ending => fail unclosed lexeme.place
  | _ => reject lexeme (if names.isEmpty then unclosed else .missingProperty)

/-- The fields of a map behind its brace, after those with some names. -/
def mapFields (s : Surroundings) (names : List String) : Nat → Parse (List (String × Expr))
  | 0 => do fail .tooComplex (← peek).place
  | limit + 1 => do
    let unclosed : Mistake := .missing "\x7d" "to end this object map literal"
    if ← sign? "\x7d" then return []
    let name ← fieldName names
    sign ":" ("to follow the property '" ++ name ++ "' in this object map literal")
    let e ← g.expr s
    let after ← peek
    let rest : Parse (List (String × Expr)) := mapFields s (name :: names) limit
    match after.token with
    | .sign "," =>
      let _ ← next
      return (name, e) :: (← rest)
    | .sign "\x7d" => return (name, e) :: (← rest)
    | .name _ => fail (.missing "," "to separate the items of this object map literal") after.place
    | _ => reject after unclosed

/-- The statements of a block. -/
def block (s : Surroundings) : Parse (List Stmt) := do
  sign "\x7b" "to start a statement block"
  let inner := { s with top := false }
  let item : Parse (Option (Option Stmt)) := do
    let lexeme ← peek
    match lexeme.token with
    | .sign "\x7d" => return none
    | .ending => fail (.missing "\x7d" "to terminate this block") lexeme.place
    | _ =>
      match ← g.stmt inner with
      | none => return some none
      | some st =>
        let after ← peek
        match after.token with
        | .sign "\x7d" => return some (some st)
        | .sign ";" =>
          let _ ← next
          return some (some st)
        | _ =>
          if st.endsItself then return some (some st)
          else reject after (.missing ";" "to terminate this statement")
  let body ← within (do repeated item (← left))
  let _ ← next
  return body.filterMap id

/-- The parts of a text behind its first piece. -/
def textParts (s : Surroundings) : Nat → Parse (List Expr)
  | 0 => do fail .tooComplex (← peek).place
  | limit + 1 => do
    let place := (← peek).place
    let body ← g.block s
    let lexeme ← next
    let front : List Expr := [.statement (.block body) place]
    let piece (text : String) : List Expr :=
      if text.isEmpty then [] else [.literal (.str text) lexeme.place]
    match lexeme.token with
    | .str text => return front ++ piece text
    | .piece text => return front ++ piece text ++ (← textParts s limit)
    | _ => reject lexeme .openText

/-- A text whose first piece was read. -/
def text (s : Surroundings) (first : String) (place : Place) : Parse Expr := do
  let parts ← g.textParts s (← left)
  return .text (if first.isEmpty then parts else .literal (.str first) place :: parts) place

/-- A reserved word or sign in front of an expression. -/
def reserved (s : Surroundings) (text : String) (place : Place) : Parse Expr := do
  let lexeme ← peek
  let called := isSign lexeme.token "(" || isSign lexeme.token "()" || isSign lexeme.token "!"
  if called && Token.callableWords.contains text then return .variable text place
  else if text == Token.selfWord then
    if s.inFunction then return .self place else fail (.selfOutside text) place
  else if Token.isReservedWord text then fail (.reservedWord text) place
  else fail (.reservedSign text) place

/-- The condition of a statement. -/
def test (s : Surroundings) : Parse Expr := do
  let lexeme ← peek
  if isSign lexeme.token "\x7b" then fail (.missingExpression "a boolean") lexeme.place
  let e ← (← g.expr s).asTest
  let after ← peek
  match after.token with
  | .sign "=" => fail (.improperSign "Possibly a typo of '=='?") after.place
  | .sign t =>
    if ["+=", "-=", "*=", "/=", "%=", "**="].contains t then
      fail (.improperSign "Expecting a boolean expression, not an assignment") after.place
    else return e
  | _ => return e

/-- The condition and the branches of a choice, at its word. -/
def choice (s : Surroundings) : Nat → Parse Stmt
  | 0 => do fail .tooComplex (← peek).place
  | limit + 1 => do
    let _ ← next
    let test ← g.test s
    let yes ← g.block s
    if ← word? "else" then
      if isWord (← peek).token "if" then return .cond test yes [← choice s limit]
      else return .cond test yes (← g.block s)
    else return .cond test yes []

/-- The value of a case. -/
def caseValue (s : Surroundings) : Parse Value := fun r => do
  match (g.expr s).run r with
  | .error m => throw { m with mistake := .missingExpression "literal" }
  | .ok (e, r) =>
    match e.constant? with
    | some v => return (v, r)
    | none => throw ⟨.missingExpression "a literal", some e.start⟩

/-- The values of a case, between bars. -/
def caseValues (s : Surroundings) : Nat → Parse (List Value)
  | 0 => do fail .tooComplex (← peek).place
  | limit + 1 => do
    let v ← g.caseValue s
    if ← sign? "|" then return v :: (← caseValues s limit)
    else return [v]

/-- The body of a case, with the sign behind it. -/
def caseBody (s : Surroundings) : Parse (List Stmt) := do
  sign "=>" "in this switch case"
  let body ← within (g.stmt { s with top := false })
  let after ← peek
  let stmts : List Stmt := match body with
    | some (.block b) => b
    | some st => [st]
    | none => []
  match after.token with
  | .sign "," =>
    let _ ← next
    return stmts
  | .sign "\x7d" => return stmts
  | .ending => fail (.missing "\x7d" "to end this switch block") after.place
  | .bad m => fail m after.place
  | _ =>
    if (body.map Stmt.endsItself).getD false then return stmts
    else fail (.missing "," "to separate the items in this switch block") after.place

/-- The cases of a selection, with what is done in every other case. -/
def cases (s : Surroundings) (default? : Option (Place × List Stmt)) :
    Nat → Parse (List Case × Option (List Stmt))
  | 0 => do fail .tooComplex (← peek).place
  | limit + 1 => do
    let lexeme ← peek
    match lexeme.token, default? with
    | .sign "\x7d", _ =>
      let _ ← next
      return ([], default?.map (·.2))
    | .ending, _ => fail (.missing "\x7d" "to end this switch block") lexeme.place
    | .word "_", none =>
      let _ ← next
      let after ← peek
      if isWord after.token "if" then fail .conditionOnDefault after.place
      cases s (some (lexeme.place, ← g.caseBody s)) limit
    | _, some (place, _) => fail .defaultNotLast place
    | _, none =>
      let values ← g.caseValues s (← left)
      let guard ← if ← word? "if" then some <$> g.test s else pure none
      let body ← g.caseBody s
      let (others, default?) ← cases s none limit
      return (.of values guard body :: others, default?)

/-- A selection, at its word. -/
def selection (s : Surroundings) : Parse Stmt := do
  let _ ← next
  let subject ← g.expr s
  sign "\x7b" "to start a switch block"
  let (cases, default?) ← g.cases s none (← left)
  return .select subject cases default?

/-- A loop with a condition or without one, at its word. -/
def loop (s : Surroundings) : Parse Stmt := do
  let lexeme ← next
  let test ← if isWord lexeme.token "while" then some <$> g.test s else pure none
  return .loop test (← g.block { s with inLoop := true })

/-- The names of a loop over items: one for the item and perhaps one for its number. -/
def loopNames : Parse (String × Option String) := do
  if ← sign? "(" then
    let name ← variableName
    if !(← sign? ",") then
      fail (.missing "," "after the iteration variable name") (← peek).place
    let lexeme ← peek
    let counter ← variableName
    if counter == name then fail (.duplicateVariable counter) lexeme.place
    if !(← sign? ")") then fail (.missing ")" "to close the iteration variable") (← peek).place
    return (name, some counter)
  else return (← variableName, none)

/-- A loop over items, at its word. -/
def iteration (s : Surroundings) : Parse Stmt := do
  let _ ← next
  let (name, counter) ← loopNames
  let lexeme ← next
  if !isWord lexeme.token "in" then
    reject lexeme (.missing "in" "after the iteration variable")
  let first ← peek
  if isSign first.token "\x7b" then fail (.missingExpression "a boolean") first.place
  let source ← (← g.expr s).asSource
  let body ← within do
    if let some counter := counter then declare counter false
    declare name false
    g.block { s with inLoop := true }
  return .forEach name counter source body

/-- A literal, a name, or something in brackets. -/
def primary (s : Surroundings) : Parse Expr := do
  let lexeme ← peek
  let place := lexeme.place
  let value (v : Value) : Parse Expr := do
    let _ ← next
    return .literal v place
  match lexeme.token with
  | .ending => fail .incomplete place
  | .bad m => fail m place
  | .integer n => value (.int n)
  | .float x => value (.float x)
  | .char c => value (.char c)
  | .str t => value (.str t)
  | .piece t =>
    let _ ← next
    g.text s t place
  | .name t =>
    let _ ← next
    return .variable t place
  | .reserved t =>
    let _ ← next
    reserved s t place
  | .word "true" => value (.bool true)
  | .word "false" => value (.bool false)
  | .word "if" => return .statement (← g.choice s (← left)) place
  | .word "switch" => return .statement (← g.selection s) place
  | .word "while" | .word "loop" => return .statement (← g.loop s) place
  | .word "for" => return .statement (← g.iteration s) place
  | .word t => fail (.unexpected t) place
  | .sign "()" => value .unit
  | .sign "\x7b" => return .statement (.block (← g.block s)) place
  | .sign "(" =>
    let _ ← next
    let e ← g.expr s
    sign ")" "for a matching ( in this expression"
    return e
  | .sign "[" =>
    let _ ← next
    return .array (← g.arrayItems s) place
  | .sign "#\x7b" =>
    let _ ← next
    return .map (← g.mapFields s [] (← left)) place
  | .sign t => fail (.unexpected t) place

/-- The arguments behind a name, if it is called. -/
def arguments? (s : Surroundings) (name : String) : Parse (Option (List Expr)) := do
  if ← sign? "()" then return some []
  else if ← sign? "(" then return some (← g.arguments s name)
  else return none

/-- The link behind a dot. -/
def memberLink (s : Surroundings) (dot : Place) : Parse Link := do
  let lexeme ← next
  let member (name : String) : Parse Link := do
    match ← g.arguments? s name with
    | some es => return .method name es lexeme.place dot
    | none => return .property name lexeme.place dot
  match lexeme.token with
  | .name name => member name
  | .reserved name =>
    let after ← peek
    let called := isSign after.token "(" || isSign after.token "()"
    if Token.methodWords.contains name && called then member name
    else if Token.isReservedWord name then fail (.reservedWord name) lexeme.place
    else fail (.reservedSign name) lexeme.place
  | _ => fail .missingProperty lexeme.place

/-- What cannot be an index of a value that is written out. -/
def indexMistake? (root index : Expr) : Option (Mistake × Place) :=
  let wrong (kind : String) : Option (Mistake × Place) :=
    some (.indexKind ("Array access expects integer index, not " ++ kind), index.start)
  let listed := match root with
    | .array _ _ | .literal (.str _) _ | .text _ _ => true
    | _ => false
  match index with
  | .literal (.int _) place =>
    match root with
    | .map _ _ =>
      some (.indexKind "Object map expects string index, not a number", place)
    | _ => none
  | .literal (.str _) _ | .text _ _ =>
    if listed then
      some (.indexKind "Array or string expects numeric index, not a string", index.start)
    else none
  | .literal (.float _) _ => wrong "a float"
  | .literal (.char _) _ => wrong "a character"
  | .literal .unit _ => wrong "()"
  | .literal (.bool _) _ | .both _ _ _ | .either _ _ _ => wrong "a boolean"
  | _ => none

/-- The link behind an opening bracket. -/
def indexLink (s : Surroundings) (root : Expr) (bracket : Place) : Parse Link := do
  let e ← g.expr s
  if let some (m, place) := indexMistake? root e then fail m place
  sign "]" "for a matching [ in this index expression"
  return .index e bracket

/-- What stands behind an operand; `growing` says that the operand is a chain whose
links were read here. -/
def links (s : Surroundings) (e : Expr) (growing : Bool) : Nat → Parse Expr
  | 0 => do fail .tooComplex (← peek).place
  | limit + 1 => do
    let lexeme ← peek
    match lexeme.token, e with
    | .sign ".", _ =>
      let _ ← next
      let link ← g.memberLink s lexeme.place
      links s (e.withLink growing link) true limit
    | .sign "[", _ =>
      let _ ← next
      let link ← g.indexLink s e lexeme.place
      links s (e.withLink growing link) true limit
    | _, .variable name place =>
      match ← g.arguments? s name with
      | some es => links s (.call name es place) true limit
      | none => return e
    | _, _ => return e

/-- An operand with the signs in front of it. -/
def unary (s : Surroundings) : Parse Expr := do
  let lexeme ← peek
  match lexeme.token with
  | .sign "-" =>
    let _ ← next
    return (← g.operand s).negated lexeme.place
  | .sign "+" =>
    let _ ← next
    match ← g.operand s with
    | .literal (.int n) p => return .literal (.int n) p
    | .literal (.float x) p => return .literal (.float x) p
    | e => return .unary .plus e lexeme.place
  | .sign "!" =>
    let _ ← next
    return .unary .not (← g.operand s) lexeme.place
  | .ending => fail .incomplete lexeme.place
  | _ =>
    let e ← g.primary s
    g.links s e false (← left)

/-- The expression of an operator between two operands. -/
def join (token : Token) (place : Place) (left right : Expr) : Parse Expr :=
  match token with
  | .sign "||" => do
    let right ← right.asTest
    return .either (← left.asTest) right place
  | .sign "&&" => do
    let right ← right.asTest
    return .both (← left.asTest) right place
  | .sign "??" => return .orElse left right place
  | .sign "!in" => return .unary .not (.inside left right left.start) left.start
  | .word _ => return .inside left right left.start
  | token =>
    match BinaryOp.ofSign? token.text with
    | some op => return .binary op left right (if op.compares then left.start else place)
    | none => fail (.unexpected token.text) place

/-- The precedence of the next token, which must not be a sign that is kept back. -/
def nextPrecedence : Parse Nat := do
  let lexeme ← peek
  match lexeme.token with
  | .reserved t =>
    if Token.isReservedWord t then return 0 else fail (.unknownOperator t) lexeme.place
  | token => return token.precedence

/-- The operators behind a left operand that bind more tightly than `floor`. -/
def operatorsFrom (s : Surroundings) (floor : Nat) (e : Expr) : Nat → Parse Expr
  | 0 => do fail .tooComplex (← peek).place
  | limit + 1 => do
    let precedence ← nextPrecedence
    let lexeme ← peek
    let right := lexeme.token.bindsRight
    if precedence < floor || (precedence == floor && !right) then return e
    else
      let _ ← next
      let operand ← g.unary s
      let following ← nextPrecedence
      let operand ←
        if precedence < following || (precedence == following && right) then
          g.operators s precedence operand
        else pure operand
      operatorsFrom s floor (← join lexeme.token lexeme.place e operand) limit

/-- An expression. -/
def wholeExpr (s : Surroundings) : Parse Expr := do
  let e ← g.unary s
  g.operatorsFrom s 1 e (← left)

end Phrases

end FlowGraph.Script
