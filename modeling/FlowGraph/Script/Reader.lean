import FlowGraph.Script.Expr
import FlowGraph.Script.Token

/-!
# Reading lexemes

A reader holds the lexemes that are left and what is known of the names in scope. The
kinds of phrase that contain each other are given by a `Phrases` record, so that every
rule of the grammar is a function of the rules for the phrases inside it.
-/

namespace FlowGraph.Script

/-- A name in scope. -/
structure Known where
  name : String
  constant : Bool

/-- The state of reading. -/
structure Reader where
  rest : List Lexeme
  /-- The names in scope, innermost first. -/
  names : List Known
  /-- The functions read so far, last one first. -/
  functions : List Function

/-- A reading that may meet a mistake. -/
abbrev Parse := StateT Reader (Except Misplaced)

/-- Where a phrase stands. -/
structure Surroundings where
  /-- A loop goes on around it. -/
  inLoop : Bool
  inFunction : Bool
  /-- Nothing is around it. -/
  top : Bool

/-- The rules for phrases inside others. -/
structure Phrases where
  expr : Surroundings → Parse Expr
  /-- The operators that bind more tightly than a precedence, after a left operand. -/
  operators : Surroundings → Nat → Expr → Parse Expr
  operand : Surroundings → Parse Expr
  /-- A statement; nothing for one that is empty. -/
  stmt : Surroundings → Parse (Option Stmt)

namespace Parse

/-- Stops at a mistake. -/
def fail {α : Type} (m : Mistake) (place : Place) : Parse α :=
  throw ⟨m, some place⟩

/-- The next lexeme, which stays. -/
def peek : Parse Lexeme := do
  match (← get).rest with
  | [] => return ⟨.ending, .start⟩
  | lexeme :: _ => return lexeme

/-- The next lexeme, taken off unless it is the ending. -/
def next : Parse Lexeme := do
  let lexeme ← peek
  match lexeme.token with
  | .ending => return lexeme
  | _ =>
    modify fun r => { r with rest := r.rest.drop 1 }
    return lexeme

/-- The next token is a sign. -/
def isSign (t : Token) (s : String) : Bool :=
  match t with
  | .sign u => u == s
  | _ => false

/-- The next token is a word of the grammar. -/
def isWord (t : Token) (s : String) : Bool :=
  match t with
  | .word u => u == s
  | _ => false

/-- Takes a sign off if it is next. -/
def sign? (s : String) : Parse Bool := do
  if isSign (← peek).token s then
    let _ ← next
    return true
  else return false

/-- Takes a word off if it is next. -/
def word? (s : String) : Parse Bool := do
  if isWord (← peek).token s then
    let _ ← next
    return true
  else return false

/-- Stops at a lexeme that should not be there. -/
def reject {α : Type} (l : Lexeme) (m : Mistake) : Parse α :=
  match l.token with
  | .bad mistake => fail mistake l.place
  | _ => fail m l.place

/-- Takes a sign off that must be next. -/
def sign (s purpose : String) : Parse Unit := do
  let lexeme ← next
  if isSign lexeme.token s then return
  else reject lexeme (.missing s purpose)

/-- Takes a word off that must be next, though a text that is no token there does not
show. -/
def word (s purpose : String) : Parse Unit := do
  if ← word? s then return
  else fail (.missing s purpose) (← peek).place

/-- Takes the name of a variable off. -/
def variableName : Parse String := do
  let lexeme ← next
  match lexeme.token with
  | .name s => return s
  | .reserved s =>
    if Token.isReservedWord s then fail (.reservedWord s) lexeme.place
    else fail .missingVariable lexeme.place
  | _ => reject lexeme .missingVariable

/-- Puts a name into scope. -/
def declare (name : String) (constant : Bool) : Parse Unit :=
  modify fun r => { r with names := ⟨name, constant⟩ :: r.names }

/-- Reads with the names in scope of its own. -/
def within {α : Type} (p : Parse α) : Parse α := do
  let names := (← get).names
  let a ← p
  modify fun r => { r with names := names }
  return a

/-- The number of lexemes that are left; no repetition of phrases is longer. -/
def left : Parse Nat := do return (← get).rest.length + 1

/-- Reads items until one of them says that it was the last; at most `limit`. -/
def repeated {α : Type} (item : Parse (Option α)) : Nat → Parse (List α)
  | 0 => do fail .tooComplex (← peek).place
  | limit + 1 => do
    match ← item with
    | none => return []
    | some a => return a :: (← repeated item limit)

end Parse

end FlowGraph.Script
