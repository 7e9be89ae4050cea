import FlowGraph.Script.Mistake
import FlowGraph.Script.Place

/-!
# Tokens of scripts

A token is a literal, a name, a reserved word or sign, a word or sign of the grammar,
or the place where the text cannot be cut any further.
-/

namespace FlowGraph.Script

/-- A token. -/
inductive Token where
  | integer (n : Int)
  | float (x : Float)
  | char (c : Char)
  | str (s : String)
  /-- A piece of text before an expression inside the text. -/
  | piece (s : String)
  | name (s : String)
  /-- A word or sign that scripts may not use on their own. -/
  | reserved (s : String)
  /-- A word of the grammar. -/
  | word (s : String)
  /-- An operator or a sign of punctuation. -/
  | sign (s : String)
  /-- The text is no token here. -/
  | bad (m : Mistake)
  | ending

/-- A token with the place where it starts. -/
structure Lexeme where
  token : Token
  place : Place

namespace Token

/-- The words of the grammar. -/
def grammarWords : List String :=
  ["true", "false", "let", "const", "if", "else", "switch", "do", "while", "until", "loop",
    "for", "in", "continue", "break", "fn", "private", "return", "throw", "try", "catch",
    "import", "export", "as", "_"]

/-- Words kept back that cannot be used in any way. -/
def idleWords : List String :=
  ["var", "static", "begin", "end", "shared", "each", "then", "goto", "unless", "match",
    "case", "public", "protected", "new", "use", "with", "is", "module", "package", "super",
    "thread", "spawn", "go", "await", "async", "sync", "yield", "default", "void", "null",
    "nil"]

/-- Reserved words that can be called. -/
def callableWords : List String :=
  ["type_of", "print", "debug", "eval", "Fn", "call", "curry", "is_shared", "is_def_var",
    "is_def_fn"]

/-- Reserved words that can be called on a value. -/
def methodWords : List String := ["type_of", "call", "curry", "is_shared"]

/-- The word for the value that a function was called on. -/
def selfWord : String := "this"

/-- A word that scripts may not use as a name. -/
def isReservedWord (s : String) : Bool :=
  s == selfWord || idleWords.contains s || callableWords.contains s

/-- A character that can begin a name. -/
def startsName (c : Char) : Bool := c.isAlpha || c == '_'

/-- A character that can go on with a name. -/
def goesOnName (c : Char) : Bool := c.isAlphanum || c == '_'

/-- The text is a name: its first character other than an underscore is a letter. -/
def isName (s : String) : Bool :=
  match s.toList.dropWhile (· == '_') with
  | [] => false
  | c :: cs => c.isAlpha && cs.all goesOnName

/-- The token of a run of name characters. -/
def ofWord (s : String) : Token :=
  if grammarWords.contains s then word s
  else if isReservedWord s then reserved s
  else if isName s then name s
  else bad (.improperName s)

/-- Words after which a minus in front of digits belongs to the number. -/
def openingWords : List String := ["if", "while", "until", "in", "return", "throw"]

/-- Signs that end an operand, so that a minus after them is an operator. -/
def closingSigns : List String := [")", "]", "\x7d", "()", ".", "=>", "::"]

/-- A minus before digits after this token belongs to the number. -/
def opensOperand : Token → Bool
  | word s => openingWords.contains s
  | sign s => !closingSigns.contains s
  | bad _ => true
  | _ => false

/-- How messages show a token that cannot stand where it does. -/
def text : Token → String
  | integer n => toString n
  | name s | reserved s | word s | sign s => s
  | str s => "\"" ++ s ++ "\""
  | piece _ => "string"
  | char c => c.toString
  | float _ | bad _ | ending => ""

end Token

end FlowGraph.Script
