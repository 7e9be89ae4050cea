import FlowGraph.Text.Ascii

/-!
# The words of a shell script

A script is a sequence of clauses between separators. The words of a clause consist of
quoted and plain texts and of parameters, which are put in when the clause runs.
-/

namespace FlowGraph.Command

/-- A piece of a word. -/
inductive Piece where
  | text (cs : List Char)
  /-- The value of a parameter; within quotes it is not split into fields. -/
  | parameter (name : String) (quoted : Bool)

/-- A word of a script. -/
abbrev Word := List Piece

/-- What stands before a clause. -/
inductive Separator where
  /-- The clause runs in any case. -/
  | next
  /-- The clause runs after a success. -/
  | onSuccess
  /-- The clause runs after a failure. -/
  | onFailure

/-- The words between two separators. -/
structure Clause where
  before : Separator
  words : List Word
  /-- The output is not part of the standard output. -/
  diverted : Bool

/-- Inside which quotes the reading stands. -/
inductive Quotes where
  | none
  | single
  | double

/-- The state of reading a script. -/
structure Lexing where
  /-- The clauses so far, the last one first. -/
  clauses : List Clause
  before : Separator
  /-- The words of the current clause, the last one first. -/
  words : List Word
  diverted : Bool
  /-- The pieces of the current word, the last one first, if a word has begun. -/
  word : Option (List Piece)

namespace Lexing

/-- Nothing read so far. -/
def initial : Lexing :=
  { clauses := [], before := .next, words := [], diverted := false, word := .none }

/-- Adds a piece to the current word. -/
def add (s : Lexing) (p : Piece) : Lexing := { s with word := some (p :: s.word.getD []) }

/-- Adds a character to the current word. -/
def addChar (s : Lexing) (c : Char) : Lexing :=
  match s.word with
  | some (.text cs :: ps) => { s with word := some (.text (cs ++ [c]) :: ps) }
  | _ => s.add (.text [c])

/-- Begins a word that may stay empty. -/
def beginWord (s : Lexing) : Lexing := { s with word := some (s.word.getD []) }

/-- Ends the current word. -/
def endWord (s : Lexing) : Lexing :=
  match s.word with
  | some ps => { s with words := ps.reverse :: s.words, word := .none }
  | .none => s

/-- Ends the current clause. -/
def endClause (s : Lexing) (following : Separator) : Lexing :=
  let s := s.endWord
  if s.words.isEmpty then { s with before := following }
  else
    { clauses := ⟨s.before, s.words.reverse, s.diverted⟩ :: s.clauses, before := following,
      words := [], diverted := false, word := .none }

end Lexing

/-- A character that a parameter's name may start with. -/
def isParameterStart (c : Char) : Bool := c.isAlpha || c == '_'

/-- A parameter that has a sign or digit for its name. -/
def isSignParameter (c : Char) : Bool := c.isDigit || "@*#?$".toList.contains c

/-- The name after a dollar sign, and what follows it. -/
def parameterName (cs : List Char) : Option (String × List Char) :=
  match cs with
  | '\x7b' :: rest =>
    let name := rest.takeWhile (· != '\x7d')
    some (String.ofList name, (rest.drop name.length).drop 1)
  | c :: rest =>
    if isSignParameter c then some (String.ofList [c], rest)
    else if isParameterStart c then
      let name := cs.takeWhile fun c => isParameterStart c || c.isDigit
      some (String.ofList name, cs.drop name.length)
    else none
  | [] => none

/-- Reads the rest of a script; `fuel` is at least the number of characters left. -/
def lex (fuel : Nat) (q : Quotes) (s : Lexing) (cs : List Char) : List Clause :=
  match fuel, cs with
  | 0, _ | _, [] => (s.endClause .next).clauses.reverse
  | fuel + 1, c :: cs =>
    match q with
    | .single => if c = '\'' then lex fuel .none s cs else lex fuel .single (s.addChar c) cs
    | .double =>
      if c = '"' then lex fuel .none s cs
      else if c = '\\' then
        match cs with
        | d :: rest =>
          if "$\"\\".toList.contains d then lex fuel .double (s.addChar d) rest
          else lex fuel .double ((s.addChar c).addChar d) rest
        | [] => lex fuel .double (s.addChar c) cs
      else if c = '$' then
        match parameterName cs with
        | some (name, rest) => lex fuel .double (s.add (.parameter name true)) rest
        | .none => lex fuel .double (s.addChar c) cs
      else lex fuel .double (s.addChar c) cs
    | .none =>
      if c = ' ' ∨ c = '\t' then lex fuel .none s.endWord cs
      else if c = '\n' ∨ c = ';' then lex fuel .none (s.endClause .next) cs
      else if c = '\'' then lex fuel .single s.beginWord cs
      else if c = '"' then lex fuel .double s.beginWord cs
      else if c = '#' ∧ s.word.isNone then
        lex fuel .none s (cs.dropWhile (· != '\n'))
      else if c = '$' then
        match parameterName cs with
        | some (name, rest) => lex fuel .none (s.add (.parameter name false)) rest
        | .none => lex fuel .none (s.addChar c) cs
      else
        match c, cs with
        | '\\', '\n' :: rest => lex fuel .none s rest
        | '\\', d :: rest => lex fuel .none (s.addChar d) rest
        | '&', '&' :: rest => lex fuel .none (s.endClause .onSuccess) rest
        | '|', '|' :: rest => lex fuel .none (s.endClause .onFailure) rest
        | '>', '&' :: '2' :: rest => lex fuel .none { s.endWord with diverted := true } rest
        | _, _ => lex fuel .none (s.addChar c) cs

/-- The clauses of a script. -/
def clausesOf (source : String) : List Clause :=
  lex source.length .none .initial source.toList

end FlowGraph.Command
