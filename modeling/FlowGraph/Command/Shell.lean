import FlowGraph.Command
import FlowGraph.Command.Escapes
import FlowGraph.Command.Words
import FlowGraph.Text.Blank

/-!
# A small shell

The shell runs simple commands and loops over words. It knows `echo`, `printf`, `exit`,
`kill` of itself, `true` and `false`; any other command is not found.
-/

namespace FlowGraph.Command

/-- A command of a script. -/
inductive Statement where
  | simple (clause : Clause)
  /-- A loop over the fields of some words. -/
  | each (before : Separator) (name : String) (words : List Word) (body : List Statement)

/-- The text of a word that consists of one plain text. -/
def plainText? : Word → Option String
  | [.text cs] => some (String.ofList cs)
  | _ => none

/-- A loop whose body is being read. -/
structure OpenLoop where
  before : Separator
  name : String
  words : List Word
  /-- What stands before the loop, the last one first. -/
  outer : List Statement

/-- Builds statements from clauses; `done` are the statements so far, the last one
first. Nothing if loops are not well formed. -/
def statementsFrom (loops : List OpenLoop) (done : List Statement) :
    List Clause → Option (List Statement)
  | [] => if loops.isEmpty then some done.reverse else none
  | clause :: rest =>
    match clause.words.map plainText? with
    | some "for" :: some name :: some "in" :: _ =>
      statementsFrom (⟨clause.before, name, clause.words.drop 3, done⟩ :: loops) [] rest
    | some "do" :: more =>
      if loops.isEmpty then none
      else if more.isEmpty then statementsFrom loops done rest
      else
        statementsFrom loops (.simple { clause with words := clause.words.drop 1 } :: done) rest
    | [some "done"] =>
      match loops with
      | loop :: loops =>
        statementsFrom loops
          (.each loop.before loop.name loop.words done.reverse :: loop.outer) rest
      | [] => none
    | _ => statementsFrom loops (.simple clause :: done) rest

/-- Whether and how a shell has ended. -/
inductive Progress where
  | running
  | exited (code : Nat)
  | killed

/-- The state of a shell. -/
structure Shell where
  arguments : List String
  parameters : List (String × String)
  status : Nat
  output : List UInt8
  progress : Progress

namespace Shell

/-- The number of a shell's own process, as a text. -/
def ownNumber : String := "1"

/-- The value of a parameter. -/
def value (sh : Shell) (name : String) : String :=
  if name = "$" then ownNumber
  else if name = "?" then toString sh.status
  else if name = "#" then toString sh.arguments.length
  else if name = "*" ∨ name = "@" then " ".intercalate sh.arguments
  else
    match name.toNat? with
    | some 0 => "sh"
    | some (n + 1) => sh.arguments.getD n ""
    | none => (sh.parameters.lookup name).getD ""

/-- Adds fields to the fields of a word: the first one goes on with the last of these. -/
def joinFields (fields more : List String) : List String :=
  match fields.reverse, more with
  | _, [] => fields
  | [], more => more
  | last :: before, first :: others => before.reverse ++ (last ++ first) :: others

/-- The fields of a word. -/
def fieldsOf (sh : Shell) (w : Word) : List String :=
  w.foldl
    (fun fields piece =>
      match piece with
      | .text cs => joinFields fields [String.ofList cs]
      | .parameter name quoted =>
        if name = "@" ∧ quoted then joinFields fields sh.arguments
        else if quoted then joinFields fields [sh.value name]
        else joinFields fields (Text.words (sh.value name)))
    []

/-- The fields of words; an empty quoted word is an empty field. -/
def expandWords (sh : Shell) (ws : List Word) : List String :=
  ws.flatMap fun w => if w.isEmpty then [""] else sh.fieldsOf w

/-- Writes to the standard output. -/
def print (sh : Shell) (bytes : List UInt8) : Shell :=
  { sh with output := sh.output ++ bytes, status := 0 }

/-- Writes a format once: the bytes, and the arguments left. -/
def formatOnce : List Char → List Char → List String → List UInt8 × List String
  | text, [], args => (unescape false .plain text.reverse, args)
  | text, '%' :: '%' :: cs, args => formatOnce ('%' :: text) cs args
  | text, '%' :: c :: cs, args =>
    if c = 's' ∨ c = 'd' then
      let (bytes, left) := formatOnce [] cs args.tail
      (unescape false .plain text.reverse ++
        (bytesOf (args.headD (if c = 'd' then "0" else "")).toList ++ bytes), left)
    else formatOnce (c :: '%' :: text) cs args
  | text, c :: cs, args => formatOnce (c :: text) cs args

/-- Writes a format until the arguments are used up. -/
def format (cs : List Char) : Nat → List String → List UInt8
  | 0, _ => []
  | n + 1, args =>
    let (bytes, left) := formatOnce [] cs args
    if left.isEmpty ∨ left.length = args.length then bytes else bytes ++ format cs n left

/-- Runs a simple command. -/
def runSimple (sh : Shell) : List String → Shell
  | [] => sh
  | "echo" :: "-n" :: args =>
    sh.print (unescape true .plain (" ".intercalate args).toList)
  | "echo" :: args =>
    sh.print (unescape true .plain (" ".intercalate args).toList ++ [10])
  | "printf" :: text :: args => sh.print (format text.toList (args.length + 1) args)
  | "exit" :: args =>
    { sh with progress := .exited (((args.head?.bind String.toNat?).getD sh.status) % 256) }
  | ["kill", _, pid] =>
    if pid = ownNumber then { sh with progress := .killed } else { sh with status := 1 }
  | "true" :: _ | ":" :: _ => { sh with status := 0 }
  | "false" :: _ => { sh with status := 1 }
  | _ => { sh with status := 127 }

/-- The shell is still running and a separator lets it go on. -/
def goesOn (sh : Shell) (before : Separator) : Bool :=
  match sh.progress, before with
  | .running, .next => true
  | .running, .onSuccess => sh.status == 0
  | .running, .onFailure => sh.status != 0
  | _, _ => false

/-- Runs the command of a clause. -/
def runClause (sh : Shell) (c : Clause) : Shell :=
  let after := sh.runSimple (sh.expandWords c.words)
  if c.diverted then { after with output := sh.output } else after

mutual

/-- Runs a statement. -/
def runStatement (sh : Shell) : Statement → Shell
  | .simple c => if sh.goesOn c.before then sh.runClause c else sh
  | .each before name words body =>
    if sh.goesOn before then
      (sh.expandWords words).foldl
        (fun sh value =>
          runStatements { sh with parameters := (name, value) :: sh.parameters } body) sh
    else sh

/-- Runs statements in order. -/
def runStatements (sh : Shell) : List Statement → Shell
  | [] => sh
  | s :: rest => runStatements (runStatement sh s) rest

end

/-- How a shell has ended. -/
def ended (sh : Shell) : Command.Ended :=
  { exitCode := match sh.progress with
      | .running => some sh.status
      | .exited code => some code
      | .killed => none
    output := ⟨sh.output.toArray⟩ }

/-- Runs a script with arguments. -/
def runScript (source : String) (arguments : List String) : Command.Ended :=
  match statementsFrom [] [] (clausesOf source) with
  | some statements =>
    ended (runStatements ⟨arguments, [], 0, [], .running⟩ statements)
  | none => ⟨some 2, .empty⟩

end Shell

end FlowGraph.Command
