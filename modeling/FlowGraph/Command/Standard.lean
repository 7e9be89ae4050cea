import FlowGraph.Command.Shell
import FlowGraph.Files.Tree

/-!
# The commands of a node

A node has the commands `true`, `false`, `echo`, `cat` and `sh`. None of them changes a
file, so at all times a command is a function of its arguments and of the files.
-/

namespace FlowGraph.Command

/-- A command that ended with a code and wrote some bytes. -/
def ending (code : Nat) (output : List UInt8) : Ended := ⟨some code, ⟨output.toArray⟩⟩

/-- The options at the front of the arguments of `echo`: no line end, escapes read. -/
def echoOptions (lineEnd escapes : Bool) : List String → Bool × Bool × List String
  | [] => (lineEnd, escapes, [])
  | arg :: args =>
    match arg.toList with
    | '-' :: letters =>
      if letters.isEmpty ∨ !letters.all fun c => c == 'n' || c == 'e' || c == 'E' then
        (lineEnd, escapes, arg :: args)
      else
        echoOptions (lineEnd && !letters.contains 'n')
          (letters.foldl (fun e c => if c = 'e' then true else if c = 'E' then false else e)
            escapes)
          args
    | _ => (lineEnd, escapes, arg :: args)

/-- Writes the arguments with blanks between them. -/
def echo (arguments : List String) : Ended :=
  let (lineEnd, escapes, words) := echoOptions true false arguments
  let text := (" ".intercalate words).toList
  ending 0 ((if escapes then unescape true .plain text else bytesOf text) ++
    if lineEnd then [10] else [])

/-- Writes files one after the other; those that cannot be read make it fail. -/
def cat (files : FileTree) (arguments : List String) : Ended :=
  let texts := (arguments.filter (· != "-")).map fun name => files.read ⟨name⟩
  let bytes := texts.flatMap fun r => match r with
    | .ok b => b.toList
    | .error _ => []
  ending (if texts.all fun r => r.toOption.isSome then 0 else 1) bytes

/-- Runs a script, given by its file or as a text. -/
def sh (files : FileTree) : List String → Ended
  | [] => ending 0 []
  | ["-c"] => ending 2 []
  | "-c" :: source :: args => Shell.runScript source args.tail
  | name :: args =>
    match files.readText ⟨name⟩ with
    | .ok source => Shell.runScript source args
    | .error _ => ending 2 []

/-- The commands by name. -/
def standard (files : FileTree) : List (String × (List String → Ended)) :=
  [("true", fun _ => ending 0 []), ("false", fun _ => ending 1 []), ("echo", echo),
   ("cat", cat files), ("sh", sh files)]

/-- The folders that hold the commands. -/
def folders : List String := ["/bin/", "/usr/bin/"]

/-- The name of a command that may be given with its folder. -/
def bareName (program : String) : String :=
  (folders.findSome? fun folder =>
    (folder.toList.isPrefixOf? program.toList).map String.ofList).getD program

/-- Why a program that is no command of the node does not start. -/
def startError (files : FileTree) (program : String) : OsError :=
  if program.toList.contains '/' then
    match files.find ⟨program⟩ with
    | .ok _ => .permissionDenied
    | .error e => e
  else if program = "." ∨ program = ".." then .permissionDenied
  else .notFound

/-- Runs a command. -/
def run (files : FileTree) : CommandRunner := fun _ c =>
  if (c.program :: c.arguments).any fun s => s.toList.contains '\x00' then .error .zeroCharacter
  else
    match (standard files).lookup (bareName c.program) with
    | some start => .ok (start c.arguments)
    | none => .error (startError files c.program)

end FlowGraph.Command
