import FlowGraph.Files.Error

/-!
# External commands

A command is started by its program with some arguments. It fails to start, or ends
with an exit code, unless a signal ended it, and with what it wrote.
-/

namespace FlowGraph

/-- A program with the arguments that it gets. -/
structure Command where
  program : String
  arguments : List String
  deriving DecidableEq

/-- How a command ended. -/
structure Command.Ended where
  /-- The exit code; absent when a signal ended the command. -/
  exitCode : Option Nat
  /-- The bytes of its standard output. -/
  output : ByteArray

/-- How commands run, by the time on the node: one and the same command may end in another
way when it runs again. -/
abbrev CommandRunner := Nat → Command → Except OsError Command.Ended

end FlowGraph
