/-!
# Errors of the file system and of starting commands

Each error has the wording and, where it has one, the number by which the operating
system reports it.
-/

namespace FlowGraph

/-- Why the operating system refuses something. -/
inductive OsError where
  | notFound
  | permissionDenied
  | exists
  | notFolder
  | isFolder
  | tooManyLinks
  /-- The bytes of a file are no text. -/
  | notText
  /-- A text for the operating system holds a zero character. -/
  | zeroCharacter
  deriving DecidableEq, Repr

namespace OsError

/-- The wording of an error. -/
def message : OsError → String
  | .notFound => "No such file or directory (os error 2)"
  | .permissionDenied => "Permission denied (os error 13)"
  | .exists => "File exists (os error 17)"
  | .notFolder => "Not a directory (os error 20)"
  | .isFolder => "Is a directory (os error 21)"
  | .tooManyLinks => "Too many levels of symbolic links (os error 40)"
  | .notText => "stream did not contain valid UTF-8"
  | .zeroCharacter => "nul byte found in provided data"

end OsError

end FlowGraph
