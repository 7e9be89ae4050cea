import FlowGraph.Pattern.Notation

/-!
# Patterns for file names

A pattern is empty or one of the signs for every file, the name of a group of
extensions, a text with the wildcards `*` and `?`, or a regular expression. A group and
a text with wildcards are written as regular expressions before they are read. Letter
case is ignored.
-/

namespace FlowGraph

open Pattern (Regex)

/-- A pattern for file names. -/
inductive FilePattern where
  /-- Every name matches. -/
  | any
  /-- The names in which the expression matches. -/
  | regex (r : Regex)

namespace FilePattern

def imageExtensions : List String :=
  ["jpg", "jpeg", "png", "gif", "bmp", "tif", "tiff", "webp", "heic", "avif"]

def videoExtensions : List String :=
  ["mkv", "mp4", "m4v", "avi", "mov", "wmv", "mpg", "mpeg", "ts", "webm", "flv"]

def audioExtensions : List String :=
  ["mp3", "flac", "aac", "m4a", "ogg", "opus", "wav", "wma", "alac"]

/-- The extensions of a group by its name. -/
def extensions? : String → Option (List String)
  | "images" | "image" => some imageExtensions
  | "videos" | "video" => some videoExtensions
  | "audio" => some audioExtensions
  | _ => none

/-- The expression of the names that end in a point and one of some extensions. -/
def extensionSource (exts : List String) : String := "\\.(" ++ "|".intercalate exts ++ ")$"

/-- What one character of a wildcard text is in an expression. -/
def wildcard : Char → List Char
  | '*' => ['.', '*']
  | '?' => ['.']
  | c => Pattern.escape c

/-- The expression of the names that match a wildcard text from start to end. -/
def wildcardSource (cs : List Char) : String :=
  String.ofList ('^' :: (cs.flatMap wildcard ++ ['$']))

/-- The characters that make a text a regular expression. -/
def isExpressionSign (c : Char) : Bool :=
  "^$()[]\x7b\x7d|+\\".toList.contains c

/-- A point followed by a star stands somewhere in a text. -/
def hasPointStar : List Char → Bool
  | '.' :: '*' :: _ => true
  | _ :: cs => hasPointStar cs
  | [] => false

/-- The text has wildcards and nothing that makes it a regular expression. -/
def isWildcardText (cs : List Char) : Bool :=
  cs.any (fun c => c == '*' || c == '?') && !cs.any isExpressionSign && !hasPointStar cs

/-- The regular expression that a trimmed pattern is written as; nothing if it stands for
every name. -/
def source? (trimmed : String) : Option String :=
  let lower := Text.lowerAscii trimmed
  if lower = "" ∨ lower = "*" ∨ lower = "*.*" then none
  else
    match extensions? lower with
    | some exts => some (extensionSource exts)
    | none =>
      some (if isWildcardText trimmed.toList then wildcardSource trimmed.toList else trimmed)

/-- Parses a pattern; nothing if it is an invalid regular expression. -/
def parse? (pattern : String) : Option FilePattern :=
  match source? (Text.trim pattern) with
  | none => some .any
  | some source => (Regex.parse? source).map .regex

/-- The start of the wording for an invalid pattern; an explanation may follow. -/
def invalidMessage (pattern : String) : String := "invalid file pattern '" ++ pattern ++ "'"

/-- The pattern holds every name. -/
def isAny : FilePattern → Bool
  | .any => true
  | .regex _ => false

/-- A file name matches. -/
def isMatch (p : FilePattern) (name : String) : Bool :=
  match p with
  | .any => true
  | .regex r => r.isMatch name

end FilePattern

end FlowGraph
