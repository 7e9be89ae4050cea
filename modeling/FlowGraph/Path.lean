/-!
# Paths as texts

A path is kept as it was written. Its parts are what stands between slashes; empty
parts and single points are passed over, except a point at the very start of a relative
path. The last part gives the file name, which a last point splits into stem and
extension; a point at the start of a name splits nothing.
-/

namespace FlowGraph

/-- A path as it was written. -/
structure Path where
  text : String
  deriving DecidableEq, Inhabited

namespace Path

/-- A part of a path. -/
inductive Part where
  | root
  /-- The point at the start of a relative path. -/
  | here
  | up
  | name (s : List Char)
  deriving DecidableEq

/-- The path starts with a slash. -/
def isAbsolute (p : Path) : Bool := p.text.toList.head? == some '/'

/-- The characters before the body of a path: a slash, or a point that is a part. -/
def startOf : List Char → List Char
  | '/' :: _ => ['/']
  | ['.'] => ['.']
  | '.' :: '/' :: _ => ['.']
  | _ => []

/-- The characters after the start. -/
def bodyOf (cs : List Char) : List Char := cs.drop (startOf cs).length

/-- The characters between slashes. -/
def pieces (cs : List Char) : List (List Char) := cs.splitOn '/'

/-- The piece is passed over. -/
def isSilent (piece : List Char) : Bool := piece == [] || piece == ['.']

/-- The part that a piece of a body is. -/
def partOf (piece : List Char) : Part := if piece == ['.', '.'] then .up else .name piece

/-- The parts of a path in order. -/
def parts (p : Path) : List Part :=
  let cs := p.text.toList
  let start := match startOf cs with
    | [] => []
    | '/' :: _ => [Part.root]
    | _ => [Part.here]
  start ++ ((pieces (bodyOf cs)).filter fun piece => !isSilent piece).map partOf

/-- The pieces of a body up to the last one that is not passed over. -/
def spoken (body : List Char) : List (List Char) :=
  ((pieces body).reverse.dropWhile isSilent).reverse

/-- The name of the file or folder, if the path ends in one. -/
def fileName? (p : Path) : Option (List Char) :=
  match (spoken (bodyOf p.text.toList)).getLast? with
  | some piece => if piece == ['.', '.'] then none else some piece
  | none => none

/-- What stands before the last point of a name, and what after it. -/
def splitAtPoint (name : List Char) : Option (List Char × List Char) :=
  let after := name.reverse.takeWhile (· != '.')
  if after.length = name.length then none
  else some (name.take (name.length - after.length - 1), after.reverse)

/-- The stem and the extension of a name. -/
def splitName (name : List Char) : List Char × Option (List Char) :=
  match splitAtPoint name with
  | some (stem, ext) => if stem.isEmpty then (name, none) else (stem, some ext)
  | none => (name, none)

/-- The file name; empty if the path ends in none. -/
def fileName (p : Path) : String := String.ofList (p.fileName?.getD [])

/-- The file name without its extension. -/
def stem (p : Path) : String :=
  String.ofList ((p.fileName?.map fun name => (splitName name).1).getD [])

/-- The extension without its point. -/
def extension? (p : Path) : Option String :=
  (p.fileName?.bind fun name => (splitName name).2).map String.ofList

/-- The extension with its point; empty if there is none. -/
def dottedExtension (p : Path) : String :=
  match p.extension? with
  | some ext => "." ++ ext
  | none => ""

/-- The path of what holds this one; a root, and an empty path, have none. -/
def parent? (p : Path) : Option Path :=
  let cs := p.text.toList
  let start := startOf cs
  match (spoken (bodyOf cs)).reverse with
  | _ :: before =>
    let body := ['/'].intercalate (before.dropWhile isSilent).reverse
    some ⟨String.ofList (start ++ body)⟩
  | [] => if start == ['.'] then some ⟨""⟩ else none

/-- The path of a name inside a folder. -/
def join (folder : Path) (name : String) : Path :=
  if (Path.mk name).isAbsolute then ⟨name⟩
  else if folder.text = "" then ⟨name⟩
  else if folder.text.toList.getLast? == some '/' then ⟨folder.text ++ name⟩
  else ⟨folder.text ++ "/" ++ name⟩

end Path

end FlowGraph
