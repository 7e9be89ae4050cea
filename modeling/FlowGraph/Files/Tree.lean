import FlowGraph.Files.Error
import FlowGraph.Path

/-!
# Trees of files

A tree holds folders, files and links by name, and the current folder is a place in it. A
path is looked up piece by piece, an absolute one from the root and any other one from the
current folder, and a link on the way is replaced by its target; no more than forty links
are followed, so every lookup ends. The root folder itself cannot be changed.
-/

namespace FlowGraph

/-- A file, a folder or a symbolic link. -/
inductive Entry where
  | file (bytes : ByteArray)
  | folder (entries : List (String × Entry))
  /-- A link with the text of its target. -/
  | link (target : String)
  deriving Inhabited

namespace Entry

/-- The entry is a folder. -/
def isFolder : Entry → Bool
  | .folder _ => true
  | _ => false

/-- The entry is a file. -/
def isFile : Entry → Bool
  | .file _ => true
  | _ => false

end Entry

/-- The entries of the root, and the names that lead from it to the current folder. -/
structure FileTree where
  root : List (String × Entry)
  here : List String
  deriving Inhabited

namespace FileTree

/-- Entries inside folders that hold nothing else. -/
def nested (entries : List (String × Entry)) : List String → List (String × Entry)
  | [] => entries
  | name :: names => [(name, .folder (nested entries names))]

/-- The tree that holds nothing but the current folder. -/
def ofCurrent (here : List String) (entries : List (String × Entry)) : FileTree :=
  ⟨nested entries here, here⟩

/-- No files at all. -/
def empty : FileTree := ofCurrent ["current"] []

/-- The number of links that one lookup follows. -/
def maxLinks : Nat := 40

/-- The pieces of a path's text, absolute or not. -/
def steps (text : String) : List String :=
  (text.toList.splitOn '/').map String.ofList

/-- Where a lookup stands: an entry, and the names and folders that lead to it,
innermost first. -/
structure Cursor where
  entry : Entry
  above : List (String × Entry)

/-- The names from the root to a cursor. -/
def Cursor.names (c : Cursor) : List String := c.above.reverse.map (·.1)

/-- The cursor at the folder around this one; there is none around the root. -/
def Cursor.outer (c : Cursor) : Cursor :=
  match c.above with
  | (_, outer) :: above => ⟨outer, above⟩
  | [] => c

/-- Where the target of a link is looked up. -/
def Cursor.base (root : Entry) (at_ : Cursor) (target : String) : Cursor :=
  if (Path.mk target).isAbsolute then ⟨root, []⟩ else at_

/-- Goes on from a cursor by the pieces of a path. -/
def follow (root : Entry) (links : Nat) (at_ : Cursor) (todo : List String) :
    Except OsError Cursor :=
  match todo with
  | [] => .ok at_
  | step :: rest =>
    match at_.entry with
    | .folder entries =>
      if step = "" ∨ step = "." then follow root links at_ rest
      else if step = ".." then follow root links at_.outer rest
      else
        match entries.lookup step with
        | none => .error .notFound
        | some (.link target) =>
          match links with
          | 0 => .error .tooManyLinks
          | links + 1 =>
            if target = "" then .error .notFound
            else follow root links (at_.base root target) (steps target ++ rest)
        | some child => follow root links ⟨child, (step, at_.entry) :: at_.above⟩ rest
    | _ => .error .notFolder
termination_by (links, todo.length)

/-- The root. -/
def start (t : FileTree) : Cursor := ⟨.folder t.root, []⟩

/-- The names that lead to where a path starts. -/
def base (t : FileTree) (p : Path) : List String := if p.isAbsolute then [] else t.here

/-- Where the first pieces of a path lead. -/
def goTo (t : FileTree) (p : Path) (pieces : List String) : Except OsError Cursor :=
  follow t.start.entry maxLinks t.start (t.base p ++ pieces)

/-- The entry that a path leads to. -/
def find (t : FileTree) (p : Path) : Except OsError Entry :=
  if p.text = "" then .error .notFound else (·.entry) <$> t.goTo p (steps p.text)

/-- The path leads to a folder. -/
def isFolder (t : FileTree) (p : Path) : Bool :=
  match t.find p with
  | .ok e => e.isFolder
  | .error _ => false

/-- The path leads to a file. -/
def isFile (t : FileTree) (p : Path) : Bool :=
  match t.find p with
  | .ok e => e.isFile
  | .error _ => false

/-- Things under names, in rising order of the names. -/
def inOrder {α : Type} (named : List (String × α)) : List (String × α) :=
  named.mergeSort fun a b => !(b.1 < a.1)

/-- The entries of a folder by name, in rising order of names. -/
def list (t : FileTree) (p : Path) : Except OsError (List (String × Entry)) :=
  match t.find p with
  | .ok (.folder entries) => .ok (inOrder entries)
  | .ok _ => .error .notFolder
  | .error e => .error e

/-- The bytes of a file. -/
def read (t : FileTree) (p : Path) : Except OsError ByteArray :=
  match t.find p with
  | .ok (.file bytes) => .ok bytes
  | .ok _ => .error .isFolder
  | .error e => .error e

/-- The text of a file. -/
def readText (t : FileTree) (p : Path) : Except OsError String :=
  match t.read p with
  | .ok bytes =>
    match String.fromUTF8? bytes with
    | some s => .ok s
    | none => .error .notText
  | .error e => .error e

/-! ## Changing a tree -/

/-- Puts an entry under a name, over the one that was there. -/
def put (name : String) (e : Entry) : List (String × Entry) → List (String × Entry)
  | [] => [(name, e)]
  | (n, old) :: rest => if n = name then (name, e) :: rest else (n, old) :: put name e rest

/-- Goes down a chain of folder names and changes the entries there. -/
def changeAt (f : List (String × Entry) → List (String × Entry)) :
    List String → List (String × Entry) → List (String × Entry)
  | [], entries => f entries
  | name :: rest, entries =>
    match entries.lookup name with
    | some (.folder inner) => put name (.folder (changeAt f rest inner)) entries
    | _ => entries

/-- The pieces of a path without those passed over at its end. -/
def spokenSteps (p : Path) : List String :=
  ((steps p.text).reverse.dropWhile fun s => s = "" ∨ s = ".").reverse

/-- The tree in which the entries of a folder are changed. -/
def change (t : FileTree) (f : List (String × Entry) → List (String × Entry)) (folder : Cursor) :
    Except OsError FileTree :=
  if folder.above.isEmpty then .error .permissionDenied
  else .ok { t with root := changeAt f folder.names t.root }

/-- Puts a new entry where a path leads, in a folder that has nothing of that name. -/
def create (t : FileTree) (p : Path) (e : Entry) : Except OsError FileTree :=
  if p.text = "" then .error .notFound
  else
    match (spokenSteps p).reverse with
    | [] => .error .exists
    | name :: before =>
      match t.goTo p before.reverse with
      | .error e => .error e
      | .ok at_ =>
        match at_.entry with
        | .folder entries =>
          if name = ".." ∨ (entries.lookup name).isSome then .error .exists
          else t.change (put name e) at_
        | _ => .error .notFolder

/-- A path and the paths of the folders that hold it, innermost first. -/
def withAncestors : Nat → Path → List Path
  | 0, _ => []
  | n + 1, p =>
    if p.text = "" then []
    else
      match p.parent? with
      | none => []
      | some outer => p :: withAncestors n outer

/-- Makes the first folder of a list, and those after it that it needs. -/
def createChain (t : FileTree) : List Path → Except OsError FileTree
  | [] => .ok t
  | p :: outer =>
    match t.create p (.folder []) with
    | .ok t => .ok t
    | .error .notFound =>
      match createChain t outer with
      | .error e => .error e
      | .ok t =>
        match t.create p (.folder []) with
        | .ok t => .ok t
        | .error e => if t.isFolder p then .ok t else .error e
    | .error e => if t.isFolder p then .ok t else .error e

/-- Makes a folder and the folders it lies in, as far as they are missing. -/
def createFolders (t : FileTree) (p : Path) : Except OsError FileTree :=
  t.createChain (withAncestors (p.text.length + 1) p)

/-- Where a file is put that is written at a path: a folder and a name in it, under which
there is a file or nothing. Links are followed, also one at the end that leads to nothing
yet. -/
def place (root : Entry) (links : Nat) (at_ : Cursor) (todo : List String) :
    Except OsError (Cursor × String) :=
  match todo with
  | [] => .error .isFolder
  | step :: rest =>
    match at_.entry with
    | .folder entries =>
      if step = "" ∨ step = "." then place root links at_ rest
      else if step = ".." then place root links at_.outer rest
      else
        match entries.lookup step with
        | none => if rest.isEmpty then .ok (at_, step) else .error .notFound
        | some (.link target) =>
          match links with
          | 0 => .error .tooManyLinks
          | links + 1 =>
            if target = "" then .error .notFound
            else place root links (at_.base root target) (steps target ++ rest)
        | some child =>
          if rest.isEmpty ∧ child.isFile then .ok (at_, step)
          else place root links ⟨child, (step, at_.entry) :: at_.above⟩ rest
    | _ => .error .notFolder
termination_by (links, todo.length)

/-- Writes a file, over one that was there. -/
def write (t : FileTree) (p : Path) (bytes : ByteArray) : Except OsError FileTree :=
  if p.text = "" then .error .notFound
  else
    match place t.start.entry maxLinks t.start (t.base p ++ steps p.text) with
    | .ok (folder, name) => t.change (put name (.file bytes)) folder
    | .error e => .error e

end FileTree

end FlowGraph
