import FlowGraph.Files.Tree
import FlowGraph.Pattern.FilePattern

/-!
# The files of a folder that match a pattern

A folder's own files come first, in the order of their paths, and then those of its
inner folders. A link to a file counts as a file; a link to a folder is passed over.
-/

namespace FlowGraph

namespace FileTree

/-- An entry of a folder is a file, or a link that leads to one. -/
def isFileEntry (t : FileTree) (folder : Path) (name : String) : Entry → Bool
  | .file _ => true
  | .link _ => t.isFile (folder.join name)
  | .folder _ => false

/-- The files among the entries of a folder that match a pattern. -/
def matchingHere (t : FileTree) (p : FilePattern) (folder : Path)
    (entries : List (String × Entry)) : List Path :=
  ((inOrder entries).filter fun (name, e) => t.isFileEntry folder name e && p.isMatch name).map
    fun (name, _) => folder.join name

mutual

/-- The matching files of an entry that is a folder, inner folders included. -/
def matchingInside (t : FileTree) (p : FilePattern) (at_ : Path) : Entry → List Path
  | .folder entries => t.matchingHere p at_ entries ++ t.matchingBelow p at_ entries
  | _ => []

/-- The matching files of inner folders, in rising order of the folders' names. -/
def matchingBelow (t : FileTree) (p : FilePattern) (at_ : Path) (entries : List (String × Entry)) :
    List Path :=
  (inOrder (t.matchingEach p at_ entries)).flatMap (·.2)

/-- The matching files of each entry, under its name. -/
def matchingEach (t : FileTree) (p : FilePattern) (at_ : Path) :
    List (String × Entry) → List (String × List Path)
  | [] => []
  | (name, e) :: rest =>
    (name, t.matchingInside p (at_.join name) e) :: t.matchingEach p at_ rest

end

/-- The files of a folder that match a pattern. -/
def matchingFiles (t : FileTree) (folder : Path) (p : FilePattern) (recursive : Bool) :
    Except OsError (List Path) :=
  match t.find folder with
  | .ok (.folder entries) =>
    .ok (if recursive then t.matchingInside p folder (.folder entries)
      else t.matchingHere p folder entries)
  | .ok _ => .error .notFolder
  | .error e => .error e

end FileTree

end FlowGraph
