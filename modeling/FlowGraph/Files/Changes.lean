import FlowGraph.Files.Tree

/-!
# What changed in a tree

The files of a tree are listed by the names that lead to them, so two trees can be
compared file by file.
-/

namespace FlowGraph

namespace Entry

mutual

/-- The files at and below an entry, by the names that lead to them from `above`,
innermost first. -/
def files (above : List String) : Entry → List (List String × ByteArray)
  | file bytes => [(above.reverse, bytes)]
  | link _ => []
  | folder entries => filesBelow above entries

/-- The files below a folder. -/
def filesBelow (above : List String) : List (String × Entry) → List (List String × ByteArray)
  | [] => []
  | (name, e) :: rest => files (name :: above) e ++ filesBelow above rest

end

end Entry

namespace FileTree

/-- The files of a tree. -/
def allFiles (t : FileTree) : List (List String × ByteArray) := Entry.filesBelow [] t.root

/-- The files of a later tree that are new or have other bytes. -/
def changed (before after : FileTree) : List (List String × ByteArray) :=
  let old := before.allFiles
  after.allFiles.filter fun f => old.lookup f.1 != some f.2

end FileTree

end FlowGraph
