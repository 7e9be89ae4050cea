import FlowGraph.Files.Matching
import FlowGraph.Proofs.InnerPaths
import Mathlib.Data.List.Forall2
import Mathlib.Data.List.Sort
import Mathlib.Data.String.Basic

/-!
# The files that are listed for a folder

A folder's own files are listed in rising order of their names, and then what is listed for its
inner folders, in rising order of these. So a file is listed if folders, and no links to folders,
lead down to it (`FileTree.mem_matchingInside`), and it is listed once, since different ways down
have different paths (`FileTree.nodup_matchingInside`).
-/

namespace FlowGraph

/-- What holds for a folder if it holds for all in it holds for every entry. -/
@[elab_as_elim]
theorem Entry.inside {motive : Entry → Prop} (file : ∀ bytes, motive (.file bytes))
    (link : ∀ target, motive (.link target))
    (folder : ∀ entries, (∀ name e, (name, e) ∈ entries → motive e) → motive (.folder entries)) :
    ∀ e, motive e
  | .file bytes => file bytes
  | .link target => link target
  | .folder entries => folder entries fun _ e _ => Entry.inside file link folder e
termination_by e => sizeOf e
decreasing_by
  have smaller := List.sizeOf_lt_of_mem ‹(_, e) ∈ entries›
  simp only [Prod.mk.sizeOf_spec, Entry.folder.sizeOf_spec] at smaller ⊢
  omega

namespace FileTree

/-- A folder holds a file by a name, or a link that leads to a file. -/
inductive HasFile (t : FileTree) (folder : Path) (entries : List (String × Entry))
    (name : String) : Prop where
  | file (bytes : ByteArray) (mem : (name, .file bytes) ∈ entries)
  | link (target : String) (mem : (name, .link target) ∈ entries)
      (leads : t.isFile (folder.join name) = true)

/-- Folders lead down from an entry to one that holds a matching file, by which the path ends. -/
inductive Lies (t : FileTree) (p : FilePattern) (at_ : Path) (e : Entry) : Path → Prop where
  | down (names : List String) (entries : List (String × Entry)) (name : String)
      (there : e.at? names = some (.folder entries))
      (file : t.HasFile (names.foldl Path.join at_) entries name)
      (fits : p.isMatch name = true) : Lies t p at_ e ((names.foldl Path.join at_).join name)

section
variable {t : FileTree} {p : FilePattern} {folder : Path} {entries : List (String × Entry)}
  {name : String}

/-! ## Names in order -/

theorem mem_inOrder {entry : String × Entry} : entry ∈ inOrder entries ↔ entry ∈ entries :=
  (List.mergeSort_perm entries _).mem_iff

/-- Different names are in strictly rising order. -/
theorem rising_inOrder (distinct : Distinct entries) :
    (inOrder entries).Pairwise fun a b => a.1 < b.1 := by
  have sorted : (inOrder entries).Pairwise fun a b => !(b.1 < a.1) := by
    apply List.pairwise_mergeSort
    · intro a b c
      simp only [Bool.not_eq_true', decide_eq_false_iff_not, not_lt]
      exact le_trans
    · intro a b
      simp only [Bool.or_eq_true, Bool.not_eq_true', decide_eq_false_iff_not, not_lt]
      exact le_total a.1 b.1
  have once : (inOrder entries).Pairwise fun a b => a.1 ≠ b.1 := by
    have perm := (List.mergeSort_perm entries fun a b => !(b.1 < a.1)).map Prod.fst
    exact List.pairwise_map.1 (perm.nodup_iff.2 distinct.once)
  refine sorted.imp₂ ?_ once
  intro a b upward apart
  simp only [Bool.not_eq_true', decide_eq_false_iff_not, not_lt] at upward
  exact lt_of_le_of_ne upward apart

/-- The names of the files of a folder that match, in order. -/
def fileNames (t : FileTree) (p : FilePattern) (folder : Path) (entries : List (String × Entry)) :
    List String :=
  ((inOrder entries).filter fun e => t.isFileEntry folder e.1 e.2 && p.isMatch e.1).map Prod.fst

/-- The inner folders of a folder, in order. -/
def folders (entries : List (String × Entry)) : List (String × Entry) :=
  (inOrder entries).filter fun e => e.2.isFolder

theorem rising_fileNames (distinct : Distinct entries) :
    (t.fileNames p folder entries).Pairwise (· < ·) :=
  List.pairwise_map.2 ((rising_inOrder distinct).filter _)

theorem rising_folders (distinct : Distinct entries) :
    ((folders entries).map Prod.fst).Pairwise (· < ·) :=
  List.pairwise_map.2 ((rising_inOrder distinct).filter _)

theorem mem_fileNames :
    name ∈ t.fileNames p folder entries ↔
      t.HasFile folder entries name ∧ p.isMatch name = true := by
  simp only [fileNames, List.mem_map, List.mem_filter, mem_inOrder, Bool.and_eq_true]
  constructor
  · rintro ⟨⟨_, e⟩, ⟨mem, isFile, fits⟩, rfl⟩
    cases e with
    | file bytes => exact ⟨.file bytes mem, fits⟩
    | link target => exact ⟨.link target mem isFile, fits⟩
    | folder entries => cases isFile
  · rintro ⟨file, fits⟩
    cases file with
    | file bytes mem => exact ⟨(name, .file bytes), ⟨mem, rfl, fits⟩, rfl⟩
    | link target mem leads => exact ⟨(name, .link target), ⟨mem, leads, fits⟩, rfl⟩

theorem mem_folders {e : Entry} :
    (name, e) ∈ folders entries ↔ (name, e) ∈ entries ∧ ∃ inner, e = .folder inner := by
  rw [folders, List.mem_filter, mem_inOrder]
  cases e with
  | folder inner => exact and_congr_right fun _ => iff_of_true rfl ⟨inner, rfl⟩
  | file | link => exact and_congr_right fun _ => iff_of_false Bool.false_ne_true nofun

/-! ## What is listed -/

theorem matchingHere_eq :
    t.matchingHere p folder entries = (t.fileNames p folder entries).map folder.join := by
  rw [fileNames, List.map_map]
  rfl

theorem matchingEach_eq :
    t.matchingEach p folder entries =
      entries.map fun e => (e.1, t.matchingInside p (folder.join e.1) e.2) := by
  induction entries with
  | nil => rw [matchingEach, List.map_nil]
  | cons e rest ih => rw [matchingEach, ih, List.map_cons]

/-- Nothing is listed for an entry that is no folder. -/
theorem matchingInside_eq_nil {e : Entry} (noFolder : e.isFolder = false) :
    t.matchingInside p folder e = [] := by
  rw [matchingInside]
  rintro entries rfl
  cases noFolder

theorem matchingBelow_eq :
    t.matchingBelow p folder entries =
      (folders entries).flatMap fun e => t.matchingInside p (folder.join e.1) e.2 := by
  have ordered : inOrder (t.matchingEach p folder entries) =
      (inOrder entries).map fun e => (e.1, t.matchingInside p (folder.join e.1) e.2) := by
    rw [matchingEach_eq]
    symm
    apply List.map_mergeSort
    intro _ _ _ _
    rfl
  rw [matchingBelow, ordered, List.flatMap_map, folders]
  induction inOrder entries with
  | nil => rfl
  | cons e rest ih =>
    rw [List.flatMap_cons, ih, List.filter_cons]
    cases isFolder : e.2.isFolder with
    | true => rw [if_pos rfl, List.flatMap_cons]
    | false => rw [matchingInside_eq_nil isFolder, List.nil_append, if_neg Bool.false_ne_true]

theorem matchingInside_folder :
    t.matchingInside p folder (.folder entries) =
      (t.fileNames p folder entries).map folder.join ++
        (folders entries).flatMap fun e => t.matchingInside p (folder.join e.1) e.2 := by
  rw [matchingInside, matchingHere_eq, matchingBelow_eq]

/-- Nothing lies under an entry that is no folder. -/
theorem Lies.isFolder {e : Entry} {path : Path} (lies : t.Lies p folder e path) :
    e.isFolder = true := by
  cases lies with
  | down names inner last there file fits =>
    cases e with
    | folder entries => rfl
    | file | link =>
      cases names with
      | nil => cases there
      | cons => cases there

/-- **A file is listed if folders lead down to it.** -/
theorem mem_matchingInside {e : Entry} (sound : e.IsSound) {path : Path} :
    path ∈ t.matchingInside p folder e ↔ t.Lies p folder e path := by
  induction e using Entry.inside generalizing folder with
  | file | link =>
    rw [matchingInside_eq_nil rfl]
    refine iff_of_false List.not_mem_nil ?_
    intro lies
    cases lies.isFolder
  | folder entries ih =>
    rw [matchingInside_folder, List.mem_append, List.mem_map, List.mem_flatMap]
    constructor
    · rintro (⟨name, mem, rfl⟩ | ⟨⟨name, child⟩, mem, below⟩)
      · obtain ⟨file, fits⟩ := mem_fileNames.1 mem
        exact .down [] entries name rfl file fits
      · have inside := (mem_folders.1 mem).1
        cases (ih name child inside (sound.child inside)).1 below with
        | down names inner last there file fits =>
          refine .down (name :: names) inner last ?_ file fits
          rw [Entry.at?, sound.distinct.lookup.2 inside]
          exact there
    · rintro ⟨_ | ⟨name, names⟩, inner, last, there, file, fits⟩
      · cases there
        exact .inl ⟨last, mem_fileNames.2 ⟨file, fits⟩, rfl⟩
      · obtain ⟨children, found, below⟩ := Entry.exists_folder there
        have inside := sound.distinct.lookup.1 found
        refine .inr ⟨(name, .folder children), mem_folders.2 ⟨inside, children, rfl⟩, ?_⟩
        exact (ih name _ inside (sound.child inside)).2 (.down names inner last below file fits)

/-! ## Different ways have different paths -/

/-- The names on the way down a sound entry. -/
theorem names_of_at? {e : Entry} (sound : e.IsSound) {names : List String}
    (there : e.at? names = some (.folder entries)) : ∀ name ∈ names, IsName name := by
  induction names generalizing e with
  | nil => exact nofun
  | cons name names ih =>
    cases e with
    | file | link => cases there
    | folder outer =>
      obtain ⟨children, found, below⟩ := Entry.exists_folder there
      have inside := sound.distinct.lookup.1 found
      rw [List.forall_mem_cons]
      exact ⟨sound.distinct.names name (List.mem_map_of_mem inside),
        ih (sound.child inside) below⟩

theorem HasFile.isName (distinct : Distinct entries) (file : t.HasFile folder entries name) :
    IsName name := by
  apply distinct.names
  cases file with
  | file bytes mem => exact List.mem_map_of_mem mem
  | link target mem leads => exact List.mem_map_of_mem mem

/-- The pieces of a path that lies in a folder start with those of the folder. -/
theorem Lies.spine {e : Entry} {path : Path} (lies : t.Lies p folder e path) (sound : e.IsSound)
    (given : folder.text ≠ "") :
    ∃ route, route ≠ [] ∧ FileTree.spine path = FileTree.spine folder ++ route := by
  cases lies with
  | down names inner last there file fits =>
    obtain ⟨given', pieces⟩ := spine_foldl given (names_of_at? sound there)
    have proper := file.isName (sound names inner there)
    refine ⟨names ++ [last], by simp, ?_⟩
    rw [spine_join given' proper, pieces, List.append_assoc]

/-- **No path is listed twice.** -/
theorem nodup_matchingInside {e : Entry} (sound : e.IsSound) (given : folder.text ≠ "") :
    (t.matchingInside p folder e).Nodup := by
  induction e using Entry.inside generalizing folder with
  | file | link =>
    rw [matchingInside_eq_nil rfl]
    exact .nil
  | folder entries ih =>
    have below {n : String} {child : Entry} (mem : (n, child) ∈ folders entries) {path : Path}
        (listed : path ∈ t.matchingInside p (folder.join n) child) :
        ∃ route, route ≠ [] ∧ spine path = spine folder ++ n :: route := by
      have inside := (mem_folders.1 mem).1
      have proper := sound.distinct.names n (List.mem_map_of_mem inside)
      have lies := (mem_matchingInside (sound.child inside)).1 listed
      obtain ⟨route, some, pieces⟩ := lies.spine (sound.child inside) (join_ne_empty proper)
      refine ⟨route, some, ?_⟩
      rw [pieces, spine_join given proper, List.append_assoc, List.singleton_append]
    have here {n : String} (mem : n ∈ t.fileNames p folder entries) :
        spine (folder.join n) = spine folder ++ [n] :=
      spine_join given ((mem_fileNames.1 mem).1.isName sound.distinct)
    rw [matchingInside_folder, List.nodup_append]
    refine ⟨?_, ?_, ?_⟩
    · have once : (t.fileNames p folder entries).Nodup :=
        (rising_fileNames sound.distinct).imp ne_of_lt
      refine List.Nodup.map_on ?_ once
      intro m memM n memN same
      have pieces := congrArg spine same
      rw [here memM, here memN] at pieces
      exact List.singleton_inj.1 (List.append_cancel_left pieces)
    · rw [List.nodup_flatMap]
      constructor
      · rintro ⟨n, child⟩ mem
        have inside := (mem_folders.1 mem).1
        have proper := sound.distinct.names n (List.mem_map_of_mem inside)
        exact ih n child inside (sound.child inside) (join_ne_empty proper)
      · have apart := List.pairwise_map.1 ((rising_folders sound.distinct).imp ne_of_lt)
        refine apart.imp_of_mem ?_
        rintro ⟨m, child⟩ ⟨n, child'⟩ memM memN unequal path listed listed'
        obtain ⟨route, -, pieces⟩ := below memM listed
        obtain ⟨route', -, pieces'⟩ := below memN listed'
        rw [pieces] at pieces'
        exact unequal (List.cons.inj (List.append_cancel_left pieces')).1
    · intro path own path' listed same
      obtain ⟨n, mem, rfl⟩ := List.mem_map.1 own
      obtain ⟨⟨m, child⟩, memM, listed⟩ := List.mem_flatMap.1 listed
      obtain ⟨route, some, pieces⟩ := below memM listed
      rw [← same, here mem] at pieces
      exact some (List.cons.inj (List.append_cancel_left pieces)).2.symm

/-- What is listed for an inner folder by its own path. -/
theorem matchingFiles_join (found : t.find folder = .ok (.folder entries))
    (distinct : Distinct entries) {e : Entry} (mem : (name, e) ∈ folders entries) :
    t.matchingFiles (folder.join name) p true =
      .ok (t.matchingInside p (folder.join name) e) := by
  obtain ⟨inside, inner, rfl⟩ := mem_folders.1 mem
  have proper := distinct.names name (List.mem_map_of_mem inside)
  have there := find_join found proper (distinct.lookup.2 inside) (fun _ => nofun)
  rw [matchingFiles, there]
  rfl

end

/-- **What is listed for a folder.** In a tree in which every folder has distinct names, the own
files of a folder are listed by the names of its files, and of its links that lead to files, as far
as these match, in strictly rising order. With inner folders they are followed by what is listed for
each inner folder, in strictly rising order of the names of these. So the paths that are listed are
those to which folders, and no links to folders, lead down, and each is listed once. -/
theorem matchingFiles_lists (t : FileTree) (sound : t.IsSound) (folder : Path)
    (entries : List (String × Entry)) (found : t.find folder = .ok (.folder entries))
    (p : FilePattern) :
    ∃ (files inner : List String) (listed : List (List Path)),
      (files.Pairwise (· < ·) ∧
        ∀ name, name ∈ files ↔ t.HasFile folder entries name ∧ p.isMatch name = true) ∧
      (inner.Pairwise (· < ·) ∧ ∀ name, name ∈ inner ↔ ∃ es, (name, .folder es) ∈ entries) ∧
      List.Forall₂ (fun name paths => t.matchingFiles (folder.join name) p true = .ok paths)
        inner listed ∧
      t.matchingFiles folder p false = .ok (files.map folder.join) ∧
      t.matchingFiles folder p true = .ok (files.map folder.join ++ listed.flatten) ∧
      (files.map folder.join ++ listed.flatten).Nodup ∧
      ∀ path, path ∈ files.map folder.join ++ listed.flatten ↔
        t.Lies p folder (.folder entries) path := by
  have inside := sound.find found
  have given := (goTo_of_find found).1
  have all : t.matchingInside p folder (.folder entries) =
      (t.fileNames p folder entries).map folder.join ++
        ((folders entries).map fun e => t.matchingInside p (folder.join e.1) e.2).flatten :=
    matchingInside_folder
  refine ⟨t.fileNames p folder entries, (folders entries).map Prod.fst,
    (folders entries).map fun e => t.matchingInside p (folder.join e.1) e.2,
    ⟨rising_fileNames inside.distinct, fun _ => mem_fileNames⟩,
    ⟨rising_folders inside.distinct, fun name => ?_⟩, ?_, ?_, ?_, ?_, fun path => ?_⟩
  · rw [List.mem_map]
    constructor
    · rintro ⟨⟨_, e⟩, mem, rfl⟩
      obtain ⟨there, es, rfl⟩ := mem_folders.1 mem
      exact ⟨es, there⟩
    · rintro ⟨es, there⟩
      exact ⟨(name, .folder es), mem_folders.2 ⟨there, es, rfl⟩, rfl⟩
  · rw [List.forall₂_map_left_iff, List.forall₂_map_right_iff, List.forall₂_same]
    rintro ⟨name, e⟩ mem
    exact matchingFiles_join found inside.distinct mem
  · rw [matchingFiles, found, ← matchingHere_eq]
    rfl
  · rw [matchingFiles, found, ← all]
    rfl
  · rw [← all]
    exact nodup_matchingInside inside given
  · rw [← all]
    exact mem_matchingInside inside

end FileTree

namespace Sample

/-- An inner folder with a file and a link to the folder around it. -/
def nestedFiles : List (String × Entry) := [("b.mkv", .file ⟨#[]⟩), ("up", .link "/t")]

/-- A file, a link to it, a link to the folder itself, and an inner folder. -/
def loopedFiles : List (String × Entry) :=
  [("a.mkv", .file ⟨#[]⟩), ("alias.mkv", .link "/t/a.mkv"), ("loop", .link "/t"),
    ("nested", .folder nestedFiles)]

/-- A folder apart from the current one. -/
def looped : FileTree := ⟨[("home", .folder []), ("t", .folder loopedFiles)], ["home"]⟩

theorem isSound_looped : looped.IsSound := by
  have leaf {entries : List (String × Entry)} (distinct : Distinct entries)
      (flat : ∀ e ∈ entries, e.2.isFolder = false) : (Entry.folder entries).IsSound :=
    Entry.isSound_folder distinct fun e mem => Entry.isSound_of_not_folder (flat e mem)
  have inner : (Entry.folder nestedFiles).IsSound := leaf (by decide) (by decide)
  have outer : (Entry.folder loopedFiles).IsSound := by
    apply Entry.isSound_folder (by decide)
    intro e mem
    simp only [loopedFiles, List.mem_cons, List.not_mem_nil, or_false] at mem
    rcases mem with rfl | rfl | rfl | rfl
    · exact Entry.isSound_of_not_folder rfl
    · exact Entry.isSound_of_not_folder rfl
    · exact Entry.isSound_of_not_folder rfl
    · exact inner
  apply Entry.isSound_folder (by decide)
  intro e mem
  simp only [looped, List.mem_cons, List.not_mem_nil, or_false] at mem
  rcases mem with rfl | rfl
  · exact leaf (by decide) nofun
  · exact outer

/-- Where the path of the folder leads. -/
def atLooped : FileTree.Cursor := ⟨.folder loopedFiles, [("t", .folder looped.root)]⟩

theorem follow_t (links : Nat) (rest : List String) :
    FileTree.follow looped.start.entry links looped.start ("" :: "t" :: rest) =
      FileTree.follow looped.start.entry links atLooped rest := by
  have found : looped.root.lookup "t" = some (.folder loopedFiles) := by rfl
  rw [FileTree.follow_blank rfl (.inl rfl),
    FileTree.follow_child rfl (by decide) (by decide) found (fun _ => nofun)]
  rfl

/-- Pieces behind the absolute path of the folder are looked up in it. -/
theorem find_t {p : Path} {rest : List String} (pieces : FileTree.steps p.text = "" :: "t" :: rest)
    (absolute : p.isAbsolute = true) {c : FileTree.Cursor}
    (gets : FileTree.follow looped.start.entry FileTree.maxLinks atLooped rest = .ok c) :
    looped.find p = .ok c.entry := by
  have base : looped.base p = [] := if_pos absolute
  have given : p.text ≠ "" := by
    intro empty
    rw [empty] at pieces
    cases pieces
  rw [FileTree.find, if_neg given, FileTree.goTo, base, List.nil_append, pieces, follow_t, gets]
  rfl

/-- A link with an absolute target is looked up from the root. -/
theorem follow_absolute {links : Nat} {c : FileTree.Cursor} {entries : List (String × Entry)}
    {name target : String} {rest : List String} (inFolder : c.entry = .folder entries)
    (proper : IsName name) (found : entries.lookup name = some (.link target))
    (pieces : FileTree.steps target = "" :: "t" :: rest)
    (absolute : (Path.mk target).isAbsolute = true) :
    FileTree.follow looped.start.entry (links + 1) c [name] =
      FileTree.follow looped.start.entry links atLooped rest := by
  have base : c.base looped.start.entry target = looped.start := if_pos absolute
  have given : target ≠ "" := by
    rintro rfl
    cases pieces
  rw [FileTree.follow_link inFolder (not_or.2 ⟨proper.notEmpty, proper.notHere⟩) proper.notUp found
    given, base, pieces, List.cons_append, List.cons_append, List.append_nil, follow_t]

theorem find_looped : looped.find ⟨"/t"⟩ = .ok (.folder loopedFiles) := by
  have pieces : FileTree.steps "/t" = ["", "t"] := by rfl
  exact find_t pieces (by decide) (by rw [FileTree.follow])

theorem isFile_alias : looped.isFile ⟨"/t/alias.mkv"⟩ = true := by
  have pieces : FileTree.steps "/t/alias.mkv" = ["", "t", "alias.mkv"] := by rfl
  have target : FileTree.steps "/t/a.mkv" = ["", "t", "a.mkv"] := by rfl
  have link : loopedFiles.lookup "alias.mkv" = some (.link "/t/a.mkv") := by rfl
  have file : loopedFiles.lookup "a.mkv" = some (.file ⟨#[]⟩) := by rfl
  have gets : FileTree.follow looped.start.entry FileTree.maxLinks atLooped ["alias.mkv"] =
      .ok ⟨.file ⟨#[]⟩, ("a.mkv", .folder loopedFiles) :: atLooped.above⟩ := by
    rw [FileTree.maxLinks, follow_absolute rfl (by decide) link target (by decide),
      FileTree.follow_child rfl (by decide) (by decide) file (fun _ => nofun), FileTree.follow]
  rw [FileTree.isFile, find_t pieces (by decide) gets]
  rfl

theorem isFile_loop : looped.isFile ⟨"/t/loop"⟩ = false := by
  have pieces : FileTree.steps "/t/loop" = ["", "t", "loop"] := by rfl
  have target : FileTree.steps "/t" = ["", "t"] := by rfl
  have link : loopedFiles.lookup "loop" = some (.link "/t") := by rfl
  have gets : FileTree.follow looped.start.entry FileTree.maxLinks atLooped ["loop"] =
      .ok atLooped := by
    rw [FileTree.maxLinks, follow_absolute rfl (by decide) link target (by decide),
      FileTree.follow]
  rw [FileTree.isFile, find_t pieces (by decide) gets]
  rfl

theorem isFile_up : looped.isFile ⟨"/t/nested/up"⟩ = false := by
  have pieces : FileTree.steps "/t/nested/up" = ["", "t", "nested", "up"] := by rfl
  have target : FileTree.steps "/t" = ["", "t"] := by rfl
  have folder : loopedFiles.lookup "nested" = some (.folder nestedFiles) := by rfl
  have link : nestedFiles.lookup "up" = some (.link "/t") := by rfl
  have gets : FileTree.follow looped.start.entry FileTree.maxLinks atLooped ["nested", "up"] =
      .ok atLooped := by
    rw [FileTree.maxLinks,
      FileTree.follow_child rfl (by decide) (by decide) folder (fun _ => nofun),
      follow_absolute rfl (by decide) link target (by decide), FileTree.follow]
  rw [FileTree.isFile, find_t pieces (by decide) gets]
  rfl

theorem hasFile_looped {name : String} :
    looped.HasFile ⟨"/t"⟩ loopedFiles name ↔ name ∈ ["a.mkv", "alias.mkv"] := by
  constructor
  · rintro (⟨bytes, mem⟩ | ⟨target, mem, leads⟩)
    · simp only [loopedFiles, List.mem_cons, List.not_mem_nil, Prod.mk.injEq, reduceCtorEq,
        and_false, or_false] at mem
      exact mem.1 ▸ List.mem_cons_self
    · simp only [loopedFiles, List.mem_cons, List.not_mem_nil, Prod.mk.injEq, reduceCtorEq,
        and_false, or_false, false_or] at mem
      rcases mem with ⟨rfl, -⟩ | ⟨rfl, -⟩
      · exact List.mem_cons_of_mem _ List.mem_cons_self
      · have path : Path.join ⟨"/t"⟩ "loop" = ⟨"/t/loop"⟩ := by rfl
        rw [path, isFile_loop] at leads
        cases leads
  · have path : Path.join ⟨"/t"⟩ "alias.mkv" = ⟨"/t/alias.mkv"⟩ := by rfl
    rw [List.mem_cons, List.mem_singleton]
    rintro (rfl | rfl)
    · exact .file ⟨#[]⟩ List.mem_cons_self
    · exact .link "/t/a.mkv" (List.mem_cons_of_mem _ List.mem_cons_self) (path ▸ isFile_alias)

theorem hasFile_nested {name : String} :
    looped.HasFile ⟨"/t/nested"⟩ nestedFiles name ↔ name ∈ ["b.mkv"] := by
  rw [List.mem_singleton]
  constructor
  · rintro (⟨bytes, mem⟩ | ⟨target, mem, leads⟩)
    · simp only [nestedFiles, List.mem_cons, List.not_mem_nil, Prod.mk.injEq, reduceCtorEq,
        and_false, or_false] at mem
      exact mem.1
    · simp only [nestedFiles, List.mem_cons, List.not_mem_nil, Prod.mk.injEq, reduceCtorEq,
        and_false, or_false, false_or] at mem
      obtain ⟨rfl, -⟩ := mem
      have path : Path.join ⟨"/t/nested"⟩ "up" = ⟨"/t/nested/up"⟩ := by rfl
      rw [path, isFile_up] at leads
      cases leads
  · rintro rfl
    exact .file ⟨#[]⟩ List.mem_cons_self

theorem folder_looped {name : String} :
    (∃ es, (name, Entry.folder es) ∈ loopedFiles) ↔ name ∈ ["nested"] := by
  rw [List.mem_singleton]
  constructor
  · rintro ⟨es, mem⟩
    simp only [loopedFiles, List.mem_cons, List.not_mem_nil, Prod.mk.injEq, reduceCtorEq,
      and_false, or_false, false_or] at mem
    exact mem.1
  · rintro rfl
    exact ⟨nestedFiles, by simp [loopedFiles]⟩

theorem folder_nested {name : String} :
    (∃ es, (name, Entry.folder es) ∈ nestedFiles) ↔ name ∈ ([] : List String) := by
  refine iff_of_false ?_ List.not_mem_nil
  rintro ⟨es, mem⟩
  simp only [nestedFiles, List.mem_cons, List.not_mem_nil, Prod.mk.injEq, reduceCtorEq, and_false,
    or_false] at mem

theorem find_nested : looped.find ⟨"/t/nested"⟩ = .ok (.folder nestedFiles) := by
  have path : Path.join ⟨"/t"⟩ "nested" = ⟨"/t/nested"⟩ := by rfl
  have folder : loopedFiles.lookup "nested" = some (.folder nestedFiles) := by rfl
  rw [← path]
  exact FileTree.find_join find_looped (by decide) folder (fun _ => nofun)

end Sample

/-- Files and links to files are listed, and links to folders are not followed. -/
theorem looped_folder_is_listed :
    Sample.looped.matchingFiles ⟨"/t"⟩ .any true =
      .ok [⟨"/t/a.mkv"⟩, ⟨"/t/alias.mkv"⟩, ⟨"/t/nested/b.mkv"⟩] := by
  obtain ⟨files, inner, listed, ⟨filesRise, filesAre⟩, ⟨innerRise, innerAre⟩, below, -, all, -⟩ :=
    FileTree.matchingFiles_lists Sample.looped Sample.isSound_looped ⟨"/t"⟩ _ Sample.find_looped
      .any
  obtain ⟨files', inner', listed', ⟨filesRise', filesAre'⟩, ⟨innerRise', innerAre'⟩, below', -,
      all', -⟩ :=
    FileTree.matchingFiles_lists Sample.looped Sample.isSound_looped ⟨"/t/nested"⟩ _
      Sample.find_nested .any
  obtain rfl : files = ["a.mkv", "alias.mkv"] := filesRise.eq_of_mem_iff (by decide) fun name =>
    (filesAre name).trans ((and_iff_left rfl).trans Sample.hasFile_looped)
  obtain rfl : inner = ["nested"] := innerRise.eq_of_mem_iff (by decide) fun name =>
    (innerAre name).trans Sample.folder_looped
  obtain rfl : files' = ["b.mkv"] := filesRise'.eq_of_mem_iff (by decide) fun name =>
    (filesAre' name).trans ((and_iff_left rfl).trans Sample.hasFile_nested)
  obtain rfl : inner' = [] := innerRise'.eq_of_mem_iff .nil fun name =>
    (innerAre' name).trans Sample.folder_nested
  cases below' with
  | nil =>
    cases below with
    | @cons _ paths _ _ first others =>
      cases others with
      | nil =>
        have path : Path.join ⟨"/t"⟩ "nested" = ⟨"/t/nested"⟩ := by rfl
        rw [path, all'] at first
        obtain rfl := Except.ok.inj first
        exact all

end FlowGraph
