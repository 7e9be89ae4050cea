import FlowGraph.Proofs.FileFacts
import FlowGraph.Proofs.InnerPaths
import Mathlib.Data.List.DropRight

/-!
# The pieces of a file's path fit together

The name, the stem, the extension and the folder of a file are cut out of its path each by rules of
its own. The parts of a path come from the pieces between its slashes, of which some are passed over
(`Path.audible`): a folder has all of these but the last, which is the name of the file, and a
joined name adds it again.
-/

namespace FlowGraph

namespace Path

/-! ## The start of a path -/

/-- The part that the start of a path is. -/
def startParts : List Char → List Part
  | [] => []
  | '/' :: _ => [.root]
  | _ => [.here]

/-- What comes after a text does not change its start, unless it makes a file of a point. -/
theorem startOf_append {cs ds : List Char} (given : cs ≠ [])
    (next : cs = ['.'] → ∃ rest, ds = '/' :: rest) : startOf (cs ++ ds) = startOf cs := by
  fun_cases startOf cs with
  | case1 rest => rfl
  | case2 =>
    obtain ⟨rest, rfl⟩ := next rfl
    rfl
  | case3 rest => rfl
  | case4 cs' noRoot noPoint noHere =>
    obtain ⟨c, cs, rfl⟩ := List.exists_cons_of_ne_nil given
    have relative : c ≠ '/' := fun slash => noRoot cs (slash ▸ rfl)
    by_cases point : c = '.'
    · subst point
      cases cs with
      | nil => exact absurd rfl noPoint
      | cons d cs =>
        have other : d ≠ '/' := fun slash => noHere cs (slash ▸ rfl)
        simp [startOf, other]
    · simp [startOf, relative, point]

theorem startOf_of_noSlash {cs : List Char} (noSlash : '/' ∉ cs) (notHere : cs ≠ ['.']) :
    startOf cs = [] := by
  fun_cases startOf cs with
  | case1 rest => exact absurd List.mem_cons_self noSlash
  | case2 => exact absurd rfl notHere
  | case3 rest => simp at noSlash
  | case4 => rfl

theorem startOf_append_bodyOf (cs : List Char) : startOf cs ++ bodyOf cs = cs := by
  unfold bodyOf
  fun_cases startOf cs <;> rfl

/-! ## Audible pieces -/

/-- The pieces of a text that are not passed over. -/
def audible (cs : List Char) : List (List Char) := (pieces cs).filter fun piece => !isSilent piece

theorem noSlash_of_mem_pieces {cs : List Char} : ∀ piece ∈ pieces cs, '/' ∉ piece := by
  induction cs with
  | nil => simp [pieces]
  | cons c cs ih =>
    rw [pieces, List.splitOn_cons_eq_if_modifyHead]
    split
    · exact List.forall_mem_cons.2 ⟨List.not_mem_nil, ih⟩
    · next other =>
      have apart : '/' ≠ c := fun slash => other (beq_iff_eq.2 slash.symm)
      change ∀ piece ∈ (pieces cs).modifyHead (List.cons c), '/' ∉ piece
      cases split : pieces cs with
      | nil => simp
      | cons piece rest =>
        rw [split] at ih
        simpa [apart] using ih

/-- **A slash stands between the pieces before and after it.** -/
theorem audible_append_slash (cs ds : List Char) :
    audible (cs ++ '/' :: ds) = audible cs ++ audible ds := by
  rw [audible, pieces, List.splitOn_append_cons_self, List.filter_append]
  rfl

theorem audible_cons_slash (cs : List Char) : audible ('/' :: cs) = audible cs :=
  audible_append_slash [] cs

theorem audible_of_noSlash {cs : List Char} (noSlash : '/' ∉ cs) (heard : isSilent cs = false) :
    audible cs = [cs] := by
  rw [audible, pieces, List.splitOn_eq_singleton noSlash, List.filter_singleton, heard]
  rfl

theorem audible_bodyOf (cs : List Char) : audible (bodyOf cs) = audible cs := by
  unfold bodyOf
  fun_cases startOf cs with
  | case1 rest => exact (audible_cons_slash rest).symm
  | case2 => rfl
  | case3 rest =>
    have split := audible_append_slash ['.'] rest
    exact (audible_cons_slash rest).trans split.symm
  | case4 => rfl

theorem parts_eq (p : Path) :
    p.parts = startParts (startOf p.text.toList) ++ (audible p.text.toList).map partOf := by
  rw [← audible_bodyOf]
  rfl

/-- What is passed over at the end of a text is passed over anyway. -/
theorem filter_rdropWhile_isSilent (ps : List (List Char)) :
    ((ps.rdropWhile isSilent).filter fun piece => !isSilent piece) =
      ps.filter fun piece => !isSilent piece := by
  induction ps using List.reverseRecOn with
  | nil => rfl
  | append_singleton ps piece ih =>
    rw [List.rdropWhile_concat]
    split
    · next silent => simpa [silent] using ih
    · rfl

/-- A text that is put together from pieces has these pieces. -/
theorem audible_intercalate {ps : List (List Char)} (noSlash : ∀ piece ∈ ps, '/' ∉ piece) :
    audible (['/'].intercalate ps) = ps.filter fun piece => !isSilent piece := by
  by_cases none : ps = []
  · subst none
    rfl
  · rw [audible, pieces, List.splitOn_intercalate '/' noSlash none]

/-! ## Joining a name -/

theorem heard_of_isName {name : String} (proper : IsName name) : isSilent name.toList = false := by
  have notEmpty : name.toList ≠ [] := fun none => proper.notEmpty (String.toList_eq_nil_iff.1 none)
  have notHere : name.toList ≠ ['.'] := fun here => proper.notHere (String.toList_inj.1 here)
  simp [isSilent, notEmpty, notHere]

theorem partOf_of_isName {name : String} (proper : IsName name) :
    partOf name.toList = .name name.toList := by
  have notUp : name.toList ≠ ['.', '.'] := fun up => proper.notUp (String.toList_inj.1 up)
  simp [partOf, notUp]

theorem isName_of_heard {name : List Char} (heard : isSilent name = false)
    (notUp : name ≠ ['.', '.']) (noSlash : '/' ∉ name) : IsName (String.ofList name) := by
  have apart : ∀ text : String, String.ofList name = text → name = text.toList := by
    rintro text rfl
    exact String.toList_ofList.symm
  constructor
  · intro none
    rw [apart "" none] at heard
    cases heard
  · intro here
    rw [apart "." here] at heard
    cases heard
  · exact fun up => notUp (apart ".." up)
  · rwa [String.toList_ofList]

/-- A path has another part if its text has another piece and starts as before. -/
theorem parts_concat {p q : Path} {name : String} (proper : IsName name)
    (start : startOf q.text.toList = startOf p.text.toList)
    (heard : audible q.text.toList = audible p.text.toList ++ [name.toList]) :
    q.parts = p.parts ++ [.name name.toList] := by
  rw [parts_eq, parts_eq, start, heard, List.map_append, List.append_assoc, List.map_singleton,
    partOf_of_isName proper]

/-- **A joined name is one more part of the path.** -/
theorem parts_join (folder : Path) {name : String} (proper : IsName name) :
    (folder.join name).parts = folder.parts ++ [.name name.toList] := by
  have alone := audible_of_noSlash proper.noSlash (heard_of_isName proper)
  have blank : audible [] = [] := rfl
  by_cases given : folder.text = ""
  · have joined : folder.join name = ⟨name⟩ := by
      rw [join, if_pos given, ite_self]
    have notHere : name.toList ≠ ['.'] := fun here => proper.notHere (String.toList_inj.1 here)
    rw [joined]
    apply parts_concat proper
    · rw [startOf_of_noSlash proper.noSlash notHere, given]
      rfl
    · rw [given]
      exact alone
  · have some : folder.text.toList ≠ [] := fun none => given (String.toList_eq_nil_iff.1 none)
    rw [FileTree.join_eq given proper]
    split
    · next slash =>
      obtain ⟨cs, split⟩ := List.getLast?_eq_some_iff.1 slash
      apply parts_concat proper
      · rw [String.toList_append]
        apply startOf_append some
        intro point
        rw [point] at slash
        cases slash
      · rw [String.toList_append, split, List.append_assoc, List.singleton_append,
          audible_append_slash, audible_append_slash, alone, blank, List.append_nil]
    · next noSlash =>
      have text : (folder.text ++ "/" ++ name).toList =
          folder.text.toList ++ '/' :: name.toList := by simp
      apply parts_concat proper
      · rw [text]
        exact startOf_append some fun _ => ⟨name.toList, rfl⟩
      · rw [text, audible_append_slash, alone]

/-! ## The folder of a file -/

theorem spoken_eq (body : List Char) : spoken body = (pieces body).rdropWhile isSilent := rfl

theorem intercalate_isPrefix {ps qs : List (List Char)} (pre : ps <+: qs) :
    ['/'].intercalate ps <+: ['/'].intercalate qs := by
  induction ps generalizing qs with
  | nil => exact List.nil_prefix
  | cons piece ps ih =>
    obtain ⟨rest, rfl⟩ := pre
    rw [List.cons_append]
    by_cases none : ps = []
    · subst none
      by_cases last : rest = []
      · simp [last]
      · simp [List.intercalate_cons_of_ne_nil last]
    · have more : ps ++ rest ≠ [] := by simp [none]
      rw [List.intercalate_cons_of_ne_nil none, List.intercalate_cons_of_ne_nil more,
        List.prefix_append_right_inj]
      exact ih (List.prefix_append ps rest)

theorem heard_of_last {ps : List (List Char)} {last : List Char}
    (atEnd : (ps.rdropWhile isSilent).getLast? = some last) : isSilent last = false := by
  obtain ⟨some, rfl⟩ := List.mem_getLast?_eq_getLast atEnd
  exact Bool.eq_false_iff.2 (List.rdropWhile_last_not isSilent ps some)

/-- What stands before the name of a file starts as the path of the file does. -/
theorem startOf_before {cs : List Char} {kept : List (List Char)}
    (pre : kept <+: pieces (bodyOf cs))
    (heard : ∀ last, kept.getLast? = some last → isSilent last = false) :
    startOf (startOf cs ++ ['/'].intercalate kept) = startOf cs := by
  obtain ⟨rest, body⟩ := intercalate_isPrefix pre
  rw [pieces, List.intercalate_splitOn] at body
  generalize folder : startOf cs ++ ['/'].intercalate kept = text
  have whole : text ++ rest = cs := by
    rw [← folder, List.append_assoc, body, startOf_append_bodyOf]
  by_cases none : text = []
  · rw [none] at folder ⊢
    rw [(List.append_eq_nil_iff.1 folder).1]
    rfl
  by_cases here : text = ['.']
  · rw [here] at folder ⊢
    rcases List.append_eq_singleton_iff.1 folder with ⟨blank, before⟩ | ⟨point, -⟩
    · -- a point alone is passed over, and so it is not what stands before the name
      have noSlash : ∀ piece ∈ kept, '/' ∉ piece :=
        fun piece mem => noSlash_of_mem_pieces piece (pre.subset mem)
      have some : kept ≠ [] := by
        rintro rfl
        cases before
      have single : kept = [['.']] := by
        rw [← List.splitOn_intercalate '/' noSlash some, before]
        rfl
      have silent := heard ['.'] (single ▸ rfl)
      cases silent
    · rw [point]
      rfl
  · have same : startOf (text ++ rest) = startOf text :=
      startOf_append none fun point => absurd point here
    rw [← same, whole]

/-- A file is named by the last piece that is not passed over. -/
theorem spoken_of_fileName {p : Path} {name : List Char} (named : p.fileName? = some name) :
    name ≠ ['.', '.'] ∧ ∃ before, spoken (bodyOf p.text.toList) = before ++ [name] := by
  unfold fileName? at named
  split at named
  · next piece last =>
    obtain ⟨before, spoken⟩ := List.getLast?_eq_some_iff.1 last
    split at named
    · cases named
    · next notUp =>
      cases named
      exact ⟨fun up => notUp (beq_iff_eq.2 up), before, spoken⟩
  · cases named

/-- The folder is written as the path is, up to the pieces that are passed over before the name. -/
theorem parent_of_spoken {p : Path} {before : List (List Char)} {name : List Char}
    (said : spoken (bodyOf p.text.toList) = before ++ [name]) :
    p.parent? = some ⟨String.ofList
      (startOf p.text.toList ++ ['/'].intercalate (before.rdropWhile isSilent))⟩ := by
  simp only [parent?, said, List.reverse_append, List.reverse_singleton, List.singleton_append]
  rfl

/-- **A file has the parts of its folder, and its name as the last one.** -/
theorem exists_parent {p : Path} {name : List Char} (named : p.fileName? = some name) :
    IsName (String.ofList name) ∧
      ∃ folder, p.parent? = some folder ∧ p.parts = folder.parts ++ [.name name] := by
  obtain ⟨notUp, before, said⟩ := spoken_of_fileName named
  have pre : before ++ [name] <+: pieces (bodyOf p.text.toList) := by
    rw [← said]
    exact List.rdropWhile_prefix isSilent _
  have noSlash : ∀ piece ∈ before ++ [name], '/' ∉ piece :=
    fun piece mem => noSlash_of_mem_pieces piece (pre.subset mem)
  have heard : isSilent name = false := by
    have last : ((pieces (bodyOf p.text.toList)).rdropWhile isSilent).getLast? = some name := by
      rw [← spoken_eq, said, List.getLast?_concat]
    exact heard_of_last last
  have proper := isName_of_heard heard notUp (noSlash name (by simp))
  generalize keeps : before.rdropWhile isSilent = kept
  have keptPre : kept <+: before := keeps ▸ List.rdropWhile_prefix isSilent before
  have folder := parent_of_spoken said
  rw [keeps] at folder
  have start := startOf_before (keptPre.trans ((List.prefix_append before [name]).trans pre))
    fun last atEnd => heard_of_last (keeps ▸ atEnd)
  have told : audible (startOf p.text.toList ++ ['/'].intercalate kept) =
      kept.filter fun piece => !isSilent piece := by
    rw [← audible_bodyOf, bodyOf, start, List.drop_left]
    exact audible_intercalate fun piece mem =>
      noSlash piece (List.mem_append_left _ (keptPre.subset mem))
  have all : audible p.text.toList = (before ++ [name]).filter fun piece => !isSilent piece := by
    rw [← audible_bodyOf, audible, ← filter_rdropWhile_isSilent, ← spoken_eq, said]
  refine ⟨proper, _, folder, ?_⟩
  have named := parts_concat (p := ⟨String.ofList
    (startOf p.text.toList ++ ['/'].intercalate kept)⟩) (q := p) proper
  simp only [String.toList_ofList] at named
  apply named
  · exact start.symm
  · rw [all, told, ← keeps, filter_rdropWhile_isSilent, List.filter_append, List.filter_singleton,
      heard]
    rfl

/-! ## The stem and the extension -/

theorem splitAtPoint_eq (name : List Char) :
    splitAtPoint name =
      if (name.rtakeWhile (· != '.')).length = name.length then none
      else some (name.take (name.length - (name.rtakeWhile (· != '.')).length - 1),
        name.rtakeWhile (· != '.')) := by
  unfold splitAtPoint List.rtakeWhile
  simp only [List.length_reverse]

/-- A name is split at its last point. -/
theorem splitAtPoint_eq_some {name stem ext : List Char}
    (split : splitAtPoint name = some (stem, ext)) : name = stem ++ '.' :: ext ∧ '.' ∉ ext := by
  have whole : name.rdropWhile (· != '.') ++ name.rtakeWhile (· != '.') = name :=
    List.rdropWhile_append_rtakeWhile
  have noPoint : '.' ∉ name.rtakeWhile (· != '.') := by
    intro mem
    have other := List.mem_rtakeWhile_imp mem
    cases other
  rw [splitAtPoint_eq] at split
  have point : ∀ c, (name.rdropWhile (· != '.')).getLast? = some c → c = '.' := by
    intro c atEnd
    obtain ⟨some, rfl⟩ := List.mem_getLast?_eq_getLast atEnd
    simpa using List.rdropWhile_last_not (· != '.') name some
  generalize name.rtakeWhile (· != '.') = after at whole noPoint split
  generalize name.rdropWhile (· != '.') = before at whole point
  subst whole
  rcases List.eq_nil_or_concat' before with rfl | ⟨before, c, rfl⟩
  · rw [List.nil_append, if_pos rfl] at split
    cases split
  · have dot := point c List.getLast?_concat
    subst dot
    have lengths : (before ++ ['.'] ++ after).length - after.length - 1 = before.length := by
      simp only [List.length_append, List.length_singleton]
      omega
    have apart : after.length ≠ (before ++ ['.'] ++ after).length := by
      simp only [List.length_append, List.length_singleton]
      omega
    rw [if_neg apart, lengths, List.append_assoc, List.take_left] at split
    cases split
    exact ⟨List.append_assoc _ _ _, noPoint⟩

/-- **A name is its stem and, behind a point, its extension.** -/
theorem splitName_eq (name : List Char) :
    (splitName name).2 = none ∧ (splitName name).1 = name ∨
      ∃ ext, (splitName name).2 = some ext ∧ (splitName name).1 ++ '.' :: ext = name ∧
        '.' ∉ ext := by
  unfold splitName
  split
  · next stem ext split =>
    obtain ⟨whole, noPoint⟩ := splitAtPoint_eq_some split
    split
    · exact .inl ⟨rfl, rfl⟩
    · exact .inr ⟨ext, rfl, whole.symm, noPoint⟩
  · exact .inl ⟨rfl, rfl⟩

/-- The name of a file is its stem and its extension, and the extension is empty or has a single
point, at its start. -/
theorem fileName_splits (p : Path) :
    p.fileName = p.stem ++ p.dottedExtension ∧
      (p.dottedExtension = "" ∨
        ∃ ext : String, p.dottedExtension = "." ++ ext ∧ '.' ∉ ext.toList) := by
  unfold fileName stem dottedExtension extension?
  cases p.fileName? with
  | none => exact ⟨rfl, .inl rfl⟩
  | some name =>
    rcases splitName_eq name with ⟨plain, stem⟩ | ⟨ext, dotted, whole, noPoint⟩
    · simp [plain, stem]
    · have noPoint' : '.' ∉ (String.ofList ext).toList := by rwa [String.toList_ofList]
      refine ⟨?_, .inr ⟨String.ofList ext, ?_, noPoint'⟩⟩
      · apply String.toList_inj.1
        simp [dotted, whole]
      · simp [dotted]

/-- Joining the name of a file to its folder gives its parts again. -/
theorem parts_join_folder {p : Path} (named : p.fileName ≠ "") :
    ((Path.mk (Scope.folderText p)).join p.fileName).parts = p.parts := by
  unfold fileName at named ⊢
  cases given : p.fileName? with
  | none =>
    rw [given] at named
    exact absurd rfl named
  | some name =>
    obtain ⟨proper, folder, parent, parts⟩ := exists_parent given
    have text : Scope.folderText p = folder.text := by
      rw [Scope.folderText, parent]
      rfl
    have joined := parts_join folder proper
    rw [String.toList_ofList] at joined
    rw [text, parts]
    exact joined

example : (Path.mk "./a//b.c/..d.e./.").parent? = some ⟨"./a//b.c"⟩ ∧
    (Path.mk "./a//b.c/..d.e./.").fileName = "..d.e." ∧
    (Path.mk "./a//b.c/..d.e./.").stem = "..d.e" := by decide +kernel

end Path

/-! ## The variables that tell of a name -/

/-- The variables under a prefix hold a name, and its stem and its extension: what is put together
to the name, and nothing or a point before a text without points. -/
def Variables.TellName (vars : Variables) (before : String) : Prop :=
  ∃ name stem extension : String,
    vars.get? (before ++ ".Name") = some (.str name) ∧
    vars.get? (before ++ ".NameNoExtension") = some (.str stem) ∧
    vars.get? (before ++ ".Extension") = some (.str extension) ∧
    name = stem ++ extension ∧
    (extension = "" ∨ ∃ ext : String, extension = "." ++ ext ∧ '.' ∉ ext.toList)

/-- The variables hold a folder and a name, and the name lies in the folder where the file does,
unless it is empty. -/
def Variables.TellPlace (vars : Variables) (file : Path) : Prop :=
  ∃ folder name : String,
    vars.get? "folder.FullName" = some (.str folder) ∧
    vars.get? "file.Name" = some (.str name) ∧
    (name ≠ "" → ((Path.mk folder).join name).parts = file.parts)

namespace Scope

section
variable {vars : Variables} {file : Path}

/-- The names of a file fit together, whatever they are published under. -/
theorem tellName_of_file (file : Path) {before : String}
    (name : vars.get? (before ++ ".Name") = some (.str file.fileName))
    (stem : vars.get? (before ++ ".NameNoExtension") = some (.str file.stem))
    (extension : vars.get? (before ++ ".Extension") = some (.str file.dottedExtension)) :
    vars.TellName before := by
  obtain ⟨whole, single⟩ := file.fileName_splits
  exact ⟨_, _, _, name, stem, extension, whole, single⟩

theorem tellName_of_original
    (told : ∀ fact ∈ originalFileFacts file, vars.get? fact.1 = some fact.2) :
    vars.TellName "file.Orig" := by
  apply tellName_of_file file
  · exact told ("file.Orig.Name", _) (by simp [originalFileFacts])
  · exact told ("file.Orig.NameNoExtension", _) (by simp [originalFileFacts])
  · exact told ("file.Orig.Extension", _) (by simp [originalFileFacts])

theorem tellName_of_working
    (told : ∀ fact ∈ workingFileFacts file, vars.get? fact.1 = some fact.2) :
    vars.TellName "file" := by
  apply tellName_of_file file
  · exact told ("file.Name", _) (by simp [workingFileFacts])
  · exact told ("file.NameNoExtension", _) (by simp [workingFileFacts])
  · exact told ("file.Extension", _) (by simp [workingFileFacts])

theorem tellPlace_of_working
    (told : ∀ fact ∈ workingFileFacts file, vars.get? fact.1 = some fact.2) :
    vars.TellPlace file := by
  have folder := told ("folder.FullName", .str (folderText file)) (by simp [workingFileFacts])
  have name := told ("file.Name", .str file.fileName) (by simp [workingFileFacts])
  exact ⟨_, _, folder, name, Path.parts_join_folder⟩

end

/-- **The names that are published of a file fit together.** When a scope is made for a file, over
whatever variables, and whenever it goes on with another one, the name is the stem and the
extension, the extension is empty or a point and a text without points, and the name joined to the
folder has the parts of the file; and so are the name, the stem and the extension of the original
file. -/
theorem published_names_fit_together (file : Path) :
    (∀ seeds : Variables, (forFile file seeds).vars.TellName "file" ∧
      (forFile file seeds).vars.TellName "file.Orig" ∧
      (forFile file seeds).vars.TellPlace file) ∧
    ∀ s : Scope, (s.setWorkingFile file).vars.TellName "file" ∧
      (s.setWorkingFile file).vars.TellPlace file := by
  constructor
  · intro seeds
    have told := isPublished_forFile file seeds
    have original := fun fact mem => told fact (List.mem_append_left _ mem)
    have working := fun fact mem => told fact (List.mem_append_right _ mem)
    exact ⟨tellName_of_working working, tellName_of_original original, tellPlace_of_working working⟩
  · intro s
    have working : ∀ fact ∈ workingFileFacts file,
        (s.setWorkingFile file).vars.get? fact.1 = some fact.2 :=
      fun fact mem => get?_published s.vars mem
    exact ⟨tellName_of_working working, tellPlace_of_working working⟩

end Scope

end FlowGraph
