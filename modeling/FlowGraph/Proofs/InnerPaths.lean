import FlowGraph.Proofs.FileWriting
import Mathlib.Data.List.Nodup

/-!
# Paths inside a folder

A name that is joined to the path of a folder adds one piece to the pieces of that path
(`FileTree.steps_join`). So the lookup of the joined path goes the way to the folder, and from there
to what the folder holds under the name (`FileTree.find_join`), and different ways down from a
folder have different paths (`FileTree.foldl_join_inj`).
-/

namespace FlowGraph

/-- A text by which a folder can hold an entry. -/
structure IsName (name : String) : Prop where
  notEmpty : name ≠ ""
  notHere : name ≠ "."
  notUp : name ≠ ".."
  noSlash : '/' ∉ name.toList

instance (name : String) : Decidable (IsName name) :=
  decidable_of_iff (name ≠ "" ∧ name ≠ "." ∧ name ≠ ".." ∧ '/' ∉ name.toList)
    ⟨fun ⟨notEmpty, notHere, notUp, noSlash⟩ => ⟨notEmpty, notHere, notUp, noSlash⟩,
      fun proper => ⟨proper.notEmpty, proper.notHere, proper.notUp, proper.noSlash⟩⟩

/-- The entries of a folder go by names, and no two by the same. -/
structure Distinct (entries : List (String × Entry)) : Prop where
  names : ∀ name ∈ entries.map Prod.fst, IsName name
  once : (entries.map Prod.fst).Nodup

instance (entries : List (String × Entry)) : Decidable (Distinct entries) :=
  decidable_of_iff ((∀ name ∈ entries.map Prod.fst, IsName name) ∧ (entries.map Prod.fst).Nodup)
    ⟨fun ⟨names, once⟩ => ⟨names, once⟩, fun distinct => ⟨distinct.names, distinct.once⟩⟩

/-- What a folder with distinct names holds under a name is found there. -/
theorem Distinct.lookup {entries : List (String × Entry)} (distinct : Distinct entries)
    {name : String} {e : Entry} : entries.lookup name = some e ↔ (name, e) ∈ entries := by
  rw [List.lookup_eq_some_iff]
  constructor
  · rintro ⟨before, after, rfl, -⟩
    simp
  · intro mem
    obtain ⟨before, after, rfl⟩ := List.append_of_mem mem
    refine ⟨before, after, rfl, ?_⟩
    intro other earlier
    have apart := distinct.once
    rw [List.map_append, List.nodup_append] at apart
    have unequal := apart.2.2 other.1 (List.mem_map_of_mem earlier) name (by simp)
    exact bne_iff_ne.2 unequal.symm

/-- An entry is a file, a link, or a folder in which every folder has distinct names. -/
def Entry.IsSound (e : Entry) : Prop :=
  ∀ names entries, e.at? names = some (.folder entries) → Distinct entries

theorem Entry.IsSound.distinct {entries : List (String × Entry)}
    (sound : (Entry.folder entries).IsSound) : Distinct entries :=
  sound [] entries rfl

/-- What lies in a sound entry is sound. -/
theorem Entry.IsSound.inside {e inner : Entry} {names : List String} (sound : e.IsSound)
    (there : e.at? names = some inner) : inner.IsSound := by
  intro more entries further
  apply sound (names ++ more) entries
  rw [Entry.at?_append, there]
  exact further

theorem Entry.IsSound.child {entries : List (String × Entry)} {name : String} {child : Entry}
    (sound : (Entry.folder entries).IsSound) (mem : (name, child) ∈ entries) : child.IsSound := by
  have there : (Entry.folder entries).at? [name] = some child := by
    rw [Entry.at?_single]
    exact sound.distinct.lookup.2 mem
  exact sound.inside there

/-- A file is sound, and so is a link, wherever it leads. -/
theorem Entry.isSound_of_not_folder {e : Entry} (noFolder : e.isFolder = false) : e.IsSound := by
  intro names entries there
  cases e with
  | folder => cases noFolder
  | file | link =>
    cases names with
    | nil => cases there
    | cons => cases there

/-- A folder is sound if it has distinct names and everything in it is sound. -/
theorem Entry.isSound_folder {entries : List (String × Entry)} (distinct : Distinct entries)
    (each : ∀ e ∈ entries, e.2.IsSound) : (Entry.folder entries).IsSound := by
  rintro (_ | ⟨name, names⟩) inner there
  · cases there
    exact distinct
  · obtain ⟨children, found, below⟩ := Entry.exists_folder there
    exact each _ (distinct.lookup.1 found) names inner below

namespace FileTree

/-- A tree in which every folder has distinct names. -/
def IsSound (t : FileTree) : Prop := t.start.entry.IsSound

/-! ## The pieces of a joined path -/

/-- The pieces of a path before a name that is joined to it. -/
def spine (p : Path) : List String :=
  if p.text.toList.getLast? = some '/' then (steps p.text).dropLast else steps p.text

theorem steps_append_slash {s t u : String} (split : s.toList = t.toList ++ '/' :: u.toList) :
    steps s = steps t ++ steps u := by
  unfold steps List.splitOn
  rw [split, List.splitOnP_append_cons t.toList u.toList, List.map_append]
  exact beq_self_eq_true '/'

theorem steps_name {name : String} (proper : IsName name) : steps name = [name] := by
  rw [steps, List.splitOn_eq_singleton proper.noSlash, List.map_singleton, String.ofList_toList]

section
variable {folder : Path} {name : String}

/-- A joined path ends in the name. -/
theorem toList_join (folder : Path) (name : String) :
    ∃ before, (folder.join name).text.toList = before ++ name.toList := by
  unfold Path.join
  split
  · exact ⟨[], rfl⟩
  · split
    · exact ⟨[], rfl⟩
    · split
      · exact ⟨folder.text.toList, String.toList_append⟩
      · exact ⟨(folder.text ++ "/").toList, String.toList_append⟩

/-- The name stands behind a slash. -/
theorem join_eq (given : folder.text ≠ "") (proper : IsName name) :
    folder.join name =
      if folder.text.toList.getLast? = some '/' then ⟨folder.text ++ name⟩
      else ⟨folder.text ++ "/" ++ name⟩ := by
  have relative : (Path.mk name).isAbsolute = false := by
    rw [Path.isAbsolute, beq_eq_false_iff_ne]
    intro slash
    exact proper.noSlash (List.mem_of_head? slash)
  rw [Path.join, relative, if_neg Bool.false_ne_true, if_neg given]
  simp only [beq_iff_eq]

theorem join_ne_empty (proper : IsName name) : (folder.join name).text ≠ "" := by
  obtain ⟨before, text⟩ := toList_join folder name
  intro empty
  rw [empty] at text
  have none := (List.append_eq_nil_iff.1 text.symm).2
  exact proper.notEmpty (String.toList_eq_nil_iff.1 none)

theorem isAbsolute_join (given : folder.text ≠ "") (proper : IsName name) :
    (folder.join name).isAbsolute = folder.isAbsolute := by
  have some : folder.text.toList ≠ [] := fun none => given (String.toList_eq_nil_iff.1 none)
  unfold Path.isAbsolute
  rw [join_eq given proper]
  split
  · rw [String.toList_append, List.head?_append_of_ne_nil _ some]
  · rw [String.append_assoc, String.toList_append, List.head?_append_of_ne_nil _ some]

/-- A slash at the end of a path makes an empty piece. -/
theorem spine_of_slash {p : Path} {cs : List Char} (split : p.text.toList = cs ++ ['/']) :
    steps p.text = steps (String.ofList cs) ++ [""] ∧ spine p = steps (String.ofList cs) := by
  have whole : steps p.text = steps (String.ofList cs) ++ steps "" := by
    apply steps_append_slash
    simp [split]
  have slash : p.text.toList.getLast? = some '/' := by
    rw [split, List.getLast?_concat]
  have blank : steps "" = [""] := rfl
  rw [spine, if_pos slash, whole, blank, List.dropLast_concat]
  exact ⟨rfl, rfl⟩

/-- A path has the pieces before a joined name, and an empty one where it ends in a slash. -/
theorem steps_eq (p : Path) : steps p.text = spine p ∨ steps p.text = spine p ++ [""] := by
  by_cases slash : p.text.toList.getLast? = some '/'
  · obtain ⟨cs, split⟩ := List.getLast?_eq_some_iff.1 slash
    obtain ⟨whole, cut⟩ := spine_of_slash split
    exact .inr (cut ▸ whole)
  · exact .inl (if_neg slash).symm

/-- A name adds one piece to a path. -/
theorem steps_join (given : folder.text ≠ "") (proper : IsName name) :
    steps (folder.join name).text = spine folder ++ [name] := by
  rw [join_eq given proper]
  split
  · next slash =>
    obtain ⟨cs, split⟩ := List.getLast?_eq_some_iff.1 slash
    have joined : steps (folder.text ++ name) = steps (String.ofList cs) ++ steps name := by
      apply steps_append_slash
      simp [split]
    rw [joined, (spine_of_slash split).2, steps_name proper]
  · next noSlash =>
    have joined : steps (folder.text ++ "/" ++ name) = steps folder.text ++ steps name := by
      apply steps_append_slash
      simp
    rw [joined, spine, if_neg noSlash, steps_name proper]

/-- Another name that is joined to a joined path is one more piece. -/
theorem spine_join (given : folder.text ≠ "") (proper : IsName name) :
    spine (folder.join name) = spine folder ++ [name] := by
  have noSlash : (folder.join name).text.toList.getLast? ≠ some '/' := by
    intro slash
    obtain ⟨before, text⟩ := toList_join folder name
    have some : name.toList ≠ [] := fun none => proper.notEmpty (String.toList_eq_nil_iff.1 none)
    rw [text, List.getLast?_append_of_ne_nil before some] at slash
    exact proper.noSlash (List.mem_of_getLast? slash)
  rw [spine, if_neg noSlash, steps_join given proper]

/-- Some names, one joined after the other. -/
theorem spine_foldl {names : List String} (given : folder.text ≠ "")
    (proper : ∀ name ∈ names, IsName name) :
    (names.foldl Path.join folder).text ≠ "" ∧
      spine (names.foldl Path.join folder) = spine folder ++ names := by
  induction names generalizing folder with
  | nil => exact ⟨given, (List.append_nil _).symm⟩
  | cons name names ih =>
    obtain ⟨first, others⟩ := List.forall_mem_cons.1 proper
    obtain ⟨given', pieces⟩ := ih (join_ne_empty first) others
    refine ⟨given', pieces.trans ?_⟩
    rw [spine_join given first, List.append_assoc, List.singleton_append]

end

/-! ## Looking up a joined path -/

section
variable {root : Entry}

/-- A lookup fails on its way through some pieces, whatever comes after them, or it gets to a place
from which it goes on with what comes after them. -/
def Passes (root : Entry) (links : Nat) (c : Cursor) (todo : List String) : Prop :=
  (∃ e, ∀ more, follow root links c (todo ++ more) = .error e) ∨
    ∃ left d, ∀ more, follow root links c (todo ++ more) = follow root left d more

theorem Passes.of_step {links left : Nat} {c d : Cursor} {todo further : List String}
    (step : ∀ more,
      follow root links c (todo ++ more) = follow root left d (further ++ more))
    (passes : Passes root left d further) : Passes root links c todo := by
  rcases passes with ⟨e, fails⟩ | ⟨left, d, goes⟩
  · exact .inl ⟨e, fun more => (step more).trans (fails more)⟩
  · exact .inr ⟨left, d, fun more => (step more).trans (goes more)⟩

theorem passes (root : Entry) (links : Nat) (c : Cursor) (todo : List String) :
    Passes root links c todo := by
  fun_induction follow root links c todo with
  | case1 links c => exact .inr ⟨links, c, fun _ => rfl⟩
  | case2 links c step rest entries inFolder blank ih =>
    exact ih.of_step fun _ => follow_blank inFolder blank
  | case3 links c rest entries inFolder _ ih => exact ih.of_step fun _ => follow_up inFolder
  | case4 links c step rest entries inFolder blank up none =>
    refine .inl ⟨.notFound, fun more => ?_⟩
    simp only [List.cons_append, follow, inFolder, if_neg blank, if_neg up, none]
  | case5 c step rest entries inFolder blank up target found =>
    refine .inl ⟨.tooManyLinks, fun more => ?_⟩
    simp only [List.cons_append, follow, inFolder, if_neg blank, if_neg up, found]
  | case6 c step rest entries inFolder blank up links found =>
    refine .inl ⟨.notFound, fun more => ?_⟩
    simp only [List.cons_append, follow, inFolder, if_neg blank, if_neg up, found, if_true]
  | case7 c step rest entries inFolder blank up target found links given ih =>
    refine ih.of_step fun more => ?_
    rw [List.append_assoc]
    exact follow_link inFolder blank up found given
  | case8 links c step rest entries inFolder blank up child plain found ih =>
    rw [inFolder] at ih
    exact ih.of_step fun _ => follow_child inFolder blank up found plain
  | case9 links c step rest noFolder =>
    refine .inl ⟨.notFolder, fun more => ?_⟩
    rw [List.cons_append, follow]
    split
    · next entries inFolder => exact absurd inFolder (noFolder entries)
    · rfl

/-- An empty piece at the end asks for a folder and leads no further. -/
theorem follow_blank_end {links : Nat} {c d : Cursor}
    (gets : follow root links c [""] = .ok d) : c = d := by
  obtain ⟨entry, above⟩ := c
  cases entry with
  | folder entries =>
    rw [follow_blank rfl (.inl rfl), follow] at gets
    exact Except.ok.inj gets
  | file | link =>
    rw [follow] at gets
    cases gets

/-- A lookup in a tree gets to what lies under some names. -/
theorem leads_of_follow {links : Nat} {c d : Cursor} {todo : List String}
    (leads : Leads root c.above c.entry) (gets : follow root links c todo = .ok d) :
    Leads root d.above d.entry := by
  fun_induction follow root links c todo with
  | case1 =>
    cases gets
    exact leads
  | case2 links c step rest entries inFolder blank ih => exact ih leads gets
  | case3 links c rest entries inFolder _ ih => exact ih leads.outer gets
  | case4 | case5 | case6 | case9 => cases gets
  | case7 c step rest entries inFolder blank up target found links given ih =>
    exact ih (leads.base target) gets
  | case8 links c step rest entries inFolder blank up child plain found ih =>
    apply ih _ gets
    rw [inFolder] at leads ⊢
    exact .inside leads found

/-- Names lead straight to the folder that lies under them. -/
theorem follow_names (root : Entry) (links : Nat) {c : Cursor} {names : List String}
    {inner : List (String × Entry)} (there : c.entry.at? names = some (.folder inner))
    (proper : ∀ name ∈ names, IsName name) (more : List String) :
    ∃ d, d.entry = .folder inner ∧
      follow root links c (names ++ more) = follow root links d more := by
  induction names generalizing c with
  | nil => exact ⟨c, Option.some.inj there, rfl⟩
  | cons name names ih =>
    obtain ⟨first, others⟩ := List.forall_mem_cons.1 proper
    obtain ⟨entry, above⟩ := c
    cases entry with
    | file | link => cases there
    | folder entries =>
      obtain ⟨children, found, below⟩ := Entry.exists_folder there
      obtain ⟨d, inFolder, goes⟩ := ih (c := ⟨.folder children, (name, .folder entries) :: above⟩)
        below others
      refine ⟨d, inFolder, ?_⟩
      rw [List.cons_append, follow_child rfl (not_or.2 ⟨first.notEmpty, first.notHere⟩)
        first.notUp found (fun _ => nofun)]
      exact goes

end

section
variable {t : FileTree} {folder : Path} {entries : List (String × Entry)}

/-- A path that leads somewhere is not empty. -/
theorem goTo_of_find {e : Entry} (found : t.find folder = .ok e) :
    folder.text ≠ "" ∧ ∃ above, t.goTo folder (steps folder.text) = .ok ⟨e, above⟩ := by
  unfold FileTree.find at found
  split at found
  · cases found
  · next given =>
    refine ⟨given, ?_⟩
    cases gets : t.goTo folder (steps folder.text) with
    | error failure =>
      rw [gets] at found
      cases found
    | ok c =>
      rw [gets] at found
      cases found
      exact ⟨c.above, rfl⟩

/-- A relative path goes from the current folder straight to the folder that lies under its
names. -/
theorem goTo_relative {p : Path} {names : List String} (relative : p.isAbsolute = false)
    (there : t.start.entry.at? (t.here ++ names) = some (.folder entries))
    (proper : ∀ name ∈ t.here ++ names, IsName name) (more : List String) :
    ∃ d, d.entry = .folder entries ∧
      t.goTo p (names ++ more) = follow t.start.entry maxLinks d more := by
  obtain ⟨d, inFolder, goes⟩ := follow_names t.start.entry maxLinks there proper more
  have base : t.base p = t.here := if_neg (Bool.eq_false_iff.1 relative)
  exact ⟨d, inFolder, by rw [goTo, base, ← List.append_assoc, goes]⟩

/-- A relative path of names leads to the folder that lies under them. -/
theorem find_relative {p : Path} (given : p.text ≠ "") (relative : p.isAbsolute = false)
    (there : t.start.entry.at? (t.here ++ steps p.text) = some (.folder entries))
    (proper : ∀ name ∈ t.here ++ steps p.text, IsName name) : t.find p = .ok (.folder entries) := by
  obtain ⟨d, inFolder, goes⟩ := goTo_relative relative there proper []
  rw [List.append_nil, follow] at goes
  rw [FileTree.find, if_neg given, goes]
  exact congrArg Except.ok inFolder

theorem at?_nested (entries : List (String × Entry)) (names : List String) :
    (Entry.folder (nested entries names)).at? names = some (.folder entries) := by
  induction names with
  | nil => rfl
  | cons name names ih =>
    have found : (nested entries (name :: names)).lookup name =
        some (.folder (nested entries names)) := by
      rw [nested, Dict.lookup_cons, if_pos rfl]
    rw [Entry.at?, found]
    exact ih

/-- The path `.` is the current folder. -/
theorem find_here {names : List String} (proper : ∀ name ∈ names, IsName name) :
    (ofCurrent names entries).find ⟨"."⟩ = .ok (.folder entries) := by
  rw [← List.append_nil names] at proper
  have there :
      (ofCurrent names entries).start.entry.at? (names ++ []) = some (.folder entries) := by
    rw [List.append_nil]
    exact at?_nested entries names
  have piece : steps "." = [] ++ ["."] := by rfl
  obtain ⟨d, inFolder, goes⟩ := goTo_relative (t := ofCurrent names entries) (p := ⟨"."⟩)
    (by decide) there proper ["."]
  rw [FileTree.find, if_neg (by decide), piece, goes, follow_blank inFolder (.inr rfl), follow]
  exact congrArg Except.ok inFolder

/-- A lookup that gets to a folder goes on from there with a joined name. -/
theorem goTo_spine {above : List (String × Entry)}
    (gets : t.goTo folder (steps folder.text) = .ok ⟨.folder entries, above⟩) :
    ∃ left, ∀ more, t.goTo folder (spine folder ++ more) =
      follow t.start.entry left ⟨.folder entries, above⟩ more := by
  have fails {e : OsError} (all : ∀ more, t.goTo folder (spine folder ++ more) = .error e) :
      False := by
    rcases steps_eq folder with same | same
    · have := all []
      rw [List.append_nil, ← same, gets] at this
      cases this
    · have := all [""]
      rw [← same, gets] at this
      cases this
  have way (more : List String) : t.goTo folder (spine folder ++ more) =
      follow t.start.entry maxLinks t.start ((t.base folder ++ spine folder) ++ more) := by
    rw [List.append_assoc]
    rfl
  rcases passes t.start.entry maxLinks t.start (t.base folder ++ spine folder) with
    ⟨e, all⟩ | ⟨left, d, goes⟩
  · exact (fails fun more => (way more).trans (all more)).elim
  · have there : d = ⟨.folder entries, above⟩ := by
      rcases steps_eq folder with same | same
      · have last := (way []).trans (goes [])
        rw [List.append_nil, ← same, gets, follow] at last
        exact (Except.ok.inj last).symm
      · have last := (way [""]).trans (goes [""])
        rw [← same, gets] at last
        exact follow_blank_end last.symm
    exact ⟨left, there ▸ fun more => (way more).trans (goes more)⟩

/-- Whatever a path leads to in a sound tree is sound. -/
theorem IsSound.find (sound : t.IsSound) {e : Entry} (found : t.find folder = .ok e) :
    e.IsSound := by
  obtain ⟨-, above, gets⟩ := goTo_of_find found
  exact Entry.IsSound.inside sound (leads_of_follow .root gets).at?

/-- **What a folder holds under a name is found by the joined path**, except that links are
followed. -/
theorem find_join {name : String} {child : Entry}
    (found : t.find folder = .ok (.folder entries)) (proper : IsName name)
    (there : entries.lookup name = some child) (plain : ∀ target, child ≠ .link target) :
    t.find (folder.join name) = .ok child := by
  obtain ⟨given, above, gets⟩ := goTo_of_find found
  obtain ⟨left, goes⟩ := goTo_spine gets
  have base : t.base (folder.join name) = t.base folder := by
    rw [FileTree.base, isAbsolute_join given proper, FileTree.base]
  have way : t.goTo (folder.join name) (steps (folder.join name).text) =
      t.goTo folder (spine folder ++ [name]) := by
    rw [goTo, base, steps_join given proper, goTo]
  rw [find, if_neg (join_ne_empty proper), way, goes,
    follow_child rfl (not_or.2 ⟨proper.notEmpty, proper.notHere⟩) proper.notUp there plain, follow]
  rfl

end

end FileTree

end FlowGraph
