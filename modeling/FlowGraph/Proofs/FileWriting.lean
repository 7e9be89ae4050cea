import FlowGraph.Files.Tree
import FlowGraph.Proofs.Lookup

/-!
# Reading what was written

Writing puts a file into a folder, under a name that the path and its links lead to. Whatever else
lies in the tree stays where it is and of the kind that it is, so a lookup by the same path goes
the same way through the changed tree (`FileTree.follow_of_place`), and ends at the file that was
written.
-/

namespace FlowGraph

namespace Entry

/-- What lies under a chain of names; no link is followed. -/
def at? : List String → Entry → Option Entry
  | [], e => some e
  | name :: rest, .folder entries => (entries.lookup name).bind (at? rest)
  | _ :: _, _ => none

/-- Lookups go on from both entries alike. -/
inductive SameKind : Entry → Entry → Prop where
  | file (before after : ByteArray) : SameKind (.file before) (.file after)
  | folder (before after : List (String × Entry)) : SameKind (.folder before) (.folder after)
  | link (target : String) : SameKind (.link target) (.link target)

/-- Whatever lies under some names in the first entry has its like under them in the second. -/
def Grows (before after : Entry) : Prop :=
  ∀ names e, before.at? names = some e → ∃ e', after.at? names = some e' ∧ e.SameKind e'

theorem SameKind.refl (e : Entry) : e.SameKind e := by
  cases e with
  | file bytes => exact .file bytes bytes
  | folder entries => exact .folder entries entries
  | link target => exact .link target

theorem Grows.refl (e : Entry) : e.Grows e := fun _ a there => ⟨a, there, .refl a⟩

theorem at?_append (names more : List String) (e : Entry) :
    e.at? (names ++ more) = (e.at? names).bind (at? more) := by
  induction names generalizing e with
  | nil => rfl
  | cons name rest ih =>
    cases e with
    | file bytes => rfl
    | link target => rfl
    | folder entries =>
      rw [List.cons_append, at?, at?]
      cases entries.lookup name with
      | none => rfl
      | some child => exact ih child

theorem at?_single (name : String) (entries : List (String × Entry)) :
    (folder entries).at? [name] = entries.lookup name := by
  rw [at?]
  cases entries.lookup name with
  | none => rfl
  | some child => rfl

/-- On the way to a folder there are only folders. -/
theorem exists_folder {name : String} {rest : List String} {entries inner : List (String × Entry)}
    (leads : (folder entries).at? (name :: rest) = some (.folder inner)) :
    ∃ children, entries.lookup name = some (.folder children) ∧
      (folder children).at? rest = some (.folder inner) := by
  rw [at?] at leads
  obtain ⟨child, found, below⟩ := Option.bind_eq_some_iff.1 leads
  cases child with
  | folder children => exact ⟨children, found, below⟩
  | file bytes | link target =>
    cases rest with
    | nil => cases below
    | cons => cases below

/-- Only a name leads further, and only in a folder. -/
theorem Grows.file (before after : ByteArray) : (file before).Grows (file after) := by
  intro names e there
  cases names with
  | nil =>
    cases there
    exact ⟨.file after, rfl, .file before after⟩
  | cons name rest => exact absurd there nofun

/-- A folder grows if everything in it does. -/
theorem Grows.folder {before after : List (String × Entry)}
    (each : ∀ name e, before.lookup name = some e →
      ∃ e', after.lookup name = some e' ∧ e.Grows e') : (folder before).Grows (folder after) := by
  intro names e there
  cases names with
  | nil =>
    cases there
    exact ⟨.folder after, rfl, .folder before after⟩
  | cons name rest =>
    rw [at?] at there
    obtain ⟨child, found, below⟩ := Option.bind_eq_some_iff.1 there
    obtain ⟨child', found', grows⟩ := each name child found
    obtain ⟨e', below', kind⟩ := grows rest e below
    refine ⟨e', ?_, kind⟩
    rw [at?, found']
    exact below'

end Entry

namespace FileTree

/-! ## Changing a folder -/

/-- Only the name that was put leads elsewhere. -/
theorem lookup_put (name : String) (e : Entry) (entries : List (String × Entry))
    (other : String) :
    (put name e entries).lookup other = if other = name then some e else entries.lookup other := by
  induction entries with
  | nil => rw [put, Dict.lookup_cons]
  | cons entry rest ih =>
    obtain ⟨n, old⟩ := entry
    rw [put, Dict.lookup_cons]
    by_cases here : n = name
    · rw [if_pos here, Dict.lookup_cons, here]
      by_cases same : other = name
      · rw [if_pos same, if_pos same]
      · rw [if_neg same, if_neg same, if_neg same]
    · rw [if_neg here, Dict.lookup_cons, ih]
      by_cases same : other = n
      · rw [if_pos same, if_pos same, if_neg (same ▸ here)]
      · rw [if_neg same, if_neg same]

/-- A folder grows when something is put in it that grew out of what was there, if there was
anything. -/
theorem grows_put {name : String} {e : Entry} {entries : List (String × Entry)}
    (covers : ∀ old, entries.lookup name = some old → old.Grows e) :
    (Entry.folder entries).Grows (.folder (put name e entries)) := by
  apply Entry.Grows.folder
  intro other old found
  rw [lookup_put]
  by_cases same : other = name
  · rw [if_pos same]
    exact ⟨e, rfl, covers old (same ▸ found)⟩
  · rw [if_neg same]
    exact ⟨old, found, .refl old⟩

/-- A change far inside a tree, seen from the folder that it changes. -/
theorem at?_changeAt {f : List (String × Entry) → List (String × Entry)} {names : List String}
    {entries inner : List (String × Entry)}
    (leads : (Entry.folder entries).at? names = some (.folder inner)) (more : List String) :
    (Entry.folder (changeAt f names entries)).at? (names ++ more) =
      (Entry.folder (f inner)).at? more := by
  induction names generalizing entries with
  | nil =>
    cases leads
    rfl
  | cons name rest ih =>
    obtain ⟨children, found, below⟩ := Entry.exists_folder leads
    rw [changeAt, found, List.cons_append, Entry.at?]
    show ((put name (.folder (changeAt f rest children)) entries).lookup name).bind _ = _
    rw [lookup_put, if_pos rfl]
    exact ih below

/-- A tree grows when a folder in it does. -/
theorem grows_changeAt {f : List (String × Entry) → List (String × Entry)} {names : List String}
    {entries inner : List (String × Entry)}
    (leads : (Entry.folder entries).at? names = some (.folder inner))
    (grows : (Entry.folder inner).Grows (.folder (f inner))) :
    (Entry.folder entries).Grows (.folder (changeAt f names entries)) := by
  induction names generalizing entries with
  | nil =>
    cases leads
    exact grows
  | cons name rest ih =>
    obtain ⟨children, found, below⟩ := Entry.exists_folder leads
    rw [changeAt, found]
    apply grows_put
    intro old there
    rw [found] at there
    cases there
    exact ih below

/-! ## Where a lookup stands -/

/-- These names and folders, innermost first, lead from a root to an entry. -/
inductive Leads (root : Entry) : List (String × Entry) → Entry → Prop where
  | root : Leads root [] root
  | inside {name : String} {entries above : List (String × Entry)} {child : Entry}
      (outer : Leads root above (.folder entries)) (found : entries.lookup name = some child) :
      Leads root ((name, .folder entries) :: above) child

theorem Leads.at? {root e : Entry} {above : List (String × Entry)} (h : Leads root above e) :
    root.at? (Cursor.names ⟨e, above⟩) = some e := by
  induction h with
  | root => rfl
  | @inside name entries above child outer found ih =>
    have path : Cursor.names ⟨child, (name, .folder entries) :: above⟩ =
        Cursor.names ⟨.folder entries, above⟩ ++ [name] := by
      simp [Cursor.names]
    rw [path, Entry.at?_append, ih]
    exact (Entry.at?_single name entries).trans found

/-- Two lookups, each in its tree, stand under the same names. -/
structure Alongside (root root' : Entry) (c c' : Cursor) : Prop where
  first : Leads root c.above c.entry
  second : Leads root' c'.above c'.entry
  names : c.above.map Prod.fst = c'.above.map Prod.fst

section
variable {root root' : Entry} {c c' : Cursor}

theorem Alongside.names_eq (side : Alongside root root' c c') : c.names = c'.names := by
  unfold Cursor.names
  rw [List.map_reverse, List.map_reverse]
  exact congrArg List.reverse side.names

/-- In a tree that has grown there is the like under the same names. -/
theorem Alongside.sameKind (side : Alongside root root' c c') (grows : root.Grows root') :
    c.entry.SameKind c'.entry := by
  obtain ⟨e, there, kind⟩ := grows _ _ side.first.at?
  have same := side.second.at?
  rw [← side.names_eq] at same
  rw [same] at there
  cases there
  exact kind

/-- What a folder holds, the folder beside it holds the like of. -/
theorem Alongside.child {entries entries' : List (String × Entry)} {name : String} {child : Entry}
    (side : Alongside root root' c c') (grows : root.Grows root')
    (inFolder : c.entry = .folder entries) (inFolder' : c'.entry = .folder entries')
    (found : entries.lookup name = some child) :
    ∃ child', entries'.lookup name = some child' ∧ child.SameKind child' ∧
      Alongside root root' ⟨child, (name, .folder entries) :: c.above⟩
        ⟨child', (name, .folder entries') :: c'.above⟩ := by
  have lead : Leads root c.above (.folder entries) := inFolder ▸ side.first
  have lead' : Leads root' c'.above (.folder entries') := inFolder' ▸ side.second
  have here : root.at? c.names = some (.folder entries) := lead.at?
  have here' : root'.at? c.names = some (.folder entries') := side.names_eq ▸ lead'.at?
  have inside : root.at? (c.names ++ [name]) = some child := by
    rw [Entry.at?_append, here]
    exact (Entry.at?_single name entries).trans found
  obtain ⟨child', there, kind⟩ := grows _ _ inside
  rw [Entry.at?_append, here'] at there
  have found' : entries'.lookup name = some child' :=
    (Entry.at?_single name entries').symm.trans there
  refine ⟨child', found', kind, ⟨.inside lead found, .inside lead' found', ?_⟩⟩
  rw [List.map_cons, List.map_cons]
  exact congrArg (name :: ·) side.names

/-- Both lookups can go back to the folder that they came from. -/
theorem Alongside.outer (side : Alongside root root' c c') :
    Alongside root root' c.outer c'.outer := by
  obtain ⟨entry, above⟩ := c
  obtain ⟨entry', above'⟩ := c'
  cases above with
  | nil =>
    cases above' with
    | nil => exact side
    | cons => cases side.names
  | cons folder rest =>
    cases above' with
    | nil => cases side.names
    | cons folder' rest' =>
      obtain ⟨first, second, names⟩ := side
      cases first with
      | inside first found =>
        cases second with
        | inside second found' => exact ⟨first, second, (List.cons.inj names).2⟩

/-- Both lookups go on with the target of a link from the same place. -/
theorem Alongside.base (side : Alongside root root' c c') (target : String) :
    Alongside root root' (c.base root target) (c'.base root' target) := by
  unfold Cursor.base
  split
  · exact ⟨.root, .root, rfl⟩
  · exact side

end

/-! ## The same way through the changed tree -/

section
variable {root : Entry} {links : Nat} {c : Cursor} {entries : List (String × Entry)} {step : String}
  {rest : List String}

theorem follow_blank (inFolder : c.entry = .folder entries) (blank : step = "" ∨ step = ".") :
    follow root links c (step :: rest) = follow root links c rest := by
  rw [follow, inFolder]
  exact if_pos blank

theorem follow_up (inFolder : c.entry = .folder entries) :
    follow root links c (".." :: rest) = follow root links c.outer rest := by
  rw [follow, inFolder]
  rfl

theorem follow_link (inFolder : c.entry = .folder entries) {target : String}
    (blank : ¬(step = "" ∨ step = ".")) (up : step ≠ "..")
    (found : entries.lookup step = some (.link target)) (leads : target ≠ "") :
    follow root (links + 1) c (step :: rest) =
      follow root links (c.base root target) (steps target ++ rest) := by
  simp only [follow, inFolder, if_neg blank, if_neg up, found, if_neg leads]

theorem follow_child (inFolder : c.entry = .folder entries) {child : Entry}
    (blank : ¬(step = "" ∨ step = ".")) (up : step ≠ "..")
    (found : entries.lookup step = some child) (plain : ∀ target, child ≠ .link target) :
    follow root links c (step :: rest) =
      follow root links ⟨child, (step, .folder entries) :: c.above⟩ rest := by
  cases child with
  | link target => exact absurd rfl (plain target)
  | file bytes => simp only [follow, inFolder, if_neg blank, if_neg up, found]
  | folder children => simp only [follow, inFolder, if_neg blank, if_neg up, found]

end

/-- The names and folders before the last one lead to the folder around. -/
theorem Leads.outer {root : Entry} {c : Cursor} (leads : Leads root c.above c.entry) :
    Leads root c.outer.above c.outer.entry := by
  obtain ⟨entry, above⟩ := c
  cases leads with
  | root => exact .root
  | inside outer found => exact outer

theorem Leads.base {root : Entry} {c : Cursor} (leads : Leads root c.above c.entry)
    (target : String) : Leads root (c.base root target).above (c.base root target).entry := by
  unfold Cursor.base
  split
  · exact .root
  · exact leads

/-- A file is put into a folder that the path leads to, where there is a file or nothing. -/
theorem leads_of_place {root : Entry} {folder : Cursor} {name : String} {links : Nat}
    {todo : List String} {c : Cursor} (leads : Leads root c.above c.entry)
    (places : place root links c todo = .ok (folder, name)) :
    ∃ entries, folder.entry = .folder entries ∧ Leads root folder.above (.folder entries) ∧
      ∀ old, entries.lookup name = some old → ∃ bytes, old = .file bytes := by
  fun_induction place root links c todo with
  | case1 | case5 | case6 | case7 | case11 => cases places
  | case2 links c step rest entries inFolder blank ih => exact ih leads places
  | case3 links c rest entries inFolder _ ih => exact ih leads.outer places
  | case4 links c step rest entries inFolder blank up nothing last =>
    cases places
    rw [inFolder] at leads
    refine ⟨entries, inFolder, leads, ?_⟩
    intro old found
    rw [nothing] at found
    cases found
  | case8 c step rest entries inFolder blank up target found links given ih =>
    exact ih (leads.base target) places
  | case9 links c step rest entries inFolder blank up child plain found last =>
    cases places
    rw [inFolder] at leads
    refine ⟨entries, inFolder, leads, ?_⟩
    intro old there
    rw [found] at there
    cases there
    cases child with
    | file bytes => exact ⟨bytes, rfl⟩
    | folder children => cases last.2
    | link target => cases last.2
  | case10 links c step rest entries inFolder blank up child plain found further ih =>
    rw [inFolder] at leads ih places
    exact ih (.inside leads found) places

/-- Where a lookup in the old tree stands in a folder, one in the grown tree does. -/
theorem Alongside.folder {root root' : Entry} {c c' : Cursor} {entries : List (String × Entry)}
    (side : Alongside root root' c c') (grows : root.Grows root')
    (inFolder : c.entry = .folder entries) : ∃ entries', c'.entry = .folder entries' := by
  have kind := side.sameKind grows
  rw [inFolder] at kind
  cases same : c'.entry with
  | folder entries' => exact ⟨entries', rfl⟩
  | file bytes | link target =>
    rw [same] at kind
    cases kind

/-- The last step of the way, to the file itself. -/
theorem Alongside.last {root root' : Entry} {folder c' : Cursor} {entries : List (String × Entry)}
    {name : String} {bytes : ByteArray} {links : Nat} (side : Alongside root root' folder c')
    (grows : root.Grows root') (inFolder : folder.entry = .folder entries)
    (there : root'.at? (folder.names ++ [name]) = some (.file bytes))
    (blank : ¬(name = "" ∨ name = ".")) (up : name ≠ "..") :
    ∃ d, follow root' links c' [name] = .ok d ∧ d.entry = .file bytes := by
  obtain ⟨entries', inFolder'⟩ := side.folder grows inFolder
  have stands := side.second.at?
  rw [side.names_eq, Entry.at?_append, stands, inFolder'] at there
  have found : entries'.lookup name = some (.file bytes) :=
    (Entry.at?_single name entries').symm.trans there
  refine ⟨⟨.file bytes, (name, .folder entries') :: c'.above⟩, ?_, rfl⟩
  rw [follow_child inFolder' blank up found (fun _ => nofun), follow]

/-- **The way to a written file**: where writing puts a file in a tree, a lookup by the same path
finds it in any tree that has grown out of that one and holds the file there. -/
theorem follow_of_place {root root' : Entry} (grows : root.Grows root') {folder : Cursor}
    {name : String} {bytes : ByteArray}
    (there : root'.at? (folder.names ++ [name]) = some (.file bytes)) {links : Nat}
    {todo : List String} {c c' : Cursor} (side : Alongside root root' c c')
    (places : place root links c todo = .ok (folder, name)) :
    ∃ d, follow root' links c' todo = .ok d ∧ d.entry = .file bytes := by
  fun_induction place root links c todo generalizing c' with
  | case1 | case5 | case6 | case7 | case11 => cases places
  | case2 links c step rest entries inFolder blank ih =>
    obtain ⟨entries', inFolder'⟩ := side.folder grows inFolder
    rw [follow_blank inFolder' blank]
    exact ih side places
  | case3 links c rest entries inFolder _ ih =>
    obtain ⟨entries', inFolder'⟩ := side.folder grows inFolder
    rw [follow_up inFolder']
    exact ih side.outer places
  | case4 links c step rest entries inFolder blank up nothing last =>
    cases places
    rw [List.isEmpty_iff.1 last]
    exact side.last grows inFolder there blank up
  | case8 c step rest entries inFolder blank up target found links given ih =>
    obtain ⟨entries', inFolder'⟩ := side.folder grows inFolder
    obtain ⟨_, found', kind, -⟩ := side.child grows inFolder inFolder' found
    cases kind
    rw [follow_link inFolder' blank up found' given]
    exact ih (side.base target) places
  | case9 links c step rest entries inFolder blank up child plain found last =>
    cases places
    rw [List.isEmpty_iff.1 last.1]
    exact side.last grows inFolder there blank up
  | case10 links c step rest entries inFolder blank up child plain found further ih =>
    obtain ⟨entries', inFolder'⟩ := side.folder grows inFolder
    obtain ⟨child', found', kind, inside⟩ := side.child grows inFolder inFolder' found
    have plain' : ∀ target, child' ≠ .link target := by
      rintro target rfl
      cases kind
      exact plain target rfl
    rw [follow_child inFolder' blank up found' plain']
    rw [inFolder] at ih places
    exact ih inside places

/-- The way to the file in the tree that it was put into. -/
theorem follow_changeAt {t : FileTree} {folder : Cursor} {name : String} {links : Nat}
    {todo : List String} (places : place t.start.entry links t.start todo = .ok (folder, name))
    (bytes : ByteArray) :
    let root' : Entry := .folder (changeAt (put name (.file bytes)) folder.names t.root)
    ∃ d, follow root' links ⟨root', []⟩ todo = .ok d ∧ d.entry = .file bytes := by
  intro root'
  have origin : Leads t.start.entry t.start.above t.start.entry := .root
  obtain ⟨entries, -, leads, covers⟩ := leads_of_place origin places
  have lead : (Entry.folder t.root).at? folder.names = some (.folder entries) := leads.at?
  have grows : t.start.entry.Grows root' := by
    apply grows_changeAt lead
    apply grows_put
    intro old found
    obtain ⟨before, rfl⟩ := covers old found
    exact .file before bytes
  have there : root'.at? (folder.names ++ [name]) = some (.file bytes) := by
    rw [at?_changeAt lead, Entry.at?_single, lookup_put, if_pos rfl]
  exact follow_of_place grows there ⟨origin, .root, rfl⟩ places

/-- What a change makes of a tree. -/
theorem change_eq_ok {t t' : FileTree} {f : List (String × Entry) → List (String × Entry)}
    {folder : Cursor} (changes : t.change f folder = .ok t') :
    t' = { t with root := changeAt f folder.names t.root } := by
  unfold change at changes
  split at changes
  · cases changes
  · exact (Except.ok.inj changes).symm

/-- **A file reads as what was written at its path**, whatever was there before. -/
theorem read_write {t t' : FileTree} {p : Path} {bytes : ByteArray}
    (writes : t.write p bytes = .ok t') : t'.read p = .ok bytes := by
  unfold write at writes
  split at writes
  case isTrue => cases writes
  case isFalse spoken =>
    split at writes
    case h_2 => cases writes
    case h_1 folder name places =>
      obtain rfl := change_eq_ok writes
      obtain ⟨d, follows, file⟩ := follow_changeAt places bytes
      have found : find { t with root := changeAt (put name (.file bytes)) folder.names t.root } p =
          .ok (.file bytes) := by
        rw [find, if_neg spoken]
        exact (congrArg (Except.map Cursor.entry) follows).trans (congrArg Except.ok file)
      simp only [read, found]

end FileTree

end FlowGraph
