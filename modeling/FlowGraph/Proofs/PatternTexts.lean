import FlowGraph.Pattern.FilePattern

/-!
# What is read of the expressions of file patterns

The expression of a wildcard text is read as one tree for each character between the two anchors
(`parse?_wildcardSource`), and that of a list of extensions as the choice among their letters
(`parse?_extensionSource`). A character that is no sign of the notation is read as itself, and so
is every other one behind a backslash. A piece of an expression adds its item and leaves the rest to
be read, so the expressions are read piece by piece.
-/

namespace FlowGraph.Pattern

/-- One character up to letter case. -/
def literal (c : Char) : Regex := .set (Flags.initial.char c)

namespace Reading

variable {r : Reading} {c : Char} {rest : List Char}

/-- The reading with more items in the innermost group. -/
def putAll (r : Reading) (xs : List Regex) : Reading :=
  { r with group := { r.group with items := (xs.map some).reverse ++ r.group.items } }

@[simp] theorem putAll_nil : r.putAll [] = r := rfl

@[simp] theorem putAll_put (x : Regex) (xs : List Regex) :
    (r.put x).putAll xs = r.putAll (x :: xs) := by
  simp [putAll, put, Group.add]

@[simp] theorem flags_put (x : Regex) : (r.put x).flags = r.flags := rfl

@[simp] theorem flags_putAll (xs : List Regex) : (r.putAll xs).flags = r.flags := rfl

theorem branch_putAll (empty : r.group.items = []) (xs : List Regex) :
    (r.putAll xs).group.branch = .sequence xs := by
  simp [putAll, Group.branch, empty]

/-- An item leaves what comes after it to be read. -/
theorem toEnd?_cons {r' : Reading} {cs : List Char} (item : r.item? c cs = some (r', rest))
    (shorter : rest.length ≤ cs.length) : r.toEnd? (c :: cs) = r'.toEnd? rest := by
  rw [toEnd?]
  simp only [item]
  rw [if_pos shorter]

/-! ## Pieces of expressions -/

/-- No character is passed over. -/
theorem not_passedOver (initial : r.flags = .initial) :
    ¬ (r.flags.spaced && Text.isBlank c) = true := by
  rw [initial]
  exact Bool.false_ne_true

theorem readEscape?_of_isMeta {flags : Flags} (sign : isMeta c = true) :
    readEscape? flags (c :: rest) = some (.char c, rest) := by
  have each : ∀ c ∈ "\\.+*?()|[]\x7b\x7d^$#&-~".toList,
      readEscape? flags (c :: rest) = some (.char c, rest) := by
    simp [readEscape?, isEscapable]
  exact each c (List.contains_iff_mem.1 sign)

/-- A character that is no sign of the notation stands for itself. -/
theorem item?_of_isMeta_eq_false (initial : r.flags = .initial) (plain : isMeta c = false) :
    r.item? c rest = some (r.put (literal c), rest) := by
  unfold item?
  rw [if_neg (not_passedOver initial)]
  split
  case h_13 =>
    rw [initial]
    rfl
  all_goals exact absurd plain (by decide)

theorem toEnd?_escape (initial : r.flags = .initial) :
    r.toEnd? (escape c ++ rest) = (r.put (literal c)).toEnd? rest := by
  unfold escape
  split
  · next sign =>
    have item : r.item? '\\' (c :: rest) = some (r.put (literal c), rest) := by
      unfold item?
      simp only [initial, readEscape?_of_isMeta sign]
      rfl
    exact toEnd?_cons item (Nat.le_succ _)
  · next plain =>
    exact toEnd?_cons (item?_of_isMeta_eq_false initial (Bool.eq_false_iff.2 plain)) (Nat.le_refl _)

/-- A point stands for every character but a line feed. -/
theorem toEnd?_point (initial : r.flags = .initial) :
    r.toEnd? ('.' :: rest) = (r.put (.set .notLineFeed)).toEnd? rest := by
  refine toEnd?_cons ?_ (Nat.le_refl _)
  unfold item?
  simp only [initial]
  rfl

/-- A star repeats the item before it, if nothing makes it lazy. -/
theorem toEnd?_star (initial : r.flags = .initial) (x : Regex) (eager : rest.head? ≠ some '?') :
    (r.put x).toEnd? ('*' :: rest) = (r.put (.repeated x 0 none)).toEnd? rest := by
  have unchanged : skipLazy rest = rest := by
    fun_cases skipLazy rest with
    | case1 => exact absurd rfl eager
    | case2 => rfl
  refine toEnd?_cons ?_ (Nat.le_refl _)
  have passed := not_passedOver (c := '*') ((flags_put x).trans initial)
  unfold item?
  rw [if_neg passed]
  simp only [repeat?, unchanged]
  rfl

/-- The start of an expression. -/
theorem toEnd?_textStart (initial : r.flags = .initial) :
    r.toEnd? ('^' :: rest) = (r.put (.anchor .textStart)).toEnd? rest := by
  refine toEnd?_cons ?_ (Nat.le_refl _)
  unfold item?
  simp only [initial]
  rfl

/-- The end of an expression is the whole of what has been read. -/
theorem toEnd?_textEnd (initial : r.flags = .initial) (outermost : r.outer = []) :
    r.toEnd? ['$'] = some (r.put (.anchor .textEnd)).group.close := by
  have item : r.item? '$' [] = some (r.put (.anchor .textEnd), []) := by
    unfold item?
    simp only [initial]
    rfl
  rw [toEnd?_cons item (Nat.le_refl _), toEnd?]
  have closed : (r.put (.anchor .textEnd)).outer = [] := outermost
  rw [closed]
  rfl

/-! ## Groups -/

/-- A parenthesis opens a group, if no name and no settings come after it. -/
theorem toEnd?_opening (initial : r.flags = .initial) (unnamed : rest.head? ≠ some '?') :
    r.toEnd? ('(' :: rest) =
      toEnd? { r with group := ⟨[], [], r.flags⟩, outer := r.group :: r.outer } rest := by
  have group : readGroupStart? r.flags rest = some (.group r.flags none, rest) := by
    unfold readGroupStart?
    split
    case h_8 => rfl
    all_goals exact absurd rfl unnamed
  refine toEnd?_cons ?_ (Nat.le_refl _)
  unfold item?
  rw [if_neg (not_passedOver initial)]
  simp only [group]
  rfl

/-- A stroke starts another branch. -/
theorem toEnd?_stroke (initial : r.flags = .initial) :
    r.toEnd? ('|' :: rest) = toEnd? { r with group := r.group.nextBranch } rest := by
  refine toEnd?_cons ?_ (Nat.le_refl _)
  unfold item?
  rw [if_neg (not_passedOver initial)]
  rfl

/-- A closed group is an item of the group around it. -/
theorem toEnd?_closing (initial : r.flags = .initial) {g : Group} {outer : List Group}
    (inside : r.outer = g :: outer) :
    r.toEnd? (')' :: rest) =
      toEnd? { r with flags := r.group.outside, group := g.add r.group.close, outer } rest := by
  refine toEnd?_cons ?_ (Nat.le_refl _)
  unfold item?
  rw [if_neg (not_passedOver initial)]
  simp only [inside]

end Reading

end FlowGraph.Pattern

namespace FlowGraph.FilePattern

open Pattern (Regex CharSet Flags Reading literal)

/-! ## Wildcards -/

/-- The tree of one character of a wildcard text. -/
def wildcardTree : Char → Regex
  | '*' => .repeated (.set .notLineFeed) 0 none
  | '?' => .set .notLineFeed
  | c => literal c

/-- The tree of a wildcard text: its characters from start to end. -/
def wildcardsTree (cs : List Char) : Regex :=
  .sequence (.anchor .textStart :: (cs.map wildcardTree ++ [.anchor .textEnd]))

section
variable {r : Reading} {c : Char} {cs rest : List Char}

/-- What comes of a character is not taken for the sign of a lazy repetition. -/
theorem head?_wildcard (c : Char) : (wildcard c ++ rest).head? ≠ some '?' := by
  unfold wildcard
  split
  · nofun
  · nofun
  · next _ notMark =>
    unfold Pattern.escape
    split
    · nofun
    · intro head
      exact notMark (Option.some.inj head)

theorem toEnd?_wildcard (initial : r.flags = .initial) (eager : rest.head? ≠ some '?') :
    r.toEnd? (wildcard c ++ rest) = (r.put (wildcardTree c)).toEnd? rest := by
  unfold wildcard
  split
  · exact (Reading.toEnd?_point initial).trans (Reading.toEnd?_star initial _ eager)
  · exact Reading.toEnd?_point initial
  · next notStar notMark =>
    rw [Reading.toEnd?_escape initial, wildcardTree]
    · exact notStar
    · exact notMark

/-- The characters of a wildcard text are read one by one. -/
theorem toEnd?_wildcards (initial : r.flags = .initial) (eager : rest.head? ≠ some '?') :
    r.toEnd? (cs.flatMap wildcard ++ rest) = (r.putAll (cs.map wildcardTree)).toEnd? rest := by
  induction cs generalizing r with
  | nil => rfl
  | cons c cs ih =>
    have next : (cs.flatMap wildcard ++ rest).head? ≠ some '?' := by
      cases cs with
      | nil => exact eager
      | cons d ds =>
        rw [List.flatMap_cons, List.append_assoc]
        exact head?_wildcard d
    have added : (r.put (wildcardTree c)).flags = .initial := initial
    rw [List.flatMap_cons, List.append_assoc, toEnd?_wildcard initial next, ih added,
      Reading.putAll_put, List.map_cons]

end

/-- **A wildcard text is a valid expression.** -/
theorem parse?_wildcardSource (cs : List Char) :
    Regex.parse? (wildcardSource cs) = some (wildcardsTree cs) := by
  unfold Regex.parse? wildcardSource
  rw [String.toList_ofList, Reading.toEnd?_textStart rfl, toEnd?_wildcards rfl (by nofun),
    Reading.toEnd?_textEnd rfl rfl]
  simp [Reading.put, Reading.putAll, Pattern.Group.add, Pattern.Group.close, Pattern.Group.branch,
    Reading.start, wildcardsTree, Regex.choice]

/-! ## Extensions -/

/-- The tree of an extension. -/
def lettersTree (e : String) : Regex := .sequence (e.toList.map literal)

/-- The tree of the names that end in a point and one of some extensions. -/
def extensionTree (exts : List String) : Regex :=
  .sequence [literal '.', .choice (exts.map lettersTree), .anchor .textEnd]

/-- A text has no sign of the notation. -/
def IsPlain (e : String) : Prop := e.toList.any Pattern.isMeta = false

theorem IsPlain.isMeta_eq_false {e : String} (plain : IsPlain e) {c : Char} (mem : c ∈ e.toList) :
    Pattern.isMeta c = false :=
  Bool.eq_false_iff.2 (List.any_eq_false.1 plain c mem)

theorem wildcard_of_isMeta_eq_false {c : Char} (plain : Pattern.isMeta c = false) :
    wildcard c = [c] ∧ wildcardTree c = literal c := by
  have notStar : c ≠ '*' := by
    rintro rfl
    exact absurd plain (by decide)
  have notMark : c ≠ '?' := by
    rintro rfl
    exact absurd plain (by decide)
  constructor
  · rw [wildcard, Pattern.escape, plain]
    · rfl
    · exact notStar
    · exact notMark
  · rw [wildcardTree]
    · exact notStar
    · exact notMark

section
variable {r : Reading} {rest : List Char}

/-- The letters of an extension are read as themselves. -/
theorem toEnd?_letters {e : String} (plain : IsPlain e) (initial : r.flags = .initial)
    (eager : rest.head? ≠ some '?') :
    r.toEnd? (e.toList ++ rest) = (r.putAll (e.toList.map literal)).toEnd? rest := by
  have source : e.toList.flatMap wildcard = e.toList := by
    rw [List.flatMap_def,
      List.map_congr_left fun c mem => (wildcard_of_isMeta_eq_false (plain.isMeta_eq_false mem)).1,
      ← List.flatMap_def, List.flatMap_singleton']
  have trees : e.toList.map wildcardTree = e.toList.map literal :=
    List.map_congr_left fun c mem => (wildcard_of_isMeta_eq_false (plain.isMeta_eq_false mem)).2
  rw [← trees, ← toEnd?_wildcards initial eager, source]

/-- Extensions between strokes are the branches of their group. -/
theorem toEnd?_extensions {exts : List String} (nonempty : exts ≠ [])
    (plain : ∀ e ∈ exts, IsPlain e) (initial : r.flags = .initial) (fresh : r.group.items = [])
    {g : Pattern.Group} {outer : List Pattern.Group} (inside : r.outer = g :: outer) :
    r.toEnd? (['|'].intercalate (exts.map String.toList) ++ ')' :: rest) =
      Reading.toEnd? { r with
        flags := r.group.outside
        group := g.add (.choice (r.group.branches.reverse ++ exts.map lettersTree))
        outer } rest := by
  induction exts generalizing r with
  | nil => exact absurd rfl nonempty
  | cons e es ih =>
    rw [List.forall_mem_cons] at plain
    obtain ⟨first, others⟩ := plain
    let next : Reading := r.putAll (e.toList.map literal)
    have nextInitial : next.flags = .initial := initial
    have nextInside : next.outer = g :: outer := inside
    have branch : next.group.branch = lettersTree e := Reading.branch_putAll fresh _
    cases es with
    | nil =>
      have closed : next.group.close = .choice (r.group.branches.reverse ++ [lettersTree e]) := by
        rw [Pattern.Group.close, branch, List.reverse_cons]
        rfl
      rw [List.map_singleton, List.intercalate_singleton,
        toEnd?_letters first initial (by nofun), Reading.toEnd?_closing nextInitial nextInside,
        closed]
      rfl
    | cons e' es =>
      let branched : Reading := { next with group := next.group.nextBranch }
      have branches : branched.group.branches.reverse =
          r.group.branches.reverse ++ [lettersTree e] := by
        rw [← branch]
        exact List.reverse_cons
      rw [List.map_cons, List.map_cons, List.intercalate_cons_cons, List.append_assoc,
        List.append_assoc, toEnd?_letters first initial (by nofun), List.singleton_append,
        Reading.toEnd?_stroke nextInitial, ← List.map_cons]
      rw [ih (r := branched) (List.cons_ne_nil _ _) others initial rfl inside, branches,
        List.append_assoc]
      rfl

/-- What is written for extensions does not start like settings or a name. -/
theorem head?_extensions {exts : List String} (plain : ∀ e ∈ exts, IsPlain e)
    (tame : rest.head? ≠ some '?') :
    (['|'].intercalate (exts.map String.toList) ++ rest).head? ≠ some '?' := by
  have letters {e : String} (plain : IsPlain e) {rest : List Char} (tame : rest.head? ≠ some '?') :
      (e.toList ++ rest).head? ≠ some '?' := by
    cases spelled : e.toList with
    | nil => exact tame
    | cons c cs =>
      intro head
      obtain rfl : c = '?' := Option.some.inj head
      have sign := plain.isMeta_eq_false (spelled ▸ List.mem_cons_self)
      exact absurd sign (by decide)
  match exts with
  | [] => exact tame
  | [e] =>
    rw [List.map_singleton, List.intercalate_singleton]
    exact letters (plain e List.mem_cons_self) tame
  | e :: e' :: es =>
    rw [List.map_cons, List.map_cons, List.intercalate_cons_cons, List.append_assoc,
      List.append_assoc]
    exact letters (plain e List.mem_cons_self) nofun

end

/-- **A list of extensions is a valid expression.** -/
theorem parse?_extensionSource {exts : List String} (nonempty : exts ≠ [])
    (plain : ∀ e ∈ exts, IsPlain e) :
    Regex.parse? (extensionSource exts) = some (extensionTree exts) := by
  have text : (extensionSource exts).toList =
      Pattern.escape '.' ++ '(' :: (['|'].intercalate (exts.map String.toList) ++ [')', '$']) := by
    simp [extensionSource, String.toList_intercalate, Pattern.escape]
    rfl
  have unnamed : (['|'].intercalate (exts.map String.toList) ++ [')', '$']).head? ≠ some '?' :=
    head?_extensions plain nofun
  unfold Regex.parse?
  rw [text, Reading.toEnd?_escape rfl, Reading.toEnd?_opening rfl unnamed,
    toEnd?_extensions nonempty plain rfl rfl rfl, Reading.toEnd?_textEnd rfl rfl]
  rfl

end FlowGraph.FilePattern
