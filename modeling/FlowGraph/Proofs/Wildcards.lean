import FlowGraph.Proofs.CaseVariants
import FlowGraph.Proofs.Expressions
import FlowGraph.Proofs.PatternTexts

/-!
# What file patterns match

A pattern with wildcards is written as a regular expression between two anchors, and what is read
of that text matches the names that can be cut into pieces for which the characters of the pattern
stand, in their order (`isMatch_wildcardsTree`). The name of a group of extensions matches the names
that end in a point and one of the extensions (`isMatch_extensionTree`). Both are up to letter case.
-/

namespace FlowGraph.FilePattern

open Pattern (Regex CharSet Flags Anchor literal)
open Pattern.Regex (SpansAny)

/-- A character of a pattern with wildcards stands for a piece of a name. -/
def StandsFor : Char → List Char → Prop
  | '*', _ => True
  | '?', piece => ∃ d, piece = [d]
  | c, piece => ∃ d, piece = [d] ∧ Text.fold d = Text.fold c

/-- A text can be cut into pieces that have to do with some characters, one by one. -/
def CutsInto (Stands : Char → List Char → Prop) (cs text : List Char) : Prop :=
  ∃ pieces : List (List Char), text = pieces.flatten ∧ List.Forall₂ Stands cs pieces

/-- A text ends, up to letter case, in a point and one of some extensions. -/
def EndsIn (exts : List String) (text : List Char) : Prop :=
  ∃ e ∈ exts, ∃ stem tail,
    text = stem ++ tail ∧ tail.map Text.fold = ('.' :: e.toList).map Text.fold

/-- A text has wildcards, does not stand for every name, and has nothing that makes it a regular
expression. The other text for every name, `*.*`, has a point before a star. -/
structure IsGlob (text : String) : Prop where
  wild : '*' ∈ text.toList ∨ '?' ∈ text.toList
  plain : ∀ c ∈ text.toList, isExpressionSign c = false
  noPointStar : ¬ ['.', '*'] <:+: text.toList
  notAny : text ≠ "*"

/-! ## Expressions for characters -/

section
variable {before after : Option Char} {c : Char} {cs text : List Char}

theorem mem_single {d : Char} : (CharSet.single c).mem d = true ↔ d = c := by
  simp only [CharSet.single, CharSet.mem, Bool.and_eq_true, decide_eq_true_eq]
  constructor
  · rintro ⟨low, high⟩
    exact Char.le_antisymm high low
  · rintro rfl
    exact ⟨Char.le_refl d, Char.le_refl d⟩

theorem mem_notLineFeed {d : Char} : CharSet.notLineFeed.mem d = true ↔ d ≠ '\n' := by
  rw [CharSet.notLineFeed, CharSet.mem, Bool.not_eq_true', Bool.eq_false_iff, Ne, mem_single]

theorem spans_literal :
    (literal c).Spans before text after ↔ ∃ d, text = [d] ∧ Text.fold d = Text.fold c := by
  have folded (d : Char) :
      (CharSet.folded (.single c)).mem d = true ↔ Text.fold d = Text.fold c := by
    simp only [CharSet.mem, List.any_eq_true, mem_single, exists_eq_right, Text.mem_variants]
    exact eq_comm
  exact exists_congr fun d => and_congr_right fun _ => folded d

/-- Copies of a set of characters are texts of such characters. -/
theorem spans_copies_set {s : CharSet} {n : Nat} :
    ((Regex.set s).Spans.copies n) before text after ↔
      text.length = n ∧ ∀ c ∈ text, s.mem c = true := by
  induction n generalizing before text with
  | zero =>
    rw [Pattern.Span.copies, List.length_eq_zero_iff]
    constructor
    · rintro rfl
      exact ⟨rfl, List.forall_mem_nil _⟩
    · exact And.left
  | succ n ih =>
    constructor
    · rintro ⟨_, v, rfl, ⟨c, rfl, mem⟩, others⟩
      obtain ⟨rfl, all⟩ := ih.1 others
      refine ⟨by simp, ?_⟩
      rw [List.singleton_append, List.forall_mem_cons]
      exact ⟨mem, all⟩
    · rintro ⟨length, all⟩
      cases text with
      | nil => cases length
      | cons c cs =>
        rw [List.forall_mem_cons] at all
        refine ⟨[c], cs, rfl, ⟨c, rfl, all.1⟩, ih.2 ⟨?_, all.2⟩⟩
        exact Nat.succ.inj length

theorem standsFor_of_ne (notStar : c ≠ '*') (notMark : c ≠ '?') :
    StandsFor c text ↔ ∃ d, text = [d] ∧ Text.fold d = Text.fold c := by
  rw [StandsFor]
  · exact notStar
  · exact notMark

/-- Without line feeds, a wildcard character matches what it stands for. -/
theorem spans_wildcardTree (noFeed : '\n' ∉ text) :
    (wildcardTree c).Spans before text after ↔ StandsFor c text := by
  have other : ∀ d ∈ text, CharSet.notLineFeed.mem d = true := by
    intro d mem
    rw [mem_notLineFeed]
    rintro rfl
    exact noFeed mem
  unfold wildcardTree
  split
  · refine iff_of_true ⟨text.length, ⟨.inl (Nat.zero_le _), nofun⟩, ?_⟩ trivial
    exact spans_copies_set.2 ⟨rfl, other⟩
  · constructor
    · rintro ⟨d, single, -⟩
      exact ⟨d, single⟩
    · rintro ⟨d, rfl⟩
      exact ⟨d, rfl, other d List.mem_cons_self⟩
  · next notStar notMark =>
    rw [standsFor_of_ne notStar notMark]
    exact spans_literal

/-- A sequence of expressions, one for each of some characters, matches the texts that can be cut
into what the single ones match. What comes after them matches the empty text only. -/
theorem spans_foldr {express : Char → Regex} {Stands : Char → List Char → Prop} {rest : Regex}
    (Clean : Char → Prop) (Ends : Option Char → Prop)
    (each : ∀ c b u a, (∀ d ∈ u, Clean d) → ((express c).Spans b u a ↔ Stands c u))
    (ends : ∀ b u a, rest.Spans b u a ↔ u = [] ∧ Ends a) (clean : ∀ d ∈ text, Clean d) :
    ((cs.map express).foldr .seq rest).Spans before text after ↔
      CutsInto Stands cs text ∧ Ends after := by
  induction cs generalizing before text with
  | nil =>
    rw [List.map_nil, List.foldr_nil, ends]
    apply and_congr_left
    intro _
    constructor
    · rintro rfl
      exact ⟨[], rfl, .nil⟩
    · rintro ⟨_, rfl, ⟨⟩⟩
      rfl
  | cons c cs ih =>
    constructor
    · rintro ⟨u, v, rfl, first, others⟩
      rw [List.forall_mem_append] at clean
      obtain ⟨⟨pieces, rfl, stand⟩, ended⟩ := (ih clean.2).1 others
      exact ⟨⟨u :: pieces, rfl, .cons ((each c _ u _ clean.1).1 first) stand⟩, ended⟩
    · rintro ⟨⟨_, rfl, stand⟩, ended⟩
      cases stand with
      | @cons _ u _ pieces first stand =>
        rw [List.flatten_cons, List.forall_mem_append] at clean
        refine ⟨u, pieces.flatten, rfl, (each c _ u _ clean.1).2 first, ?_⟩
        exact (ih clean.2).2 ⟨⟨pieces, rfl, stand⟩, ended⟩

/-- A text that is cut into single characters is one of the same length. -/
theorem cutsInto_fold_iff :
    CutsInto (fun c piece => ∃ d, piece = [d] ∧ Text.fold d = Text.fold c) cs text ↔
      text.map Text.fold = cs.map Text.fold := by
  induction cs generalizing text with
  | nil =>
    rw [List.map_nil, List.map_eq_nil_iff]
    constructor
    · rintro ⟨_, rfl, ⟨⟩⟩
      rfl
    · rintro rfl
      exact ⟨[], rfl, .nil⟩
  | cons c cs ih =>
    constructor
    · rintro ⟨_, rfl, stand⟩
      cases stand with
      | cons first stand =>
        obtain ⟨d, rfl, folds⟩ := first
        rw [List.flatten_cons, List.singleton_append, List.map_cons, List.map_cons, folds,
          ih.1 ⟨_, rfl, stand⟩]
    · intro same
      cases text with
      | nil => cases same
      | cons d text =>
        obtain ⟨folds, same⟩ := List.cons.inj same
        obtain ⟨pieces, rfl, stand⟩ := ih.2 same
        exact ⟨[d] :: pieces, rfl, .cons ⟨d, rfl, folds⟩ stand⟩

/-- Nothing may come after the end of a text. -/
theorem spans_textEnd :
    (Regex.sequence [.anchor .textEnd]).Spans before text after ↔ text = [] ∧ after = none := by
  constructor
  · rintro ⟨_, _, rfl, ⟨rfl, ends⟩, rfl⟩
    exact ⟨rfl, by simpa [Anchor.holds] using ends⟩
  · rintro ⟨rfl, rfl⟩
    exact ⟨[], [], rfl, ⟨rfl, rfl⟩, rfl⟩

theorem spans_choice {rs : List Regex} :
    (Regex.choice rs).Spans before text after ↔ SpansAny rs before text after := by
  induction rs with
  | nil => simp [Regex.choice, Regex.Spans, CharSet.mem, SpansAny]
  | cons r rs ih =>
    cases rs with
    | nil => simp [Regex.choice, SpansAny]
    | cons s rs =>
      have split : (Regex.choice (r :: s :: rs)).Spans before text after ↔
          r.Spans before text after ∨ (Regex.choice (s :: rs)).Spans before text after := .rfl
      rw [split, ih]
      simp only [SpansAny, List.exists_mem_cons_iff]

end

/-! ## Patterns -/

/-- **Wildcards match piece by piece.** -/
theorem isMatch_wildcardsTree {cs : List Char} {name : String} (noFeed : '\n' ∉ name.toList) :
    (wildcardsTree cs).isMatch name = true ↔ CutsInto StandsFor cs name.toList := by
  have inner (b a : Option Char) {text : List Char} (noFeed : '\n' ∉ text) :
      (Regex.sequence (cs.map wildcardTree ++ [.anchor .textEnd])).Spans b text a ↔
        CutsInto StandsFor cs text ∧ a = none := by
    rw [Regex.sequence, List.foldr_append]
    refine spans_foldr (· ≠ '\n') (· = none) ?_ (fun _ _ _ => spans_textEnd) ?_
    · intro c b u a clean
      exact spans_wildcardTree fun mem => clean _ mem rfl
    · rintro d mem rfl
      exact noFeed mem
  have whole (b a : Option Char) {text : List Char} (noFeed : '\n' ∉ text) :
      (wildcardsTree cs).Spans b text a ↔ b = none ∧ CutsInto StandsFor cs text ∧ a = none := by
    constructor
    · rintro ⟨_, v, rfl, ⟨rfl, start⟩, others⟩
      rw [List.nil_append] at noFeed
      exact ⟨by simpa [Anchor.holds] using start, (inner _ _ noFeed).1 others⟩
    · rintro ⟨rfl, others⟩
      exact ⟨[], text, rfl, ⟨rfl, rfl⟩, (inner _ _ noFeed).2 others⟩
  rw [Regex.isMatch_iff]
  constructor
  · rintro ⟨u, v, w, split, spans⟩
    rw [split] at noFeed
    have inside : '\n' ∉ v := fun mem =>
      noFeed (List.mem_append_right u (List.mem_append_left w mem))
    obtain ⟨start, cuts, ends⟩ := (whole _ _ inside).1 spans
    rw [List.getLast?_eq_none_iff] at start
    rw [List.head?_eq_none_iff] at ends
    subst start ends
    simpa [split] using cuts
  · intro cuts
    refine ⟨[], name.toList, [], by simp, ?_⟩
    exact (whole _ _ noFeed).2 ⟨rfl, cuts, rfl⟩

/-- **A group of extensions matches the names that end in one of them.** -/
theorem isMatch_extensionTree {exts : List String} {name : String} :
    (extensionTree exts).isMatch name = true ↔ EndsIn exts name.toList := by
  have extension (b a : Option Char) (e : String) (text : List Char) :
      (lettersTree e).Spans b text a ↔
        text.map Text.fold = e.toList.map Text.fold := by
    rw [← cutsInto_fold_iff, ← and_true (CutsInto _ _ _)]
    refine spans_foldr (fun _ => True) (fun _ => True) ?_ ?_ fun _ _ => trivial
    · exact fun _ _ _ _ _ => spans_literal
    · intro b u a
      exact (and_true _).symm.to_iff
  have whole (b a : Option Char) (text : List Char) :
      (extensionTree exts).Spans b text a ↔
        (∃ e ∈ exts, text.map Text.fold = ('.' :: e.toList).map Text.fold) ∧ a = none := by
    constructor
    · rintro ⟨_, _, rfl, point, u, _, rfl, among, ends⟩
      obtain ⟨d, rfl, folds⟩ := spans_literal.1 point
      obtain ⟨rfl, last⟩ := spans_textEnd.1 ends
      obtain ⟨_, which, matched⟩ := spans_choice.1 among
      obtain ⟨e, mem, rfl⟩ := List.mem_map.1 which
      refine ⟨⟨e, mem, ?_⟩, last⟩
      rw [List.append_nil, List.singleton_append, List.map_cons, List.map_cons, folds,
        (extension _ _ _ _).1 matched]
    · rintro ⟨⟨e, mem, same⟩, rfl⟩
      cases text with
      | nil => cases same
      | cons d text =>
        obtain ⟨folds, same⟩ := List.cons.inj same
        refine ⟨[d], text, rfl, spans_literal.2 ⟨d, rfl, folds⟩, text, [], by simp, ?_⟩
        refine ⟨spans_choice.2 ⟨_, List.mem_map_of_mem mem, ?_⟩, spans_textEnd.2 ⟨rfl, rfl⟩⟩
        exact (extension _ _ e text).2 same
  rw [Regex.isMatch_iff]
  constructor
  · rintro ⟨u, v, w, split, spans⟩
    obtain ⟨⟨e, mem, ends⟩, last⟩ := (whole _ _ _).1 spans
    rw [List.head?_eq_none_iff] at last
    rw [last, List.append_nil] at split
    exact ⟨e, mem, u, v, split, ends⟩
  · rintro ⟨e, mem, stem, tail, split, ends⟩
    refine ⟨stem, tail, [], by rw [split, List.append_nil], ?_⟩
    exact (whole _ _ _).2 ⟨⟨e, mem, ends⟩, rfl⟩

/-! ## Which patterns are which -/

theorem hasPointStar_iff {cs : List Char} : hasPointStar cs = true ↔ ['.', '*'] <:+: cs := by
  fun_induction hasPointStar cs with
  | case1 cs => exact iff_of_true rfl ⟨[], cs, rfl⟩
  | case2 c cs other ih =>
    have notHere : ¬ ['.', '*'] <+: c :: cs := by
      rintro ⟨rest, same⟩
      cases same
      exact other rest rfl rfl
    rw [ih, List.infix_cons_iff, or_iff_right notHere]
  | case3 => simp

/-- Small letters come after the signs. -/
theorem eq_of_toLower_eq {c d : Char} (lower : c.toLower = d) (sign : d.toNat < 65) : c = d := by
  unfold Char.toLower at lower
  split at lower
  · next capital =>
    obtain ⟨low, high⟩ : 65 ≤ c.toNat ∧ c.toNat ≤ 90 := capital
    have moved : d.toNat = (c.toNat + 32) % 2 ^ 32 := by
      rw [← lower]
      exact UInt32.toNat_add c.val 32
    omega
  · exact lower

/-- A text that is, in lower case, written without letters is written so itself. -/
theorem eq_of_lowerAscii_eq {text s : String} (lower : Text.lowerAscii text = s)
    (signs : s.toList.all (fun d => d.toNat < 65) = true) : text = s := by
  simp only [List.all_eq_true, decide_eq_true_eq] at signs
  rw [← lower, Text.lowerAscii, String.toList_ofList, List.forall_mem_map] at signs
  rw [← lower]
  apply String.toList_inj.1
  rw [Text.lowerAscii, String.toList_ofList]
  conv_lhs => rw [← List.map_id text.toList]
  apply List.map_congr_left
  intro c mem
  exact eq_of_toLower_eq rfl (signs c mem)

section
variable {pattern : String}

theorem isWildcardText_of_isGlob {text : String} (glob : IsGlob text) :
    isWildcardText text.toList = true := by
  have wild : text.toList.any (fun c => c == '*' || c == '?') = true := by
    rw [List.any_eq_true]
    rcases glob.wild with mem | mem
    · exact ⟨'*', mem, rfl⟩
    · exact ⟨'?', mem, rfl⟩
  have plain : text.toList.any isExpressionSign = false := by
    rw [List.any_eq_false]
    intro c mem
    rw [glob.plain c mem]
    exact Bool.false_ne_true
  have noPointStar : hasPointStar text.toList = false := by
    rw [Bool.eq_false_iff, Ne, hasPointStar_iff]
    exact glob.noPointStar
  rw [isWildcardText, wild, plain, noPointStar]
  rfl

/-- The groups of extensions, each with its names. -/
def groups : List (List String × List String) :=
  [(["images", "image"], imageExtensions), (["videos", "video"], videoExtensions),
    (["audio"], audioExtensions)]

theorem extensions?_of_mem_groups :
    ∀ group ∈ groups, ∀ name ∈ group.1, extensions? name = some group.2 := by
  decide

/-- The name of a group has letters only. -/
theorem extensions?_eq_none {lower : String} (wild : '*' ∈ lower.toList ∨ '?' ∈ lower.toList) :
    extensions? lower = none := by
  unfold extensions?
  split
  case h_6 => rfl
  all_goals exact absurd wild (by decide)

theorem source?_of_isGlob {trimmed : String} (glob : IsGlob trimmed) :
    source? trimmed = some (wildcardSource trimmed.toList) := by
  have wild : '*' ∈ (Text.lowerAscii trimmed).toList ∨ '?' ∈ (Text.lowerAscii trimmed).toList := by
    rw [Text.lowerAscii, String.toList_ofList, List.mem_map, List.mem_map]
    rcases glob.wild with mem | mem
    · exact .inl ⟨'*', mem, rfl⟩
    · exact .inr ⟨'?', mem, rfl⟩
  have every : ¬ (Text.lowerAscii trimmed = "" ∨ Text.lowerAscii trimmed = "*" ∨
      Text.lowerAscii trimmed = "*.*") := by
    rintro (same | same | same)
    · rw [same] at wild
      exact absurd wild (by decide)
    · exact glob.notAny (eq_of_lowerAscii_eq same (by rfl))
    · apply glob.noPointStar
      rw [eq_of_lowerAscii_eq same (by rfl)]
      exact ⟨['*'], [], rfl⟩
  unfold source?
  dsimp only
  rw [if_neg every, extensions?_eq_none wild]
  dsimp only
  rw [if_pos (isWildcardText_of_isGlob glob)]

theorem source?_of_mem_groups {trimmed : String} {names exts : List String}
    (mem : (names, exts) ∈ groups) (named : Text.lowerAscii trimmed ∈ names) :
    source? trimmed = some (extensionSource exts) := by
  have group := extensions?_of_mem_groups _ mem _ named
  have every : ¬ (Text.lowerAscii trimmed = "" ∨ Text.lowerAscii trimmed = "*" ∨
      Text.lowerAscii trimmed = "*.*") := by
    rintro (same | same | same)
    all_goals
      rw [same] at group
      exact absurd group nofun
  unfold source?
  dsimp only
  rw [if_neg every, group]

theorem parse?_of_isGlob (glob : IsGlob (Text.trim pattern)) :
    parse? pattern = some (.regex (wildcardsTree (Text.trim pattern).toList)) := by
  rw [parse?, source?_of_isGlob glob]
  dsimp only
  rw [parse?_wildcardSource]
  rfl

theorem parse?_of_mem_groups {names exts : List String} (mem : (names, exts) ∈ groups)
    (named : Text.lowerAscii (Text.trim pattern) ∈ names) :
    parse? pattern = some (.regex (extensionTree exts)) := by
  have letters : ∀ group ∈ groups, group.2 ≠ [] ∧
      ∀ e ∈ group.2, e.toList.any Pattern.isMeta = false := by
    decide +kernel
  obtain ⟨nonempty, plain⟩ := letters _ mem
  rw [parse?, source?_of_mem_groups mem named]
  dsimp only
  rw [parse?_extensionSource nonempty plain]
  rfl

end

/-- **What a pattern matches.** A pattern with wildcards is valid. It matches a name without line
feeds exactly if the name can be cut into pieces for which the characters of the trimmed pattern
stand, in their order. The name of a group of extensions is valid too, in either letter case, and
matches the names that end in a point and one of the extensions. -/
theorem parse?_meaning (pattern : String) :
    (IsGlob (Text.trim pattern) →
      ∃ p, parse? pattern = some p ∧
        ∀ name : String, '\n' ∉ name.toList →
          (p.isMatch name = true ↔ CutsInto StandsFor (Text.trim pattern).toList name.toList)) ∧
    ∀ names exts, (names, exts) ∈ groups → Text.lowerAscii (Text.trim pattern) ∈ names →
      ∃ p, parse? pattern = some p ∧
        ∀ name : String, p.isMatch name = true ↔ EndsIn exts name.toList := by
  constructor
  · intro glob
    exact ⟨_, parse?_of_isGlob glob, fun _ noFeed => isMatch_wildcardsTree noFeed⟩
  · intro names exts mem named
    exact ⟨_, parse?_of_mem_groups mem named, fun _ => isMatch_extensionTree⟩

/-- A pattern for an extension and the name of a group match names in capital letters. -/
theorem matches_capitals :
    (∃ p, parse? " *.mkv" = some p ∧ p.isMatch "A.MKV" = true) ∧
      ∃ p, parse? "Videos" = some p ∧ p.isMatch "A.MKV" = true := by
  constructor
  · have glob : IsGlob (Text.trim " *.mkv") := by
      refine ⟨by decide, ?_, ?_, by decide⟩
      · have plain : (Text.trim " *.mkv").toList.any isExpressionSign = false := by rfl
        intro c mem
        exact Bool.eq_false_iff.2 (List.any_eq_false.1 plain c mem)
      · rw [← hasPointStar_iff]
        decide
    obtain ⟨p, parses, meaning⟩ := (parse?_meaning " *.mkv").1 glob
    refine ⟨p, parses, (meaning "A.MKV" (by decide)).2 ?_⟩
    refine ⟨[['A'], ['.'], ['M'], ['K'], ['V']], rfl, .cons trivial ?_⟩
    refine .cons ⟨'.', rfl, rfl⟩ (.cons ⟨'M', rfl, ?_⟩ (.cons ⟨'K', rfl, ?_⟩ (.cons ⟨'V', rfl, ?_⟩
      .nil)))
    · decide +kernel
    · decide +kernel
    · decide +kernel
  · obtain ⟨p, parses, meaning⟩ := (parse?_meaning "Videos").2 ["videos", "video"] videoExtensions
      (by decide) (by decide)
    refine ⟨p, parses, (meaning "A.MKV").2 ⟨"mkv", by decide, ['A'], ".MKV".toList, rfl, ?_⟩⟩
    decide +kernel

end FlowGraph.FilePattern
