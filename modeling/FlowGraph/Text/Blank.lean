/-!
# Blank characters, trimming and words

A character is blank when it has the Unicode property White_Space. `trim` drops the
blank characters at both ends of a text and `words` splits a text at its runs of
blank characters, so no word is empty and none holds a blank character. What `trim` gives neither
begins nor ends with a blank character, and a text like that is given back with any blank
characters around it.
-/

namespace FlowGraph.Text

/-- The characters of the Unicode property White_Space. -/
def isBlank (c : Char) : Bool :=
  let n := c.toNat
  (9 ≤ n && n ≤ 13) || n == 0x20 || n == 0x85 || n == 0xA0 || n == 0x1680 ||
    (0x2000 ≤ n && n ≤ 0x200A) || n == 0x2028 || n == 0x2029 || n == 0x202F ||
    n == 0x205F || n == 0x3000

/-- A text without the blank characters at its ends. -/
def trimChars (cs : List Char) : List Char :=
  ((cs.dropWhile isBlank).reverse.dropWhile isBlank).reverse

/-- A text without the blank characters at its ends. -/
def trim (s : String) : String :=
  String.ofList (trimChars s.toList)

/-- A text that neither begins nor ends with a blank character. -/
structure IsTrimmed (cs : List Char) : Prop where
  first : ∀ c ∈ cs.head?, isBlank c = false
  last : ∀ c ∈ cs.getLast?, isBlank c = false

/-- A visible character of ASCII is not blank. -/
theorem isBlank_of_visible {c : Char} (low : 0x21 ≤ c.toNat) (high : c.toNat ≤ 0x7E) :
    isBlank c = false := by
  rw [← Bool.not_eq_true]
  simp only [isBlank, Bool.or_eq_true, Bool.and_eq_true, decide_eq_true_eq, beq_iff_eq]
  omega

theorem isBlank_of_isDigit {c : Char} (digit : c.isDigit = true) : isBlank c = false := by
  obtain ⟨low, high⟩ : 48 ≤ c.toNat ∧ c.toNat ≤ 57 := Char.isDigit_iff_toNat.1 digit
  exact isBlank_of_visible (by omega) (by omega)

theorem isBlank_of_isAlpha {c : Char} (letter : c.isAlpha = true) : isBlank c = false := by
  have bounds : (decide (c.val ≥ 65 ∧ c.val ≤ 90) || c.val ≥ 97 && c.val ≤ 122) = true := letter
  simp only [Bool.or_eq_true, Bool.and_eq_true, decide_eq_true_eq, UInt32.le_iff_toNat_le,
    ge_iff_le] at bounds
  have range : (65 ≤ c.toNat ∧ c.toNat ≤ 90) ∨ (97 ≤ c.toNat ∧ c.toNat ≤ 122) := bounds
  exact isBlank_of_visible (by omega) (by omega)

/-- A text without blank characters is trimmed. -/
theorem isTrimmed_of_forall {cs : List Char} (none : ∀ c ∈ cs, isBlank c = false) :
    IsTrimmed cs where
  first c head := none c (List.mem_of_head? head)
  last c last := none c (List.mem_of_getLast? last)

theorem solid_of_any {cs : List Char} (solid : cs.any isBlank = false) :
    ∀ c ∈ cs, isBlank c = false :=
  fun c mem => Bool.eq_false_iff.2 (List.any_eq_false.1 solid c mem)

theorem isTrimmed_of_any {cs : List Char} (solid : cs.any isBlank = false) : IsTrimmed cs :=
  isTrimmed_of_forall (solid_of_any solid)

theorem IsTrimmed.append {cs ds : List Char} (trimmed : IsTrimmed cs) (given : cs ≠ [])
    (trimmed' : IsTrimmed ds) : IsTrimmed (cs ++ ds) where
  first := by
    obtain ⟨c, cs, rfl⟩ := List.exists_cons_of_ne_nil given
    exact trimmed.first
  last := by
    intro c last
    rw [List.getLast?_append, Option.mem_def, Option.or_eq_some_iff] at last
    obtain last | ⟨-, last⟩ := last
    · exact trimmed'.last c last
    · exact trimmed.last c last

theorem head?_dropWhile_isBlank (cs : List Char) :
    ∀ c ∈ (cs.dropWhile isBlank).head?, isBlank c = false := by
  intro c head
  have stops := List.head?_dropWhile_not isBlank cs
  rw [Option.mem_def.1 head] at stops
  exact stops

theorem dropWhile_isBlank_eq_self {cs : List Char} (first : ∀ c ∈ cs.head?, isBlank c = false) :
    cs.dropWhile isBlank = cs := by
  cases cs with
  | nil => rfl
  | cons c cs => rw [List.dropWhile_cons, first c rfl]; rfl

theorem trimChars_eq_self {cs : List Char} (trimmed : IsTrimmed cs) : trimChars cs = cs := by
  have back : ∀ c ∈ cs.reverse.head?, isBlank c = false := by
    rw [← List.getLast?_eq_head?_reverse]
    exact trimmed.last
  rw [trimChars, dropWhile_isBlank_eq_self trimmed.first, dropWhile_isBlank_eq_self back,
    List.reverse_reverse]

theorem isTrimmed_trimChars (cs : List Char) : IsTrimmed (trimChars cs) where
  first := by
    intro c head
    have front : trimChars cs <+: cs.dropWhile isBlank := by
      rw [← List.reverse_suffix, trimChars, List.reverse_reverse]
      exact List.dropWhile_suffix _
    obtain ⟨rest, split⟩ := front
    apply head?_dropWhile_isBlank cs
    rw [← split, List.head?_append, Option.mem_def.1 head]
    rfl
  last := by
    intro c last
    rw [trimChars, List.getLast?_reverse] at last
    exact head?_dropWhile_isBlank _ c last

/-- Blank characters around a trimmed text are dropped. -/
theorem trimChars_around {before cs after : List Char} (front : before.all isBlank = true)
    (trimmed : IsTrimmed cs) (back : after.all isBlank = true) :
    trimChars (before ++ (cs ++ after)) = cs := by
  have blank {bs : List Char} (all : bs.all isBlank = true) (rest : List Char) :
      (bs ++ rest).dropWhile isBlank = rest.dropWhile isBlank :=
    List.dropWhile_append_of_pos (List.all_eq_true.1 all)
  have nothing {bs : List Char} (all : bs.all isBlank = true) : bs.dropWhile isBlank = [] := by
    rw [← List.append_nil bs, blank all]
    rfl
  rw [trimChars, blank front]
  cases cs with
  | nil =>
    rw [List.nil_append, nothing back]
    rfl
  | cons c cs =>
    have stops : ∀ d ∈ (c :: cs ++ after).head?, isBlank d = false := trimmed.first
    have whole := trimChars_eq_self trimmed
    rw [trimChars, dropWhile_isBlank_eq_self trimmed.first] at whole
    rw [dropWhile_isBlank_eq_self stops, List.reverse_append, blank (by simpa using back), whole]

theorem trim_eq_self {s : String} (trimmed : IsTrimmed s.toList) : trim s = s := by
  rw [trim, trimChars_eq_self trimmed, String.ofList_toList]

theorem isTrimmed_trim (s : String) : IsTrimmed (trim s).toList := by
  rw [trim, String.toList_ofList]
  exact isTrimmed_trimChars s.toList

/-- The text holds nothing but blank characters. -/
def allBlank (s : String) : Bool :=
  s.toList.all isBlank

/-- Splits at runs of blank characters; `word` holds the characters of the current
word, last one first. -/
def wordsFrom (word : List Char) : List Char → List (List Char)
  | [] => if word.isEmpty then [] else [word.reverse]
  | c :: cs =>
    if isBlank c then
      if word.isEmpty then wordsFrom [] cs else word.reverse :: wordsFrom [] cs
    else wordsFrom (c :: word) cs

/-- The maximal runs of characters that are not blank, in order. -/
def words (s : String) : List String :=
  (wordsFrom [] s.toList).map String.ofList

end FlowGraph.Text
