import FlowGraph.Text.CaseFold
import Mathlib.Data.List.Chain

/-!
# Case variants

No run of the folding table leads to a character that a run covers, so folding a character twice
is folding it once. Therefore the characters that `variants` lists for a character, the one that it
folds to and those that the runs lead there from, are all that fold as it does (`mem_variants`).
-/

namespace FlowGraph.Text

namespace CaseRun

/-- Where the run leads from a code point that it covers. -/
def image (r : CaseRun) (n : Nat) : Nat := ((n : Int) + r.delta).toNat

/-- All code points from one to another are characters. -/
def areCharacters (lo hi : Nat) : Bool := hi < 0xd800 || (0xdfff < lo && hi < 0x110000)

/-- None of some ascending runs covers a code point from `lo` to `hi`; with `second` only every
second of these is meant. -/
def clears (lo hi : Nat) (second : Bool) : List CaseRun → Bool
  | [] => true
  | s :: rest =>
    cond (s.last.blt lo) (clears lo hi second rest)
      (hi.blt s.first ||
        (second && s.step.beq 2 && ((lo + s.first) % 2).beq 1 && clears lo hi second rest))

/-- The run leads from characters to characters, and to none that the table covers. -/
def isSound (r : CaseRun) : Bool :=
  0 ≤ (r.first : Int) + r.delta && areCharacters r.first r.last &&
    areCharacters (r.image r.first) (r.image r.last) &&
    clears (r.image r.first) (r.image r.last) (r.step.beq 2 || r.first.beq r.last) foldRuns

/-- The runs follow each other. -/
def Ascending (runs : List CaseRun) : Prop :=
  runs.Pairwise fun r s => r.first ≤ s.first

theorem covers_iff {r : CaseRun} {n : Nat} :
    r.covers n = true ↔ r.first ≤ n ∧ n ≤ r.last ∧ (n - r.first) % r.step = 0 := by
  simp [covers, and_assoc]

/-- A run that comes after the end of some code points covers none of them. -/
theorem covers_eq_false_of_lt {s : CaseRun} {n : Nat} (above : n < s.first) :
    s.covers n = false := by
  rw [Bool.eq_false_iff, Ne, covers_iff]
  omega

theorem not_covers_of_clears {lo hi : Nat} {second : Bool} {runs : List CaseRun}
    (ascending : Ascending runs) (clear : clears lo hi second runs = true) {n : Nat}
    (low : lo ≤ n) (high : n ≤ hi) (parity : second = true → n % 2 = lo % 2) :
    ∀ s ∈ runs, s.covers n = false := by
  induction runs with
  | nil => simp
  | cons s rest ih =>
    obtain ⟨later, ascending⟩ := List.pairwise_cons.1 ascending
    rw [List.forall_mem_cons]
    rw [clears] at clear
    cases below : s.last.blt lo with
    | true =>
      rw [below, cond_true] at clear
      rw [Nat.blt_eq] at below
      constructor
      · rw [Bool.eq_false_iff, Ne, covers_iff]
        omega
      · exact ih ascending clear
    | false =>
      rw [below, cond_false, Bool.or_eq_true] at clear
      rcases clear with above | apart
      · rw [Nat.blt_eq] at above
        constructor
        · apply covers_eq_false_of_lt
          omega
        · intro t mem
          apply covers_eq_false_of_lt
          have := later t mem
          omega
      · simp only [Bool.and_eq_true, Nat.beq_eq] at apart
        obtain ⟨⟨⟨every, step⟩, odd⟩, clear⟩ := apart
        constructor
        · rw [Bool.eq_false_iff, Ne, covers_iff, step]
          have := parity every
          omega
        · exact ih ascending clear

theorem ascending_foldRuns : Ascending foldRuns := by
  have chain : (foldRuns.map first).IsChain (· ≤ ·) := by decide +kernel
  exact List.pairwise_map.1 (List.isChain_iff_pairwise.1 chain)

set_option maxRecDepth 4000 in
theorem isSound_of_mem {r : CaseRun} (mem : r ∈ foldRuns) : r.isSound = true := by
  have all : foldRuns.all isSound = true := by decide +kernel
  exact List.all_eq_true.1 all r mem

section
variable {r : CaseRun} {n : Nat}

theorem image_eq (mem : r ∈ foldRuns) (covers : r.covers n = true) :
    (r.image n : Int) = n + r.delta := by
  have sound := isSound_of_mem mem
  simp only [isSound, Bool.and_eq_true, decide_eq_true_eq] at sound
  have above := (covers_iff.1 covers).1
  unfold image
  omega

/-- **No run leads to what a run covers.** -/
theorem not_covers_image (mem : r ∈ foldRuns) (covers : r.covers n = true) :
    ∀ s ∈ foldRuns, s.covers (r.image n) = false := by
  have sound := isSound_of_mem mem
  simp only [isSound, Bool.and_eq_true, decide_eq_true_eq] at sound
  obtain ⟨⟨⟨positive, -⟩, -⟩, clear⟩ := sound
  obtain ⟨low, high, steps⟩ := covers_iff.1 covers
  have image := image_eq mem covers
  refine not_covers_of_clears ascending_foldRuns clear ?_ ?_ ?_
  · unfold CaseRun.image
    omega
  · unfold CaseRun.image
    omega
  · intro second
    simp only [Bool.or_eq_true, Nat.beq_eq] at second
    unfold CaseRun.image
    rcases second with two | single
    · rw [two] at steps
      omega
    · omega

theorem isValidChar_of_areCharacters {lo hi : Nat} (all : areCharacters lo hi = true)
    (low : lo ≤ n) (high : n ≤ hi) : n.isValidChar := by
  simp only [areCharacters, Bool.or_eq_true, Bool.and_eq_true, decide_eq_true_eq] at all
  unfold Nat.isValidChar
  omega

theorem isValidChar_of_covers (mem : r ∈ foldRuns) (covers : r.covers n = true) :
    n.isValidChar := by
  have sound := isSound_of_mem mem
  simp only [isSound, Bool.and_eq_true] at sound
  obtain ⟨low, high, -⟩ := covers_iff.1 covers
  exact isValidChar_of_areCharacters sound.1.1.2 low high

theorem isValidChar_image (mem : r ∈ foldRuns) (covers : r.covers n = true) :
    (r.image n).isValidChar := by
  have sound := isSound_of_mem mem
  simp only [isSound, Bool.and_eq_true] at sound
  obtain ⟨low, high, -⟩ := covers_iff.1 covers
  apply isValidChar_of_areCharacters sound.1.2
  · unfold image
    omega
  · unfold image
    omega

end

end CaseRun

/-! ## Code points -/

/-- A code point folds by a run that covers it, or to itself. -/
theorem foldPoint_cases (n : Nat) :
    (∃ r ∈ foldRuns, r.covers n = true ∧ foldPoint n = r.image n) ∨
      ((∀ r ∈ foldRuns, r.covers n = false) ∧ foldPoint n = n) := by
  unfold foldPoint
  split
  · next r found =>
    have covers : r.covers n = true := by simpa using List.find?_some found
    exact .inl ⟨r, List.mem_of_find?_eq_some found, covers, rfl⟩
  · next none =>
    refine .inr ⟨?_, rfl⟩
    intro r mem
    exact Bool.eq_false_iff.2 (List.find?_eq_none.1 none r mem)

theorem foldPoint_of_uncovered {n : Nat} (uncovered : ∀ r ∈ foldRuns, r.covers n = false) :
    foldPoint n = n := by
  rcases foldPoint_cases n with ⟨r, mem, covers, -⟩ | ⟨-, same⟩
  · rw [uncovered r mem] at covers
    cases covers
  · exact same

@[simp] theorem foldPoint_foldPoint (n : Nat) : foldPoint (foldPoint n) = foldPoint n := by
  apply foldPoint_of_uncovered
  rcases foldPoint_cases n with ⟨r, mem, covers, image⟩ | ⟨uncovered, same⟩
  · rw [image]
    exact CaseRun.not_covers_image mem covers
  · rw [same]
    exact uncovered

/-- Characters, and nothing else, fold to characters. -/
theorem isValidChar_foldPoint {n : Nat} : (foldPoint n).isValidChar ↔ n.isValidChar := by
  rcases foldPoint_cases n with ⟨r, mem, covers, image⟩ | ⟨-, same⟩
  · rw [image]
    exact iff_of_true (CaseRun.isValidChar_image mem covers)
      (CaseRun.isValidChar_of_covers mem covers)
  · rw [same]

/-- The variants of a code point are all that fold as it does. -/
theorem mem_foldVariants {m n : Nat} : n ∈ foldVariants m ↔ foldPoint n = foldPoint m := by
  unfold foldVariants
  rw [List.mem_cons, List.mem_filterMap]
  constructor
  · rintro (rfl | ⟨r, -, source⟩)
    · exact foldPoint_foldPoint m
    · simp only [Option.ite_none_right_eq_some, Bool.and_eq_true, beq_iff_eq,
        Option.some.injEq] at source
      obtain ⟨⟨-, folds⟩, rfl⟩ := source
      exact folds
  · intro folds
    rcases foldPoint_cases n with ⟨r, mem, covers, image⟩ | ⟨-, same⟩
    · -- The run that leads from the code point to its target leads back to it.
      have back : ((foldPoint m : Int) - r.delta).toNat = n := by
        have forth := CaseRun.image_eq mem covers
        rw [← image, folds] at forth
        omega
      refine .inr ⟨r, mem, ?_⟩
      simp [back, covers, folds]
    · exact .inl (same.symm.trans folds)

/-! ## Characters -/

theorem toNat_ofNat {n : Nat} (valid : n.isValidChar) : (Char.ofNat n).toNat = n := by
  rw [Char.ofNat, dif_pos valid]
  rfl

theorem toNat_fold (c : Char) : (fold c).toNat = foldPoint c.toNat :=
  toNat_ofNat (isValidChar_foldPoint.2 c.valid)

theorem fold_eq_iff {c d : Char} : fold c = fold d ↔ foldPoint c.toNat = foldPoint d.toNat := by
  rw [← toNat_fold, ← toNat_fold]
  constructor
  · exact congrArg Char.toNat
  · exact Char.toNat_inj.1

/-- **The variants of a character are all characters that fold as it does.** -/
theorem mem_variants {c d : Char} : d ∈ variants c ↔ fold d = fold c := by
  rw [variants, List.mem_map, fold_eq_iff]
  constructor
  · rintro ⟨n, mem, rfl⟩
    rw [mem_foldVariants] at mem
    have valid : n.isValidChar := by
      rw [← isValidChar_foldPoint, mem, isValidChar_foldPoint]
      exact c.valid
    rw [← mem, toNat_ofNat valid]
  · intro folds
    exact ⟨d.toNat, mem_foldVariants.2 folds, Char.ofNat_toNat d⟩

end FlowGraph.Text
