import FlowGraph.Pattern.Regex
import Mathlib.Data.List.Basic

/-!
# What regular expressions match

Anchors look at the characters around a place, so what an expression matches depends on where in a
text it stands: `Regex.Spans` tells, expression by expression, which texts match between two
neighbours. A search goes on character by character with what is left of the expressions under way
(`spans_step`), and by that it finds a part of a text that matches if there is one
(`isMatch_iff`).
-/

namespace FlowGraph.Pattern

/-- Which texts may stand between two neighbours, where nothing is a neighbour at the ends. -/
abbrev Span := Option Char → List Char → Option Char → Prop

namespace Span

/-- Any text. -/
def anything : Span := fun _ _ _ => True

/-- One text after another. -/
def follows (S T : Span) : Span := fun before text after =>
  ∃ u v, text = u ++ v ∧ S before u (v.head?.or after) ∧ T (u.getLast?.or before) v after

/-- So many texts one after the other. -/
def copies (S : Span) : Nat → Span
  | 0 => fun _ text _ => text = []
  | n + 1 => S.follows (S.copies n)

/-- What may follow a character that the text began with. -/
def rest (S : Span) (before : Option Char) (c : Char) : Span := fun _ text after =>
  S before (c :: text) after

variable {S S' T T' : Span} {before after : Option Char} {text cs : List Char} {c : Char}

theorem follows_congr (first : ∀ u a, S before u a ↔ S' before u a)
    (second : ∀ b v, T b v after ↔ T' b v after) :
    S.follows T before text after ↔ S'.follows T' before text after := by
  simp only [follows, first, second]

@[simp] theorem follows_nil :
    S.follows T before [] after ↔ S before [] after ∧ T before [] after := by
  constructor
  · rintro ⟨u, v, split, first, second⟩
    obtain ⟨rfl, rfl⟩ := List.append_eq_nil_iff.1 split.symm
    exact ⟨first, second⟩
  · rintro ⟨first, second⟩
    exact ⟨[], [], rfl, first, second⟩

/-- The first of two texts is empty, or it takes the first character. -/
theorem follows_cons :
    S.follows T before (c :: cs) after ↔
      (S before [] (some c) ∧ T before (c :: cs) after) ∨
        (S.rest before c).follows T (some c) cs after := by
  constructor
  · rintro ⟨u, v, split, first, second⟩
    cases u with
    | nil =>
      cases split
      exact .inl ⟨first, second⟩
    | cons d u =>
      obtain ⟨rfl, rfl⟩ := List.cons.inj split
      refine .inr ⟨u, v, rfl, first, ?_⟩
      rw [List.getLast?_cons] at second
      cases last : u.getLast? with
      | none => simpa [last] using second
      | some e => simpa [last] using second
  · rintro (⟨first, second⟩ | ⟨u, v, rfl, first, second⟩)
    · exact ⟨[], c :: cs, rfl, first, second⟩
    · refine ⟨c :: u, v, rfl, first, ?_⟩
      rw [List.getLast?_cons]
      cases last : u.getLast? with
      | none => simpa [last] using second
      | some e => simpa [last] using second

/-- Copies of nothing are nothing. -/
theorem copies_nil {n : Nat} : S.copies n before [] after ↔ n = 0 ∨ S before [] after := by
  induction n with
  | zero => simp [copies]
  | succ n ih =>
    rw [copies, follows_nil, ih]
    simp only [Nat.add_one_ne_zero, false_or, and_iff_left_iff_imp]
    exact .inr

/-- Some copies are empty, and the one after them takes the first character. -/
theorem copies_cons {n : Nat} :
    S.copies n before (c :: cs) after ↔
      ∃ m k, n = m + k + 1 ∧ (k = 0 ∨ S before [] (some c)) ∧
        (S.rest before c).follows (S.copies m) (some c) cs after := by
  induction n with
  | zero => simp [copies]
  | succ n ih =>
    rw [copies, follows_cons, ih]
    constructor
    · rintro (⟨empty, m, k, rfl, -, further⟩ | further)
      · exact ⟨m, k + 1, by omega, .inr empty, further⟩
      · exact ⟨n, 0, rfl, .inl rfl, further⟩
    · rintro ⟨m, k, count, empty, further⟩
      cases k with
      | zero =>
        obtain rfl : n = m := by omega
        exact .inr further
      | succ k =>
        have empty : S before [] (some c) := empty.resolve_left (Nat.succ_ne_zero k)
        exact .inl ⟨empty, m, k, by omega, .inr empty, further⟩

end Span

/-- A repetition with these bounds may have so many copies. Where the upper bound is below the
lower one, the upper one counts. -/
def Allows (least : Nat) (most : Option Nat) (n : Nat) : Prop :=
  (least ≤ n ∨ most = some n) ∧ ∀ m ∈ most, n ≤ m

/-- A repetition may be empty if it may have no copies, or if its copies may be empty. -/
theorem exists_allows {least : Nat} {most : Option Nat} {empty : Prop} :
    (∃ n, Allows least most n ∧ (n = 0 ∨ empty)) ↔ least = 0 ∨ most = some 0 ∨ empty := by
  constructor
  · rintro ⟨n, ⟨enough, -⟩, rfl | empty⟩
    · rcases enough with enough | most
      · exact .inl (Nat.le_zero.1 enough)
      · exact .inr (.inl most)
    · exact .inr (.inr empty)
  · rintro (rfl | rfl | empty)
    · exact ⟨0, ⟨.inl (Nat.le_refl 0), fun m _ => Nat.zero_le m⟩, .inl rfl⟩
    · exact ⟨0, ⟨.inr rfl, fun m _ => Nat.zero_le m⟩, .inl rfl⟩
    · cases most with
      | none => exact ⟨least, ⟨.inl (Nat.le_refl least), nofun⟩, .inr empty⟩
      | some m =>
        refine ⟨m, ⟨.inr rfl, ?_⟩, .inr empty⟩
        simp

/-- After a copy that takes the first character, with empty ones before it, so many may follow. -/
theorem allows_further {least : Nat} {most : Option Nat} {m : Nat} (empty : Bool) :
    (∃ k, (k = 0 ∨ empty = true) ∧ Allows least most (m + k + 1)) ↔
      most ≠ some 0 ∧ Allows (if empty then 0 else least - 1) (most.map (· - 1)) m := by
  cases most with
  | none =>
    simp only [Allows, reduceCtorEq, or_false, Option.not_mem_none, false_imp_iff, implies_true,
      and_true, ne_eq, not_false_eq_true, Option.map_none, true_and]
    cases empty with
    | false =>
      simp only [Bool.false_eq_true, or_false, exists_eq_left, if_false]
      omega
    | true =>
      simp only [or_true, true_and, if_true, Nat.zero_le, iff_true]
      exact ⟨least, by omega⟩
  | some top =>
    simp only [Allows, Option.some.injEq, Option.mem_def, forall_eq', Option.map_some, ne_eq]
    cases empty with
    | false =>
      simp only [Bool.false_eq_true, or_false, exists_eq_left, if_false]
      omega
    | true =>
      simp only [or_true, true_and, if_true, Nat.zero_le, true_or]
      constructor
      · rintro ⟨k, -, below⟩
        omega
      · rintro ⟨some, below⟩
        exact ⟨top - 1 - m, by omega⟩

namespace Regex

/-- The texts that match an expression between two neighbours. -/
def Spans : Regex → Span
  | .empty => fun _ text _ => text = []
  | .set s => fun _ text _ => ∃ c, text = [c] ∧ s.mem c = true
  | .anchor a => fun before text after => text = [] ∧ a.holds before after = true
  | .seq r s => r.Spans.follows s.Spans
  | .alt r s => fun before text after => r.Spans before text after ∨ s.Spans before text after
  | .repeated r least most => fun before text after =>
    ∃ n, Allows least most n ∧ r.Spans.copies n before text after

/-- The texts that match one of some expressions. -/
def SpansAny (rs : List Regex) : Span := fun before text after =>
  ∃ r ∈ rs, r.Spans before text after

variable {before after : Option Char} {text cs : List Char} {c : Char}

/-- An expression is nullable where the empty text matches it. -/
theorem spans_nil {r : Regex} : r.Spans before [] after ↔ r.isNullable before after = true := by
  induction r generalizing before after with
  | empty => simp [Spans, isNullable]
  | set s => simp [Spans, isNullable]
  | anchor a => simp [Spans, isNullable]
  | seq r s ih ih' => rw [Spans, Span.follows_nil, ih, ih', isNullable, Bool.and_eq_true]
  | alt r s ih ih' =>
    rw [isNullable, Bool.or_eq_true, ← ih, ← ih']
    rfl
  | repeated r least most ih =>
    have nothing : (Regex.repeated r least most).Spans before [] after ↔
        least = 0 ∨ most = some 0 ∨ r.Spans before [] after := by
      simp only [Spans, Span.copies_nil]
      exact exists_allows
    rw [nothing, ih, isNullable]
    simp [or_assoc]

/-- Finished expressions are left out of a sequence. -/
theorem spans_followedBy (r s : Regex) :
    (r.followedBy s).Spans before text after ↔ r.Spans.follows s.Spans before text after := by
  cases r with
  | empty =>
    constructor
    · intro spans
      exact ⟨[], text, rfl, rfl, spans⟩
    · rintro ⟨u, v, rfl, rfl, spans⟩
      exact spans
  | _ => rfl

theorem spansAny_append {rs ss : List Regex} :
    SpansAny (rs ++ ss) before text after ↔
      SpansAny rs before text after ∨ SpansAny ss before text after := by
  simp only [SpansAny, List.mem_append, or_and_right, exists_or]

theorem spansAny_followedBy {rs : List Regex} {s : Regex} :
    SpansAny (rs.map (followedBy · s)) before text after ↔
      (SpansAny rs).follows s.Spans before text after := by
  constructor
  · rintro ⟨_, further, spans⟩
    obtain ⟨r, mem, rfl⟩ := List.mem_map.1 further
    obtain ⟨u, v, split, first, second⟩ := (spans_followedBy r s).1 spans
    exact ⟨u, v, split, ⟨r, mem, first⟩, second⟩
  · rintro ⟨u, v, split, ⟨r, mem, first⟩, second⟩
    refine ⟨r.followedBy s, List.mem_map_of_mem mem, ?_⟩
    exact (spans_followedBy r s).2 ⟨u, v, split, first, second⟩

/-- **A step takes the first character**: what is left of an expression matches the rest of a text
exactly if the expression matches the text. -/
theorem spans_step {r : Regex} :
    SpansAny (r.step before c) (some c) cs after ↔ r.Spans before (c :: cs) after := by
  induction r generalizing cs after with
  | empty => simp [SpansAny, step, Spans]
  | anchor a => simp [SpansAny, step, Spans]
  | set s =>
    unfold step
    split
    · next mem =>
      simp only [SpansAny, List.mem_singleton, exists_eq_left, Spans, List.cons.injEq]
      constructor
      · rintro rfl
        exact ⟨c, ⟨rfl, rfl⟩, mem⟩
      · rintro ⟨d, ⟨rfl, rfl⟩, -⟩
        rfl
    · next out =>
      simp only [SpansAny, List.not_mem_nil, false_and, exists_false, Spans, List.cons.injEq,
        false_iff]
      rintro ⟨d, ⟨rfl, rfl⟩, mem⟩
      exact out mem
  | alt r s ih ih' =>
    rw [step, spansAny_append, ih, ih']
    rfl
  | seq r s ih ih' =>
    have first (u : List Char) (a : Option Char) :
        SpansAny (r.step before c) (some c) u a ↔ r.Spans.rest before c (some c) u a := ih
    have skipped : SpansAny (if r.isNullable before (some c) then s.step before c else []) (some c)
        cs after ↔ r.Spans before [] (some c) ∧ s.Spans before (c :: cs) after := by
      rw [spans_nil, ← ih']
      split
      · simp [*]
      · simp [*, SpansAny]
    rw [step, spansAny_append, spansAny_followedBy, Span.follows_congr first fun _ _ => .rfl,
      skipped, Spans, Span.follows_cons, or_comm]
  | repeated r least most ih =>
    have first (u : List Char) (a : Option Char) :
        SpansAny (r.step before c) (some c) u a ↔ r.Spans.rest before c (some c) u a := ih
    have whole : (Regex.repeated r least most).Spans before (c :: cs) after ↔
        ∃ m, (∃ k, (k = 0 ∨ r.isNullable before (some c) = true) ∧ Allows least most (m + k + 1)) ∧
          (r.Spans.rest before c).follows (r.Spans.copies m) (some c) cs after := by
      simp only [Spans, Span.copies_cons, spans_nil]
      constructor
      · rintro ⟨_, allows, m, k, rfl, empty, further⟩
        exact ⟨m, ⟨k, empty, allows⟩, further⟩
      · rintro ⟨m, ⟨k, empty, allows⟩, further⟩
        exact ⟨_, allows, m, k, rfl, empty, further⟩
    rw [whole]
    simp only [allows_further]
    unfold step
    split
    · next none => simp [none, SpansAny]
    · next some =>
      dsimp only
      rw [spansAny_followedBy, Span.follows_congr first fun _ _ => .rfl]
      constructor
      · rintro ⟨u, v, split, head, m, allows, tail⟩
        exact ⟨m, ⟨some, allows⟩, u, v, split, head, tail⟩
      · rintro ⟨m, ⟨-, allows⟩, u, v, split, head, tail⟩
        exact ⟨u, v, split, head, m, allows, tail⟩

/-! ## Searching -/

theorem mem_distinct {r : Regex} {rs : List Regex} : r ∈ distinct rs ↔ r ∈ rs := by
  induction rs generalizing r with
  | nil => rfl
  | cons s rs ih =>
    have unfolds : distinct (s :: rs) = if s ∈ distinct rs then distinct rs else s :: distinct rs :=
      rfl
    rw [unfolds]
    split
    · next there =>
      rw [ih, List.mem_cons]
      rw [ih] at there
      constructor
      · exact .inr
      · rintro (rfl | mem)
        · exact there
        · exact mem
    · rw [List.mem_cons, List.mem_cons, ih]

/-- A text begins with a part that matches. -/
abbrev Begins (S : Span) : Span := S.follows .anything

/-- **A search finds what there is**: a match of an expression under way at the beginning of the
text, or one of the whole expression anywhere in it. -/
theorem searchFrom_iff {whole : Regex} {underWay : List Regex} :
    searchFrom whole underWay before text = true ↔
      Begins (SpansAny underWay) before text none ∨
        Span.anything.follows (Begins whole.Spans) before text none := by
  have active (b : Option Char) (text : List Char) (underWay : List Regex) :
      Begins (SpansAny (whole :: underWay)) b text none ↔
        Begins (SpansAny underWay) b text none ∨ Begins whole.Spans b text none := by
    simp only [Begins, Span.follows, SpansAny, List.exists_mem_cons_iff, or_and_right, and_or_left,
      exists_or]
    rw [or_comm]
  have empty (b a : Option Char) (rs : List Regex) :
      rs.any (isNullable b a) = true ↔ SpansAny rs b [] a := by
    simp only [List.any_eq_true, SpansAny, spans_nil]
  induction text generalizing underWay before with
  | nil =>
    rw [searchFrom, empty]
    simp [Begins, Span.anything, SpansAny, or_comm]
  | cons c cs ih =>
    have further : Begins (SpansAny (distinct ((whole :: underWay).flatMap (step before c))))
        (some c) cs none ↔
        ((SpansAny (whole :: underWay)).rest before c).follows .anything (some c) cs none := by
      apply Span.follows_congr
      · intro u a
        simp only [SpansAny, mem_distinct, List.mem_flatMap, Span.rest, ← spans_step]
        constructor
        · rintro ⟨r, ⟨s, mem, steps⟩, spans⟩
          exact ⟨s, mem, r, steps, spans⟩
        · rintro ⟨s, mem, r, steps, spans⟩
          exact ⟨r, ⟨s, mem, steps⟩, spans⟩
      · exact fun _ _ => .rfl
    have here : Begins (SpansAny (whole :: underWay)) before (c :: cs) none ↔
        SpansAny (whole :: underWay) before [] (some c) ∨
          ((SpansAny (whole :: underWay)).rest before c).follows .anything (some c) cs none := by
      rw [Begins, Span.follows_cons]
      simp [Span.anything]
    have later : Span.anything.follows (Begins whole.Spans) before (c :: cs) none ↔
        Begins whole.Spans before (c :: cs) none ∨
          Span.anything.follows (Begins whole.Spans) (some c) cs none := by
      rw [Span.follows_cons]
      simp only [Span.anything, true_and]
      rfl
    dsimp only [searchFrom]
    rw [Bool.or_eq_true, empty]
    refine (or_congr .rfl ih).trans ?_
    rw [further, later, ← or_assoc, ← or_assoc, ← here, active]

/-- **An expression matches a text if it matches a part of it** between the neighbours that the
part has there. -/
theorem isMatch_iff {r : Regex} {text : String} :
    r.isMatch text = true ↔
      ∃ u v w, text.toList = u ++ (v ++ w) ∧ r.Spans u.getLast? v w.head? := by
  rw [isMatch, searchFrom_iff]
  simp only [Begins, Span.follows, SpansAny, Span.anything, List.not_mem_nil, false_and,
    exists_false, and_false, false_or, and_true, true_and, Option.or_none]
  constructor
  · rintro ⟨u, _, split, v, w, rfl, spans⟩
    exact ⟨u, v, w, split, spans⟩
  · rintro ⟨u, v, w, split, spans⟩
    exact ⟨u, v ++ w, split, v, w, rfl, spans⟩

end Regex

end FlowGraph.Pattern
