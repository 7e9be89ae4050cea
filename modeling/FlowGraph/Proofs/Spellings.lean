import FlowGraph.Text.Blank
import FlowGraph.Uuid
import Mathlib.Data.List.Forall2

/-!
# The spellings of a uuid

`Uuid.IsSpelled` says in which ways a uuid may be written, and `Uuid.parse?_eq_some` that these are
the texts that are read as it. None of them has a blank character.
-/

namespace FlowGraph

namespace Uuid

/-! ## Digits -/

/-- The character is the hexadecimal digit of a value, in one of the letter cases. -/
def IsDigit (d : Fin 16) (c : Char) : Prop :=
  c = Text.hexDigit d ∨ c = (Text.hexDigit d).toUpper

theorem isDigit_of_hexValue? {c : Char} {d : Fin 16} (reads : Text.hexValue? c = some d) :
    IsDigit d c := by
  have whole (n : Nat) (same : n = c.toNat) : c = Char.ofNat n := by
    rw [same, Char.ofNat_toNat]
  unfold Text.hexValue? at reads
  split at reads
  · next decimal =>
    cases reads
    have small : c.toNat - 48 < 10 := by omega
    refine .inl ?_
    rw [Text.hexDigit, if_pos small]
    exact whole _ (by dsimp only; omega)
  · split at reads
    · next lower =>
      cases reads
      have large : ¬c.toNat - 87 < 10 := by omega
      refine .inl ?_
      rw [Text.hexDigit, if_neg large]
      exact whole _ (by dsimp only; omega)
    · split at reads
      · next upper =>
        cases reads
        have capital : ∀ d : Fin 16, 10 ≤ d.val →
            (Text.hexDigit d).toUpper = Char.ofNat (55 + d.val) := by decide
        refine .inr ?_
        rw [capital _ (by dsimp only; omega)]
        exact whole _ (by dsimp only; omega)
      · cases reads

/-- A character is read as the value that it is a digit of. -/
theorem hexValue?_eq_some {c : Char} {d : Fin 16} : Text.hexValue? c = some d ↔ IsDigit d c := by
  refine ⟨isDigit_of_hexValue?, ?_⟩
  have back : ∀ d : Fin 16, Text.hexValue? (Text.hexDigit d).toUpper = some d := by decide
  rintro (rfl | rfl)
  · exact Text.hexValue?_hexDigit d
  · exact back d

theorem not_isBlank_of_isDigit {c : Char} {d : Fin 16} (digit : IsDigit d c) :
    Text.isBlank c = false := by
  have lower : ∀ d : Fin 16, Text.isBlank (Text.hexDigit d) = false := by decide
  have upper : ∀ d : Fin 16, Text.isBlank (Text.hexDigit d).toUpper = false := by decide
  rcases digit with rfl | rfl
  · exact lower d
  · exact upper d

theorem not_isBlank_of_written {ds : List (Fin 16)} {cs : List Char}
    (written : List.Forall₂ IsDigit ds cs) : ∀ c ∈ cs, Text.isBlank c = false := by
  induction written with
  | nil => exact List.forall_mem_nil _
  | cons digit rest ih => exact List.forall_mem_cons.2 ⟨not_isBlank_of_isDigit digit, ih⟩

theorem mapM_hexValue? {cs : List Char} {ds : List (Fin 16)} :
    cs.mapM Text.hexValue? = some ds ↔ List.Forall₂ IsDigit ds cs := by
  induction cs generalizing ds with
  | nil => simp [eq_comm]
  | cons c cs ih =>
    rw [List.mapM_cons]
    cases ds with
    | nil => cases Text.hexValue? c <;> cases cs.mapM Text.hexValue? <;> simp
    | cons d ds =>
      rw [List.forall₂_cons, ← hexValue?_eq_some, ← ih]
      cases Text.hexValue? c <;> cases cs.mapM Text.hexValue? <;> simp

theorem ofDigits?_eq_some {cs : List Char} {u : Uuid} :
    ofDigits? cs = some u ↔ List.Forall₂ IsDigit u.digits cs := by
  rw [← mapM_hexValue?, ofDigits?]
  cases u with
  | mk digits length_digits =>
    cases cs.mapM Text.hexValue? with
    | none => simp
    | some ds =>
      dsimp only
      split
      · simp
      · next other =>
        simp only [Option.some.injEq, reduceCtorEq, false_iff]
        rintro rfl
        exact other length_digits

/-! ## Groups -/

theorem exists_cut {cs : List Char} {n : Nat} {c : Char} (there : cs[n]? = some c) :
    ∃ before after, cs = before ++ c :: after ∧ before.length = n := by
  obtain ⟨inside, rfl⟩ := List.getElem?_eq_some_iff.1 there
  refine ⟨cs.take n, cs.drop (n + 1), ?_, List.length_take_of_le (Nat.le_of_lt inside)⟩
  rw [List.getElem_cons_drop, List.take_append_drop]

theorem getElem?_after {before after : List Char} {c : Char} {n : Nat} (k : Nat)
    (sum : n = before.length + (k + 1)) : (before ++ c :: after)[n]? = after[k]? := by
  rw [sum, List.getElem?_append_right (Nat.le_add_right _ _), Nat.add_sub_cancel_left,
    List.getElem?_cons_succ]

/-- A text with hyphens in the four places between the groups is written in groups. -/
theorem exists_hyphenated {cs : List Char} (length : cs.length = 36) (first : cs[8]? = some '-')
    (second : cs[13]? = some '-') (third : cs[18]? = some '-') (fourth : cs[23]? = some '-') :
    ∃ ds, ds.length = 32 ∧ cs = hyphenated ds := by
  obtain ⟨a, rest, rfl, ha⟩ := exists_cut first
  rw [getElem?_after 4 (by rw [ha])] at second
  rw [getElem?_after 9 (by rw [ha])] at third
  rw [getElem?_after 14 (by rw [ha])] at fourth
  obtain ⟨b, rest, rfl, hb⟩ := exists_cut second
  rw [getElem?_after 4 (by rw [hb])] at third
  rw [getElem?_after 9 (by rw [hb])] at fourth
  obtain ⟨c, rest, rfl, hc⟩ := exists_cut third
  rw [getElem?_after 4 (by rw [hc])] at fourth
  obtain ⟨d, e, rfl, hd⟩ := exists_cut fourth
  refine ⟨a ++ (b ++ (c ++ (d ++ e))), ?_, ?_⟩
  · simp only [List.length_append, List.length_cons] at length ⊢
    omega
  · simp [hyphenated, List.drop_append, List.drop_eq_nil_of_le, ha, hb, hc, hd]

theorem length_of_written {u : Uuid} {ds : List Char}
    (written : List.Forall₂ IsDigit u.digits ds) : ds.length = 32 :=
  written.length_eq.symm.trans u.length_digits

theorem ofGroups?_eq_some {cs : List Char} {u : Uuid} :
    ofGroups? cs = some u ↔ ∃ ds, List.Forall₂ IsDigit u.digits ds ∧ cs = hyphenated ds := by
  constructor
  · intro reads
    have grouped := reads
    rw [ofGroups?, Option.ite_none_right_eq_some] at grouped
    obtain ⟨⟨length, first, second, third, fourth⟩, -⟩ := grouped
    obtain ⟨ds, count, rfl⟩ := exists_hyphenated length first second third fourth
    rw [ofGroups?_hyphenated count, ofDigits?_eq_some] at reads
    exact ⟨ds, reads, rfl⟩
  · rintro ⟨ds, written, rfl⟩
    rw [ofGroups?_hyphenated (length_of_written written), ofDigits?_eq_some]
    exact written

/-! ## Texts -/

/-- The ways to write a uuid: its digits alone, or in groups with hyphens, and these in braces or
after the name of the urn. -/
inductive IsSpelled (u : Uuid) : List Char → Prop where
  | digits {ds : List Char} (written : List.Forall₂ IsDigit u.digits ds) : IsSpelled u ds
  | groups {ds : List Char} (written : List.Forall₂ IsDigit u.digits ds) :
      IsSpelled u (hyphenated ds)
  | braces {ds : List Char} (written : List.Forall₂ IsDigit u.digits ds) :
      IsSpelled u ('\x7b' :: (hyphenated ds ++ ['\x7d']))
  | urn {ds : List Char} (written : List.Forall₂ IsDigit u.digits ds) :
      IsSpelled u ("urn:uuid:".toList ++ hyphenated ds)

/-- What is taken from between braces, or from behind the name of the urn. -/
theorem unwrap?_eq_some {cs inner : List Char} (unwraps : unwrap? cs = some inner) :
    cs = '\x7b' :: (inner ++ ['\x7d']) ∨ cs = "urn:uuid:".toList ++ inner := by
  unfold unwrap? at unwraps
  split at unwraps
  · next braces =>
    obtain ⟨length, opening, closing⟩ := braces
    obtain ⟨before, rest, rfl, none⟩ := exists_cut opening
    rw [List.length_eq_zero_iff.1 none] at *
    rw [List.nil_append, List.getElem?_cons_succ] at closing
    obtain ⟨inside, after, rfl, count⟩ := exists_cut closing
    have last : after = [] := by
      apply List.length_eq_zero_iff.1
      simp only [List.nil_append, List.length_cons, List.length_append] at length
      omega
    cases unwraps
    refine .inl ?_
    simp [last, List.take_left' count]
  · split at unwraps
    · exact .inr (List.isPrefixOf?_eq_some_iff_append_eq.1 unwraps).symm
    · cases unwraps

/-- **The texts that are read as a uuid are those that spell it.** -/
theorem parse?_eq_some {s : String} {u : Uuid} : parse? s = some u ↔ u.IsSpelled s.toList := by
  unfold parse?
  generalize s.toList = cs
  have read {ds : List Char} (written : List.Forall₂ IsDigit u.digits ds) :
      ofGroups? (hyphenated ds) = some u := ofGroups?_eq_some.2 ⟨ds, written, rfl⟩
  constructor
  · intro reads
    dsimp only at reads
    split at reads
    · exact .digits (ofDigits?_eq_some.1 reads)
    · split at reads
      · obtain ⟨ds, written, rfl⟩ := ofGroups?_eq_some.1 reads
        exact .groups written
      · obtain ⟨inner, unwraps, reads⟩ := Option.bind_eq_some_iff.1 reads
        obtain ⟨ds, written, rfl⟩ := ofGroups?_eq_some.1 reads
        rcases unwrap?_eq_some unwraps with rfl | rfl
        · exact .braces written
        · exact .urn written
  · intro spelled
    cases spelled with
    | digits written =>
      rw [if_pos (length_of_written written)]
      exact ofDigits?_eq_some.2 written
    | groups written =>
      have length := length_hyphenated (length_of_written written)
      rw [if_neg (by omega), if_pos length]
      exact read written
    | @braces ds written =>
      have length := length_hyphenated (length_of_written written)
      have unwraps : unwrap? ('\x7b' :: (hyphenated ds ++ ['\x7d'])) = some (hyphenated ds) := by
        simp [unwrap?, length]
      rw [if_neg (by simp [length]), if_neg (by simp [length]), unwraps]
      exact read written
    | @urn ds written =>
      have length := length_hyphenated (length_of_written written)
      have unwraps : unwrap? ("urn:uuid:".toList ++ hyphenated ds) = some (hyphenated ds) := by
        have behind := List.isPrefixOf?_eq_some_iff_append_eq.2
          (rfl : "urn:uuid:".toList ++ hyphenated ds = _)
        rw [unwrap?, if_neg (by simp [length]), if_pos (by simp [length]), behind]
      rw [if_neg (by simp [length]), if_neg (by simp [length]), unwraps]
      exact read written

/-- No spelling has a blank character. -/
theorem IsSpelled.not_isBlank {u : Uuid} {cs : List Char} (spelled : u.IsSpelled cs) :
    ∀ c ∈ cs, Text.isBlank c = false := by
  have groups {ds : List Char} (written : List.Forall₂ IsDigit u.digits ds) :
      ∀ c ∈ hyphenated ds, Text.isBlank c = false :=
    forall_mem_hyphenated rfl (not_isBlank_of_written written)
  cases spelled with
  | digits written => exact not_isBlank_of_written written
  | groups written => exact groups written
  | braces written =>
    simp only [List.forall_mem_cons, List.forall_mem_append]
    exact ⟨rfl, groups written, rfl, List.forall_mem_nil _⟩
  | urn written =>
    exact List.forall_mem_append.2 ⟨Text.solid_of_any rfl, groups written⟩

end Uuid

end FlowGraph
