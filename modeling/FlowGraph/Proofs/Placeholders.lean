import FlowGraph.Proofs.Lookup
import FlowGraph.Variables

/-!
# Placeholders are filled in from left to right

Two laws say what becomes of a text: around a placeholder its two sides are expanded apart from
each other, with the text of the variable between them or the placeholder itself where there is no
variable; and a text without a placeholder stays as it is. As a text gets shorter on both sides of
a placeholder, no other function has both (`Fills.unique`), so what was put in is not looked at
again, and only variables that a placeholder can name are put in.
-/

namespace FlowGraph

namespace Variables

/-- A name in braces. -/
def placeholder (name : String) : String := "\x7b" ++ name ++ "\x7d"

/-- Somewhere in the text a name stands in braces. -/
def HoldsPlaceholder (text : String) : Prop :=
  ∃ before name after : String, IsName name.toList ∧ text = before ++ placeholder name ++ after

/-- What a placeholder of that name stands for: the text of the variable, or else itself. -/
def filling (vars : Variables) (name : String) : String :=
  ((vars.get? name).map Json.asText).getD (placeholder name)

/-- The placeholders of texts are filled in, and nothing else is changed. -/
structure Fills (vars : Variables) (fill : String → String) : Prop where
  around : ∀ before name after : String, IsName name.toList →
    fill (before ++ placeholder name ++ after) = fill before ++ vars.filling name ++ fill after
  plain : ∀ text, ¬HoldsPlaceholder text → fill text = text

theorem toList_placeholder (name : String) :
    (placeholder name).toList = '\x7b' :: (name.toList ++ ['\x7d']) := by
  simp [placeholder, String.toList_append]

theorem substitute_reverse (vars : Variables) (name : String) :
    substitute vars name.toList.reverse = (vars.filling name).toList := by
  rw [substitute, filling, unfinished, List.reverse_reverse, String.ofList_toList]
  cases vars.get? name with
  | some v => rfl
  | none => exact (toList_placeholder name).symm

/-! ## Characters of names -/

theorem ne_openBrace_of_isNameChar {c : Char} (h : isNameChar c = true) : c ≠ '\x7b' := by
  rintro rfl
  cases h

theorem ne_closeBrace_of_isNameChar {c : Char} (h : isNameChar c = true) : c ≠ '\x7d' := by
  rintro rfl
  cases h

theorem isNameChar_of_isNameStart {c : Char} (h : isNameStart c = true) : isNameChar c = true := by
  rw [isNameChar, h]
  rfl

theorem IsName.ne_nil {name : List Char} (isName : IsName name) : name ≠ [] := by
  rintro rfl
  cases isName

/-! ## One pass -/

section
variable (vars : Variables)

/-- What may have begun with an opening brace goes on with a character of a name. -/
theorem expandFrom_extends {name : List Char} {c : Char} (other : isNameChar c = true)
    (extend : extendsName name c = true) (cs : List Char) :
    expandFrom vars (some name) (c :: cs) = expandFrom vars (some (c :: name)) cs := by
  have close : ¬(c = '\x7d' ∧ name ≠ []) := fun h => ne_closeBrace_of_isNameChar other h.1
  rw [expandFrom, if_neg (ne_openBrace_of_isNameChar other), if_neg close, if_pos extend]

/-- The rest of a name is read up to the closing brace. -/
theorem expandFrom_nameChars {name cs : List Char} (begun : name ≠ [])
    (chars : cs.all isNameChar = true) (after : List Char) :
    expandFrom vars (some name) (cs ++ '\x7d' :: after) =
      substitute vars (cs.reverse ++ name) ++ expandFrom vars none after := by
  induction cs generalizing name with
  | nil =>
    rw [List.nil_append, expandFrom, if_neg (by decide), if_pos ⟨rfl, begun⟩]
    rfl
  | cons c cs ih =>
    obtain ⟨other, chars⟩ : isNameChar c = true ∧ cs.all isNameChar = true := by
      simpa using chars
    have extend : extendsName name c = true := by
      rw [extendsName, List.isEmpty_eq_false_iff.2 begun]
      exact other
    rw [List.cons_append, expandFrom_extends vars other extend, ih (List.cons_ne_nil c name) chars]
    simp

/-- A name after an opening brace is read up to the closing one. -/
theorem expandFrom_name {name : List Char} (isName : IsName name) (after : List Char) :
    expandFrom vars (some []) (name ++ '\x7d' :: after) =
      substitute vars name.reverse ++ expandFrom vars none after := by
  cases name with
  | nil => cases isName
  | cons c cs =>
    obtain ⟨start, chars⟩ := isName
    have extend : extendsName [] c = true := start
    rw [List.cons_append, expandFrom_extends vars (isNameChar_of_isNameStart start) extend,
      expandFrom_nameChars vars (List.cons_ne_nil c []) chars, List.reverse_cons]

/-- A placeholder is filled in wherever it stands: an opening brace before it that has come to
nothing yet ends there. -/
theorem expandFrom_around (pending : Option (List Char)) (before : List Char) {name : List Char}
    (isName : IsName name) (after : List Char) :
    expandFrom vars pending (before ++ '\x7b' :: (name ++ '\x7d' :: after)) =
      expandFrom vars pending before ++ substitute vars name.reverse ++
        expandFrom vars none after := by
  -- On what stands before the placeholder: at its end, whatever has begun is broken off by the
  -- opening brace, and before that both texts are read alike.
  fun_induction expandFrom vars pending before with
  | case1 =>
    rw [List.nil_append, expandFrom, if_pos rfl, expandFrom_name vars isName]
    rfl
  | case2 held =>
    rw [List.nil_append, expandFrom, if_pos rfl, expandFrom_name vars isName, List.append_assoc]
  | case3 cs ih => rw [List.cons_append, expandFrom, if_pos rfl, ih]
  | case4 c cs other ih =>
    rw [List.cons_append, expandFrom, if_neg other, ih]
    rfl
  | case5 held cs ih => rw [List.cons_append, expandFrom, if_pos rfl, ih]; simp
  | case6 held c cs other close ih =>
    rw [List.cons_append, expandFrom, if_neg other, if_pos close, ih]
    simp
  | case7 held c cs other close extend ih =>
    rw [List.cons_append, expandFrom, if_neg other, if_neg close, if_pos extend, ih]
  | case8 held c cs other close extend ih =>
    rw [List.cons_append, expandFrom, if_neg other, if_neg close, if_neg extend, ih]
    simp

/-! ## Texts without placeholders -/

/-- No name stands in braces. -/
def Plain (cs : List Char) : Prop :=
  ∀ before name after : List Char, IsName name → cs ≠ before ++ '\x7b' :: (name ++ '\x7d' :: after)

theorem Plain.drop (front : List Char) {cs : List Char} (plain : Plain (front ++ cs)) :
    Plain cs := by
  rintro before name after isName rfl
  exact plain (front ++ before) name after isName (by simp)

/-- The characters of a placeholder that may have begun, first one first. -/
def held : Option (List Char) → List Char
  | none => []
  | some name => unfinished name

/-- What has been read since an opening brace can begin a placeholder. -/
def MayBegin (pending : Option (List Char)) : Prop :=
  ∀ name ∈ pending, name = [] ∨ IsName name.reverse

theorem MayBegin.extend {name : List Char} {c : Char} (begins : MayBegin (some name))
    (extend : extendsName name c = true) : MayBegin (some (c :: name)) := by
  rintro _ ⟨⟩
  right
  obtain rfl | isName := begins name rfl
  · exact ⟨extend, rfl⟩
  · obtain ⟨d, ds, same⟩ := List.exists_cons_of_ne_nil isName.ne_nil
    have begun : name.isEmpty = false := by
      cases name with
      | nil => cases same
      | cons => rfl
    have other : isNameChar c = true := by
      rw [extendsName, begun] at extend
      exact extend
    rw [same] at isName
    rw [List.reverse_cons, same]
    refine ⟨isName.1, ?_⟩
    show (ds ++ [c]).all isNameChar = true
    rw [List.all_append, isName.2, List.all_cons, other]
    rfl

/-- **A text without a placeholder is left as it is**, with what was read of it before. -/
theorem expandFrom_of_plain {pending : Option (List Char)} {cs : List Char}
    (begins : MayBegin pending) (plain : Plain (held pending ++ cs)) :
    expandFrom vars pending cs = held pending ++ cs := by
  have nothing : MayBegin none := nofun
  have brace : MayBegin (some []) := by
    rintro _ ⟨⟩
    exact .inl rfl
  fun_induction expandFrom vars pending cs with
  | case1 => rfl
  | case2 name => exact (List.append_nil _).symm
  | case3 cs ih => exact ih brace plain
  | case4 c cs other ih =>
    rw [ih nothing (plain.drop [c])]
    rfl
  | case5 name cs ih =>
    rw [ih brace (plain.drop (held (some name)))]
    rfl
  | case6 name c cs other close ih =>
    obtain ⟨rfl, begun⟩ := close
    obtain none | isName := begins name rfl
    · exact absurd none begun
    · exact absurd (by simp [held, unfinished]) (plain [] name.reverse cs isName)
  | case7 name c cs other close extend ih =>
    have moved : held (some (c :: name)) ++ cs = held (some name) ++ c :: cs := by
      simp [held, unfinished]
    rw [ih (begins.extend extend) (moved ▸ plain), moved]
  | case8 name c cs other close extend ih =>
    have rest : Plain (held (some name) ++ [c] ++ cs) := by simpa using plain
    rw [ih nothing (rest.drop _)]
    rfl

end

/-! ## Whole texts -/

theorem plain_of_not_holdsPlaceholder {text : String} (without : ¬HoldsPlaceholder text) :
    Plain text.toList := by
  intro before name after isName split
  refine without ⟨.ofList before, .ofList name, .ofList after, by simpa using isName, ?_⟩
  rw [← String.toList_inj, String.toList_append, String.toList_append, toList_placeholder, split]
  simp

theorem fills_expand (vars : Variables) : Fills vars vars.expand where
  around before name after isName := by
    rw [← String.toList_inj]
    simp only [expand, String.toList_append, toList_placeholder, String.toList_ofList]
    rw [← substitute_reverse, List.append_assoc]
    simpa using expandFrom_around vars none before.toList isName after.toList
  plain text without := by
    have nothing : MayBegin none := nofun
    have same := expandFrom_of_plain vars nothing (plain_of_not_holdsPlaceholder without)
    exact (congrArg String.ofList same).trans String.ofList_toList

/-- A text holds no placeholder, or it comes apart at one into two shorter texts. -/
theorem placeholder_induction {motive : String → Prop}
    (around : ∀ before name after : String, IsName name.toList → motive before → motive after →
      motive (before ++ placeholder name ++ after))
    (plain : ∀ text, ¬HoldsPlaceholder text → motive text) (text : String) : motive text := by
  generalize length : text.toList.length = n
  induction n using Nat.strongRecOn generalizing text with
  | ind n ih =>
    by_cases holds : HoldsPlaceholder text
    · obtain ⟨before, name, after, isName, rfl⟩ := holds
      have longer : before.toList.length + after.toList.length < n := by
        rw [← length, String.toList_append, String.toList_append, toList_placeholder]
        simp only [List.length_append, List.length_cons]
        omega
      exact around before name after isName (ih _ (by omega) before rfl) (ih _ (by omega) after rfl)
    · exact plain text holds

/-- **No other function fills in placeholders.** -/
theorem Fills.unique {vars : Variables} {fill fill' : String → String} (fills : Fills vars fill)
    (fills' : Fills vars fill') : fill = fill' := by
  funext text
  induction text using placeholder_induction with
  | around before name after isName front back =>
    rw [fills.around before name after isName, fills'.around before name after isName, front, back]
  | plain text without => rw [fills.plain text without, fills'.plain text without]

/-- Variables that no placeholder can name are not looked at. -/
theorem Fills.congr {vars vars' : Variables} {fill : String → String} (fills : Fills vars fill)
    (same : ∀ name : String, IsName name.toList → vars'.get? name = vars.get? name) :
    Fills vars' fill where
  around before name after isName := by
    rw [filling, same name isName]
    exact fills.around before name after isName
  plain := fills.plain

end Variables

/-- **Expanding is one pass from left to right.** Wherever a placeholder stands in a text, the
text before it and the text after it are expanded apart from each other, and between them stands
the text of the variable, or the placeholder itself if there is no variable of its name. A text
without placeholders stays as it is, and of two stores that differ only in variables that no
placeholder can name the same comes. -/
theorem expand_is_one_pass (vars : Variables) :
    (∀ before name after : String, Variables.IsName name.toList →
      vars.expand (before ++ Variables.placeholder name ++ after) =
        vars.expand before ++
          ((vars.get? name).map Json.asText).getD (Variables.placeholder name) ++
          vars.expand after) ∧
      (∀ text, ¬Variables.HoldsPlaceholder text → vars.expand text = text) ∧
      ∀ vars' : Variables,
        (∀ name : String, Variables.IsName name.toList → vars'.get? name = vars.get? name) →
        ∀ text, vars'.expand text = vars.expand text := by
  have fills := Variables.fills_expand vars
  refine ⟨fills.around, fills.plain, fun vars' same text => ?_⟩
  rw [(Variables.fills_expand vars').unique (fills.congr same)]

namespace Sample

/-- A variable whose text is the placeholder of another one. -/
def nested : Variables := .ofList [("a", .str "\x7bb\x7d"), ("b", .int 1)]

/-- A placeholder that is never closed. -/
def begun : String := "\x7bb"

theorem begun_without_placeholder : ¬Variables.HoldsPlaceholder begun := by
  rintro ⟨before, name, after, -, split⟩
  have closed : '\x7d' ∈ begun.toList := by
    rw [split, String.toList_append, String.toList_append, Variables.toList_placeholder]
    simp
  revert closed
  decide

end Sample

/-- A placeholder that has begun does not reach over the one after it, the placeholder that was put
in stays, and a variable called by a digit is not looked at. -/
theorem begun_placeholder_is_passed_over :
    Variables.IsName "a".toList ∧ ¬Variables.HoldsPlaceholder Sample.begun ∧
      Sample.nested.expand (Sample.begun ++ Variables.placeholder "a" ++ "\x7d") =
        "\x7bb\x7bb\x7d\x7d" ∧
      Variables.expand (Sample.nested.insert "1" .null) (Variables.placeholder "1") =
        Sample.nested.expand (Variables.placeholder "1") := by
  have isName : Variables.IsName "a".toList := ⟨rfl, rfl⟩
  obtain ⟨around, plain, others⟩ := expand_is_one_pass Sample.nested
  refine ⟨isName, Sample.begun_without_placeholder, ?_, ?_⟩
  · rw [around _ _ _ isName, plain _ Sample.begun_without_placeholder]
    rfl
  · refine others _ (fun name isName => ?_) _
    rw [Dict.get?_insert, if_neg]
    rintro rfl
    exact absurd isName.1 (by decide)

end FlowGraph
