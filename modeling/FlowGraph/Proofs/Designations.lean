import FlowGraph.Proofs.Overrides
import FlowGraph.StepRef

/-!
# The canonical spelling of a designation

Every way of designating something starts with a word of its own, none of which another one starts
with, so a designation is read by the word that it starts with, whichever is tried first. What can
be meant by a designation (`StepRef.IsMeant`) is trimmed and, if it names a native step, starts
with none of these words; that is all it takes to be read back from its canonical spelling.
-/

namespace FlowGraph

namespace Text

theorem afterPrefix?_append (start rest : String) :
    afterPrefix? start (start ++ rest) = some rest :=
  afterPrefix?_eq_some.2 rfl

/-- A text does not start with another word than the one it starts with. -/
theorem afterPrefix?_of_apart {start start' : String} (apart : ¬start.toList <+: start'.toList)
    (apart' : ¬start'.toList <+: start.toList) (rest : String) :
    afterPrefix? start (start' ++ rest) = none := by
  rw [afterPrefix?_eq_none, String.toList_append]
  intro starts
  exact (List.prefix_or_prefix_of_prefix starts (List.prefix_append _ _)).elim apart apart'

end Text

theorem Uuid.isTrimmed_text (u : Uuid) : Text.IsTrimmed u.text.toList := by
  have digit : ∀ d : Fin 16, Text.isBlank (Text.hexDigit d) = false := by decide
  rw [text, String.toList_ofList]
  exact Text.isTrimmed_of_forall (u.forall_mem_toChars digit (by decide))

namespace StepRef

/-! ## Reading by the first word -/

/-- The name of a native step is none of the marked designations. -/
structure NamesStep (name : String) : Prop where
  script : ¬scriptPrefix.toList <+: name.toList
  subFlow : ¬subFlowPrefix.toList <+: name.toList
  gotoFlow : ¬gotoFlowPrefix.toList <+: name.toList
  subFlowInput : name ≠ subFlowInputName
  subFlowOutput : ¬subFlowOutputName.toList <+: name.toList

theorem parseTrimmed_script (name : String) :
    parseTrimmed (scriptPrefix ++ name) = .ok (.script (Text.trim name)) := by
  rw [parseTrimmed, Text.afterPrefix?_append]

theorem parseTrimmed_subFlow (ref : String) :
    parseTrimmed (subFlowPrefix ++ ref) = .subFlow <$> flowOf ref := by
  rw [parseTrimmed, Text.afterPrefix?_of_apart (by decide) (by decide), Text.afterPrefix?_append]

theorem parseTrimmed_gotoFlow (ref : String) :
    parseTrimmed (gotoFlowPrefix ++ ref) = .gotoFlow <$> flowOf ref := by
  rw [parseTrimmed, Text.afterPrefix?_of_apart (by decide) (by decide),
    Text.afterPrefix?_of_apart (by decide) (by decide), Text.afterPrefix?_append]

theorem parseTrimmed_subFlowInput : parseTrimmed subFlowInputName = .ok .subFlowInput := by
  decide

theorem parseTrimmed_subFlowOutput (suffix : String) :
    parseTrimmed (subFlowOutputName ++ suffix) = .ok (.subFlowOutput (suffix? suffix)) := by
  have other : subFlowOutputName ++ suffix ≠ subFlowInputName := by
    intro same
    have starts : subFlowOutputName.toList <+: subFlowInputName.toList := by
      rw [← same, String.toList_append]
      exact List.prefix_append _ _
    revert starts
    decide
  rw [parseTrimmed, Text.afterPrefix?_of_apart (by decide) (by decide),
    Text.afterPrefix?_of_apart (by decide) (by decide),
    Text.afterPrefix?_of_apart (by decide) (by decide), Text.afterPrefix?_append]
  exact if_neg other

theorem parseTrimmed_native {name : String} (names : NamesStep name) :
    parseTrimmed name = .ok (.native name) := by
  rw [parseTrimmed, Text.afterPrefix?_eq_none.2 names.script,
    Text.afterPrefix?_eq_none.2 names.subFlow, Text.afterPrefix?_eq_none.2 names.gotoFlow,
    Text.afterPrefix?_eq_none.2 names.subFlowOutput]
  exact if_neg names.subFlowInput

/-- **The ways to designate something**, told by the first word. -/
theorem parseTrimmed_cases (element : String) :
    (∃ name, element = scriptPrefix ++ name) ∨ (∃ ref, element = subFlowPrefix ++ ref) ∨
      (∃ ref, element = gotoFlowPrefix ++ ref) ∨ element = subFlowInputName ∨
      (∃ suffix, element = subFlowOutputName ++ suffix) ∨ NamesStep element := by
  have split {start : String} (starts : start.toList <+: element.toList) :
      ∃ rest, element = start ++ rest := by
    obtain ⟨rest, same⟩ := starts
    refine ⟨.ofList rest, ?_⟩
    rw [← String.toList_inj, String.toList_append, String.toList_ofList, same]
  by_cases script : scriptPrefix.toList <+: element.toList
  · exact .inl (split script)
  by_cases subFlow : subFlowPrefix.toList <+: element.toList
  · exact .inr (.inl (split subFlow))
  by_cases gotoFlow : gotoFlowPrefix.toList <+: element.toList
  · exact .inr (.inr (.inl (split gotoFlow)))
  by_cases input : element = subFlowInputName
  · exact .inr (.inr (.inr (.inl input)))
  by_cases output : subFlowOutputName.toList <+: element.toList
  · exact .inr (.inr (.inr (.inr (.inl (split output)))))
  exact .inr (.inr (.inr (.inr (.inr ⟨script, subFlow, gotoFlow, input, output⟩))))

/-! ## What can be meant -/

/-- Some designation means the reference. -/
def IsMeant : StepRef → Prop
  | .native name => Text.IsTrimmed name.toList ∧ NamesStep name
  | .script name => Text.IsTrimmed name.toList
  | .subFlowOutput suffix => ∀ n ∈ suffix, n < UInt32.size
  | .subFlow _ | .gotoFlow _ | .subFlowInput => True

theorem flowOf_of_some {ref : String} {uid : Uuid}
    (found : Uuid.parse? (Text.trim ref) = some uid) : flowOf ref = .ok uid := by
  rw [flowOf, found]

theorem flowOf_of_none {ref : String} (none : Uuid.parse? (Text.trim ref) = none) :
    flowOf ref = .error ⟨ref⟩ := by
  rw [flowOf, none]

theorem suffix?_lt {suffix : String} : ∀ n ∈ suffix? suffix, n < UInt32.size :=
  fun _ reads => Text.lt_of_natBelow? reads

/-- The flow that is designated, after the first word, is missing. -/
def LacksFlow (element ref : String) : Prop :=
  (Text.trim element = subFlowPrefix ++ ref ∨ Text.trim element = gotoFlowPrefix ++ ref) ∧
    Uuid.parse? (Text.trim ref) = none

/-- **What becomes of a designation**: it means something, or it lacks a flow. -/
theorem parse_cases (element : String) :
    (∃ ref, parse element = .ok ref ∧ ref.IsMeant) ∨
      ∃ ref, parse element = .error ⟨ref⟩ ∧ LacksFlow element ref := by
  have trimmed := Text.isTrimmed_trim element
  unfold parse
  obtain ⟨name, split⟩ | ⟨rest, split⟩ | ⟨rest, split⟩ | split | ⟨suffix, split⟩ | names :=
    parseTrimmed_cases (Text.trim element)
  · rw [split, parseTrimmed_script]
    exact .inl ⟨_, rfl, Text.isTrimmed_trim name⟩
  · rw [split, parseTrimmed_subFlow]
    cases found : Uuid.parse? (Text.trim rest) with
    | some uid => exact .inl ⟨.subFlow uid, by rw [flowOf_of_some found]; rfl, trivial⟩
    | none => exact .inr ⟨rest, by rw [flowOf_of_none found]; rfl, .inl split, found⟩
  · rw [split, parseTrimmed_gotoFlow]
    cases found : Uuid.parse? (Text.trim rest) with
    | some uid => exact .inl ⟨.gotoFlow uid, by rw [flowOf_of_some found]; rfl, trivial⟩
    | none => exact .inr ⟨rest, by rw [flowOf_of_none found]; rfl, .inr split, found⟩
  · rw [split, parseTrimmed_subFlowInput]
    exact .inl ⟨_, rfl, trivial⟩
  · rw [split, parseTrimmed_subFlowOutput]
    exact .inl ⟨_, rfl, suffix?_lt⟩
  · rw [parseTrimmed_native names]
    exact .inl ⟨_, rfl, trimmed, names⟩

theorem isMeant_of_parse {element : String} {ref : StepRef} (parses : parse element = .ok ref) :
    ref.IsMeant := by
  obtain ⟨ref', parses', meant⟩ | ⟨rest, fails, -⟩ := parse_cases element
  · rw [parses] at parses'
    cases parses'
    exact meant
  · rw [parses] at fails
    cases fails

/-- A designation is refused just if it lacks a flow. -/
theorem parse_eq_error_iff {element : String} {e : InvalidFlowRef} :
    parse element = .error e ↔ LacksFlow element e.ref := by
  constructor
  · intro fails
    obtain ⟨ref, parses, -⟩ | ⟨rest, fails', lacks⟩ := parse_cases element
    · rw [fails] at parses
      cases parses
    · rw [fails] at fails'
      cases fails'
      exact lacks
  · rintro ⟨split | split, none⟩
    · rw [parse, split, parseTrimmed_subFlow, flowOf_of_none none]
      rfl
    · rw [parse, split, parseTrimmed_gotoFlow, flowOf_of_none none]
      rfl

/-! ## Reading back -/

theorem isTrimmed_append {start rest : String} (solid : start.toList.any Text.isBlank = false)
    (given : start.toList ≠ []) (trimmed : Text.IsTrimmed rest.toList) :
    Text.IsTrimmed (start ++ rest).toList := by
  rw [String.toList_append]
  exact (Text.isTrimmed_of_any solid).append given trimmed

theorem flowOf_text (uid : Uuid) : flowOf uid.text = .ok uid := by
  refine flowOf_of_some ?_
  rw [Text.trim_eq_self uid.isTrimmed_text, Uuid.parse?_text]

theorem toList_toString (n : Nat) : (toString n).toList = Nat.toDigits 10 n := by
  rw [Nat.toString_eq_repr, Nat.repr_eq_ofList_toDigits, String.toList_ofList]

/-- The number of an exit marker is read back from its digits. -/
theorem suffix?_toString {n : Nat} (fits : n < UInt32.size) : suffix? (toString n) = some n := by
  rw [suffix?, toList_toString,
    Text.natBelow?_digits _ Nat.toDigits_ne_nil Text.isDigit_of_mem_toDigits,
    Text.digitsValue_toDigits, if_pos fits]

/-- Nothing around the canonical spelling of what can be meant is left out. -/
theorem IsMeant.isTrimmed_text {ref : StepRef} (meant : ref.IsMeant) :
    Text.IsTrimmed ref.text.toList := by
  cases ref with
  | native name => exact meant.1
  | script name => exact isTrimmed_append rfl (by decide) meant
  | subFlow uid =>
    exact isTrimmed_append rfl (by decide) uid.isTrimmed_text
  | gotoFlow uid =>
    exact isTrimmed_append rfl (by decide) uid.isTrimmed_text
  | subFlowInput => exact Text.isTrimmed_of_any rfl
  | subFlowOutput suffix =>
    cases suffix with
    | none => exact Text.isTrimmed_of_any rfl
    | some n =>
      have digits : Text.IsTrimmed (toString n).toList := by
        rw [toList_toString]
        exact Text.isTrimmed_of_forall fun c mem =>
          Text.isBlank_of_isDigit (Text.isDigit_of_mem_toDigits c mem)
      exact isTrimmed_append rfl (by decide) digits

/-- **What can be meant is read back from its canonical spelling.** -/
theorem parse_text {ref : StepRef} (meant : ref.IsMeant) : parse ref.text = .ok ref := by
  rw [parse, Text.trim_eq_self meant.isTrimmed_text]
  cases ref with
  | native name => exact parseTrimmed_native meant.2
  | script name =>
    rw [text, parseTrimmed_script, Text.trim_eq_self meant]
  | subFlow uid =>
    rw [text, parseTrimmed_subFlow, flowOf_text]
    rfl
  | gotoFlow uid =>
    rw [text, parseTrimmed_gotoFlow, flowOf_text]
    rfl
  | subFlowInput => exact parseTrimmed_subFlowInput
  | subFlowOutput suffix =>
    cases suffix with
    | none => decide
    | some n => rw [text, parseTrimmed_subFlowOutput, suffix?_toString (meant n rfl)]

end StepRef

/-- **The spelling of a parsed designation is canonical**: it is parsed as the same again, whatever
the designation was spelled like. A designation is refused only if it is that of a flow to call or
to switch to, and what follows its first word is no uuid, blanks around it left out. -/
theorem designation_is_read_back (element : String) :
    (∀ ref, StepRef.parse element = .ok ref → StepRef.parse ref.text = .ok ref) ∧
      ∀ e, StepRef.parse element = .error e ↔
        (Text.trim element = StepRef.subFlowPrefix ++ e.ref ∨
            Text.trim element = StepRef.gotoFlowPrefix ++ e.ref) ∧
          Uuid.parse? (Text.trim e.ref) = none :=
  ⟨fun _ parses => StepRef.parse_text (StepRef.isMeant_of_parse parses),
    fun _ => StepRef.parse_eq_error_iff⟩

namespace Sample

/-- A designation of a flow that is not spelled canonically. -/
def looseCall : String := "\tSubFlow:  urn:uuid:67E55044-10b1-426f-9247-bb680e5fe0c8 "

def calledFlow : Uuid where
  digits := "67e5504410b1426f9247bb680e5fe0c8".toList.filterMap Text.hexValue?
  length_digits := by decide

/-- The designation of a script whose name looks like another one. -/
def doubleScript : String := " Script: Script:\n"

end Sample

theorem loose_designations_are_read_back :
    (StepRef.parse Sample.looseCall = .ok (.subFlow Sample.calledFlow) ∧
        StepRef.parse (StepRef.subFlow Sample.calledFlow).text = .ok (.subFlow Sample.calledFlow)) ∧
      (StepRef.parse Sample.doubleScript = .ok (.script "Script:") ∧
        StepRef.parse (StepRef.script "Script:").text = .ok (.script "Script:")) ∧
      StepRef.parse "SubFlowOutput+007 " = .ok (.subFlowOutput (some 7)) ∧
        StepRef.parse (StepRef.subFlowOutput (some 7)).text = .ok (.subFlowOutput (some 7)) := by
  have called : StepRef.parse Sample.looseCall = .ok (.subFlow Sample.calledFlow) := by decide
  have script : StepRef.parse Sample.doubleScript = .ok (.script "Script:") := by decide
  have output : StepRef.parse "SubFlowOutput+007 " = .ok (.subFlowOutput (some 7)) := by decide
  exact ⟨⟨called, (designation_is_read_back _).1 _ called⟩,
    ⟨script, (designation_is_read_back _).1 _ script⟩,
    output, (designation_is_read_back _).1 _ output⟩

end FlowGraph
