import FlowGraph.Proofs.Designations
import FlowGraph.Proofs.Spellings
import FlowGraph.Proofs.Trail
import Mathlib

/-!
# References to flows

A reference is read as a uuid before it is read as a name, both without the blank characters around
it. So every flow is found by its uid, in every spelling; and it is found by its name, in any letter
case, if nothing around the name is blank and the name does not spell a uuid.
-/

namespace FlowGraph

namespace Text

/-! ## Letter case -/

/-- The same text, each ASCII letter in one of the cases. -/
def Recased (s t : String) : Prop :=
  List.Forall₂ (fun c d : Char => d = c.toLower ∨ d = c.toUpper) s.toList t.toList

theorem toLower_eq_toLower {c d : Char} :
    c.toLower = d.toLower ↔ d = c.toLower ∨ d = c.toUpper := by
  constructor
  · intro same
    by_cases upper : d.isUpper
    · have other := Char.not_isLower_of_isUpper upper
      refine .inr ?_
      rw [← Char.toUpper_toLower_eq_toUpper c, same, Char.toUpper_toLower_eq_toUpper,
        Char.toUpper_eq_of_not_isLower other]
    · refine .inl ?_
      rw [same, Char.toLower_eq_of_not_isUpper upper]
  · rintro (rfl | rfl)
    · rw [Char.toLower_toLower_eq_toLower]
    · rw [Char.toLower_toUpper_eq_toLower]

/-- Texts are equal up to the case of ASCII letters if one is the other one recased. -/
theorem eqIgnoringCase_iff {s t : String} : eqIgnoringCase s t = true ↔ Recased s t := by
  rw [eqIgnoringCase, beq_iff_eq, ← List.forall₂_eq_eq_eq, List.forall₂_map_left_iff,
    List.forall₂_map_right_iff]
  simp only [toLower_eq_toLower]
  rfl

theorem eqIgnoringCase_comm (s t : String) : eqIgnoringCase s t = eqIgnoringCase t s :=
  Bool.beq_comm

theorem eqIgnoringCase_trans {s t u : String} (first : eqIgnoringCase s t = true)
    (second : eqIgnoringCase t u = true) : eqIgnoringCase s u = true := by
  unfold eqIgnoringCase at *
  rw [beq_iff_eq] at *
  exact first.trans second

/-! ## Blank characters around a text -/

/-- Only blank characters are left out at the ends of a text. -/
theorem exists_around (cs : List Char) :
    ∃ before after, before.all isBlank = true ∧ after.all isBlank = true ∧
      cs = before ++ (trimChars cs ++ after) := by
  refine ⟨cs.takeWhile isBlank, (cs.dropWhile isBlank).rtakeWhile isBlank, ?_, ?_, ?_⟩
  · exact List.all_eq_true.2 fun c mem => List.mem_takeWhile_imp mem
  · exact List.all_eq_true.2 fun c mem => List.mem_rtakeWhile_imp mem
  · have back : trimChars cs ++ (cs.dropWhile isBlank).rtakeWhile isBlank = cs.dropWhile isBlank :=
      List.rdropWhile_append_rtakeWhile
    rw [back, List.takeWhile_append_dropWhile]

/-- More blank characters around a text make no difference. -/
theorem trim_around {before after : String} (front : allBlank before = true)
    (back : allBlank after = true) (s : String) : trim (before ++ s ++ after) = trim s := by
  obtain ⟨more, more', front', back', split⟩ := exists_around s.toList
  have whole : (before ++ s ++ after).toList =
      (before.toList ++ more) ++ (trimChars s.toList ++ (more' ++ after.toList)) := by
    rw [String.toList_append, String.toList_append]
    nth_rewrite 1 [split]
    simp
  have allFront : (before.toList ++ more).all isBlank = true := by
    rw [List.all_append, front', Bool.and_true]
    exact front
  have allBack : (more' ++ after.toList).all isBlank = true := by
    rw [List.all_append, back', Bool.true_and]
    exact back
  rw [trim, whole, trimChars_around allFront (isTrimmed_trimChars _) allBack, trim]

end Text

namespace Registry

variable {r : Registry} {f : Flow}

/-- No two flows have the same name, up to the case of ASCII letters. -/
def HasDistinctNames (r : Registry) : Prop :=
  r.flows.Pairwise fun f g => Text.eqIgnoringCase f.name g.name = false

/-! ## What lookups find -/

/-- What only one element of a list is, it is found by. -/
theorem find?_eq_some_of_single {α : Type} {p : α → Bool} {l : List α} {x : α}
    (single : l.Pairwise fun x y => ¬(p x = true ∧ p y = true)) :
    l.find? p = some x ↔ x ∈ l ∧ p x = true := by
  induction l with
  | nil => simp
  | cons y l ih =>
    obtain ⟨others, rest⟩ := List.pairwise_cons.1 single
    rw [List.find?_cons]
    cases fits : p y with
    | true =>
      simp only [Option.some.injEq, List.mem_cons]
      constructor
      · rintro rfl
        exact ⟨.inl rfl, fits⟩
      · rintro ⟨rfl | mem, fits'⟩
        · rfl
        · exact absurd ⟨fits, fits'⟩ (others x mem)
    | false =>
      have other : p x = true → x ≠ y := by
        rintro fits' rfl
        exact Bool.false_ne_true (fits.symm.trans fits')
      rw [ih rest, List.mem_cons]
      exact ⟨fun ⟨mem, fits'⟩ => ⟨.inr mem, fits'⟩,
        fun ⟨mem, fits'⟩ => ⟨mem.resolve_left (other fits'), fits'⟩⟩

/-- Under a uid is the flow that has it. -/
theorem flow?_eq_some {uid : Uuid} : r.flow? uid = some f ↔ f ∈ r.flows ∧ f.uid = uid := by
  have single : r.flows.Pairwise fun f g => ¬((f.uid == uid) = true ∧ (g.uid == uid) = true) := by
    refine r.distinct.imp ?_
    rintro f g apart ⟨same, same'⟩
    exact apart ((eq_of_beq same).trans (eq_of_beq same').symm)
  rw [flow?, find?_eq_some_of_single single, beq_iff_eq]

/-- Under a name is the flow that has it in some letter case. -/
theorem flowByName?_eq_some (names : r.HasDistinctNames) {name : String} :
    r.flowByName? name = some f ↔ f ∈ r.flows ∧ Text.eqIgnoringCase f.name name = true := by
  refine find?_eq_some_of_single (names.imp ?_)
  rintro f g apart ⟨same, same'⟩
  rw [Text.eqIgnoringCase_comm] at same'
  rw [Text.eqIgnoringCase_trans same same'] at apart
  cases apart

/-- **A reference means the flow whose uid it spells, or else the flow that it names.** -/
theorem findFlow?_eq_some (names : r.HasDistinctNames) {ref : String} :
    r.findFlow? ref = some f ↔ f ∈ r.flows ∧
      (f.uid.IsSpelled (Text.trim ref).toList ∨
        (∀ uid : Uuid, ¬uid.IsSpelled (Text.trim ref).toList) ∧
          Text.Recased f.name (Text.trim ref)) := by
  simp only [← Uuid.parse?_eq_some, ← Text.eqIgnoringCase_iff]
  unfold findFlow?
  cases spelled : Uuid.parse? (Text.trim ref) with
  | some uid =>
    have another : ¬∀ uid' : Uuid, ¬some uid = some uid' := fun none => none uid rfl
    rw [flow?_eq_some, or_iff_left fun named => another named.1, Option.some.injEq, @eq_comm _ uid]
  | none =>
    have none : ∀ uid : Uuid, ¬(none : Option Uuid) = some uid := nofun
    rw [flowByName?_eq_some names, or_iff_right (none f.uid), and_iff_right none]

/-- **Every flow of a registry is found by its uid and by its name.** With any blank characters
around them, every spelling of its uid means the flow, and, if no two flows have the same name up to
letter case, so does its name in any letter case, unless it spells another uuid or has blank
characters of its own at an end. -/
theorem found_by_uid_and_by_name (registered : f ∈ r.flows) {before after : String}
    (front : Text.allBlank before = true) (back : Text.allBlank after = true) (text : String) :
    (f.uid.IsSpelled text.toList → r.findFlow? (before ++ text ++ after) = some f) ∧
    (r.HasDistinctNames → Text.Recased f.name text →
      f.uid.IsSpelled (Text.trim text).toList ∨
        (∀ uid : Uuid, ¬uid.IsSpelled text.toList) ∧ Text.IsTrimmed text.toList →
      r.findFlow? (before ++ text ++ after) = some f) := by
  constructor
  · intro spelled
    have trimmed := Text.isTrimmed_of_forall spelled.not_isBlank
    rw [findFlow?, Text.trim_around front back, Text.trim_eq_self trimmed,
      Uuid.parse?_eq_some.2 spelled]
    exact flow?_eq_some.2 ⟨registered, rfl⟩
  · intro names recased readable
    refine (findFlow?_eq_some names).2 ⟨registered, ?_⟩
    rw [Text.trim_around front back]
    rcases readable with spelled | ⟨unspelled, trimmed⟩
    · exact .inl spelled
    · rw [Text.trim_eq_self trimmed]
      exact .inr ⟨unspelled, recased⟩

end Registry

namespace Sample

def movies : Flow := Flow.new "Movies" .normal calledFlow

/-- A flow that has the uid of another one for a name. -/
def misnamed : Flow := Flow.new "67E55044-10B1-426F-9247-BB680E5FE0C8" .normal (uid 0)

/-- A flow that has a uid for a name which no flow has. -/
def numbered : Flow :=
  Flow.new "urn:uuid:67e55044-10b1-426f-9247-bb680e5fe0c9" .normal (uid 1)

/-- A flow with blank characters around its name. -/
def padded : Flow := Flow.new " Extras " .normal (uid 2)

/-- A worker that knows flows of various names. -/
def catalogue : Registry := Registry.empty.withFlows [movies, misnamed, numbered, padded]

theorem hasDistinctNames_catalogue : catalogue.HasDistinctNames := by
  unfold Registry.HasDistinctNames
  decide

end Sample

/-- A flow is found by its uid in braces and capitals, and by its name in the other cases. -/
theorem found_in_catalogue :
    Sample.catalogue.findFlow? (" " ++ "\x7b67E55044-10B1-426F-9247-BB680E5FE0C8\x7d" ++ "\n") =
        some Sample.movies ∧
      Sample.catalogue.findFlow? (" " ++ "mOVIES" ++ "\n") = some Sample.movies := by
  have registered : Sample.movies ∈ Sample.catalogue.flows := List.mem_cons_self
  have spelled : Sample.movies.uid.IsSpelled
      "\x7b67E55044-10B1-426F-9247-BB680E5FE0C8\x7d".toList := Uuid.parse?_eq_some.1 (by decide)
  have unspelled : ∀ uid : Uuid, ¬uid.IsSpelled "mOVIES".toList := by
    intro uid spelled
    have reads := Uuid.parse?_eq_some.2 spelled
    cases reads
  have recased : Text.Recased Sample.movies.name "mOVIES" := Text.eqIgnoringCase_iff.1 (by decide)
  have front : Text.allBlank " " = true := rfl
  have back : Text.allBlank "\n" = true := rfl
  have found := Registry.found_by_uid_and_by_name registered front back
  exact ⟨(found _).1 spelled, (found _).2 Sample.hasDistinctNames_catalogue recased
    (.inr ⟨unspelled, Text.isTrimmed_of_any rfl⟩)⟩

/-- A flow is not found by its name if this spells another uid, whether a flow has it or not, nor if
there are blank characters at its ends. -/
theorem missed_in_catalogue :
    Sample.catalogue.HasDistinctNames ∧
      (Sample.misnamed ∈ Sample.catalogue.flows ∧
        Sample.catalogue.findFlow? Sample.misnamed.name = some Sample.movies ∧
        Sample.movies.uid ≠ Sample.misnamed.uid) ∧
      (Sample.numbered ∈ Sample.catalogue.flows ∧
        Sample.catalogue.findFlow? Sample.numbered.name = none) ∧
      Sample.padded ∈ Sample.catalogue.flows ∧
        Sample.catalogue.findFlow? Sample.padded.name = none := by
  refine ⟨Sample.hasDistinctNames_catalogue, ⟨?_, rfl, by decide⟩, ⟨?_, rfl⟩, ?_, rfl⟩
  · exact List.mem_cons_of_mem _ List.mem_cons_self
  · exact List.mem_cons_of_mem _ (List.mem_cons_of_mem _ List.mem_cons_self)
  · exact List.mem_of_getLast? rfl

end FlowGraph
