import FlowGraph.Proofs.Designations
import FlowGraph.Task

/-!
# The result of a numbered exit

An exit marker returns the result whose code stands in its configuration, or else at the end of
its name, or else 1. Digits at the end of the name are read as a number of 32 bits. Up to the
highest output they name the result that is returned, and beyond it the marker is refused; a number
that does not fit 32 bits is not read at all, so the marker returns what one without a number does.
-/

namespace FlowGraph

theorem StepResult.isSome_ofCode?_natCast {n : Nat} :
    (ofCode? n).isSome = true ↔ n ≤ maxOutput := by
  have highest : maxOutput = 99 := rfl
  unfold ofCode?
  grind

/-- The number of an exit marker is read if it fits 32 bits. -/
theorem StepRef.suffix?_digits {d : String} (given : d ≠ "")
    (digits : ∀ c ∈ d.toList, c.isDigit = true) :
    suffix? d =
      if Text.digitsValue d.toList < UInt32.size then some (Text.digitsValue d.toList) else none :=
  Text.natBelow?_digits _ (mt String.toList_eq_nil_iff.1 given) digits

theorem StepRef.parse_numbered_exit {d : String} (digits : ∀ c ∈ d.toList, c.isDigit = true) :
    parse (subFlowOutputName ++ d) = .ok (.subFlowOutput (suffix? d)) := by
  have trimmed : Text.IsTrimmed d.toList :=
    Text.isTrimmed_of_forall fun c mem => Text.isBlank_of_isDigit (digits c mem)
  have trimmed' : Text.IsTrimmed (subFlowOutputName ++ d).toList :=
    isTrimmed_append rfl (by decide) trimmed
  rw [parse, Text.trim_eq_self trimmed', parseTrimmed_subFlowOutput]

/-- An exit marker whose configuration holds no code has the code at the end of its name. -/
theorem Task.ofPart_exit {r : Registry} {vars : Variables} {p : Part} {suffix : Option Nat}
    (designated : p.stepRef = .ok (.subFlowOutput suffix))
    (unset : (p.effectiveModel vars).field? Json.int64 outputField = none) :
    ofPart r vars p =
      match StepResult.ofCode? (suffix.getD 1) with
      | some result => .ok (.subFlowOutput result)
      | none => .error (.invalidOutputCode (suffix.getD 1)) := by
  have code : outputCode (p.effectiveModel vars) suffix = suffix.getD 1 := by
    rw [outputCode, unset]
    cases suffix <;> rfl
  rw [← code, ofPart, designated]
  rfl

/-- **A number at the end of an exit marker is its result**, if the configuration of the marker
holds no code: the result of that code if there is one, up to the highest output; above it, the
marker is refused. But a number of more than 32 bits makes the marker return output 1. -/
theorem numbered_exit_resolves (r : Registry) (vars : Variables) (p : Part) {d : String}
    (given : d ≠ "") (digits : ∀ c ∈ d.toList, c.isDigit = true)
    (element : p.element = StepRef.subFlowOutputName ++ d)
    (unset : (p.effectiveModel vars).field? Json.int64 Task.outputField = none) :
    (Text.digitsValue d.toList ≤ StepResult.maxOutput →
        ∃ result, StepResult.ofCode? (Text.digitsValue d.toList) = some result ∧
          Task.ofPart r vars p = .ok (.subFlowOutput result)) ∧
      (StepResult.maxOutput < Text.digitsValue d.toList →
        Text.digitsValue d.toList < UInt32.size →
          Task.ofPart r vars p = .error (.invalidOutputCode (Text.digitsValue d.toList))) ∧
      (UInt32.size ≤ Text.digitsValue d.toList →
        Task.ofPart r vars p = .ok (.subFlowOutput .success)) := by
  have designated : p.stepRef = .ok (.subFlowOutput (StepRef.suffix? d)) := by
    rw [Part.stepRef, element, StepRef.parse_numbered_exit digits]
  rw [StepRef.suffix?_digits given digits] at designated
  have fits : StepResult.maxOutput < UInt32.size := by decide
  refine ⟨fun low => ?_, fun high below => ?_, fun beyond => ?_⟩
  · obtain ⟨result, found⟩ := Option.isSome_iff_exists.1 (StepResult.isSome_ofCode?_natCast.2 low)
    rw [if_pos (low.trans_lt fits)] at designated
    refine ⟨result, found, ?_⟩
    rw [Task.ofPart_exit designated unset, Option.getD_some, found]
  · have missing : StepResult.ofCode? (Text.digitsValue d.toList) = none := by
      rw [← Option.not_isSome_iff_eq_none, StepResult.isSome_ofCode?_natCast]
      exact high.not_ge
    rw [if_pos below] at designated
    rw [Task.ofPart_exit designated unset, Option.getD_some, missing]
  · rw [if_neg beyond.not_gt] at designated
    rw [Task.ofPart_exit designated unset]
    rfl

namespace Sample

/-- An exit marker with a number, and with null where its configuration could hold a code. -/
def exit (number : String) : Part :=
  (Part.new (StepRef.subFlowOutputName ++ number) default).withModel Task.outputField .null

theorem exit_unset (number : String) :
    ((exit number).effectiveModel .empty).field? Json.int64 Task.outputField = none :=
  rfl

end Sample

/-- Zeros in front do not count, and a number above the highest output is refused. -/
theorem numbered_exits_resolve :
    (∃ result, StepResult.ofCode? 42 = some result ∧
        Task.ofPart .empty .empty (Sample.exit "0042") = .ok (.subFlowOutput result)) ∧
      Task.ofPart .empty .empty (Sample.exit "4294967295") =
        .error (.invalidOutputCode 4294967295) := by
  obtain ⟨low, -⟩ := numbered_exit_resolves .empty .empty (Sample.exit "0042") (by decide)
    (List.all_eq_true.1 (by decide)) rfl (Sample.exit_unset _)
  obtain ⟨-, high, -⟩ := numbered_exit_resolves .empty .empty (Sample.exit "4294967295")
    (by decide) (List.all_eq_true.1 (by decide)) rfl (Sample.exit_unset _)
  exact ⟨low (by decide), high (by decide) (by decide)⟩

/-- The least number that does not fit 32 bits is above every output, and is output 1. -/
theorem oversized_number_is_output_one :
    StepResult.maxOutput < Text.digitsValue "4294967296".toList ∧
      ((Sample.exit "4294967296").effectiveModel .empty).field? Json.int64 Task.outputField = none ∧
      Task.ofPart .empty .empty (Sample.exit "4294967296") = .ok (.subFlowOutput .success) := by
  have designated : (Sample.exit "4294967296").stepRef = .ok (.subFlowOutput none) := by decide
  refine ⟨by decide, Sample.exit_unset _, ?_⟩
  rw [Task.ofPart_exit designated (Sample.exit_unset _)]
  rfl

end FlowGraph
