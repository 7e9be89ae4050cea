import FlowGraph.Proofs.Ends
import FlowGraph.Proofs.Problems

/-!
# Runs that are canceled before they start

A run whose signal is set when it starts does nothing: no part is counted, resolved or recorded,
and nothing is told. How it ends still depends on the flow, for a walk looks for the entry of its
flow first and at the signal afterwards. A flow with one entry is canceled, and that without a
failure; a flow without an entry, or with several, fails for it, though the run was given up.
-/

namespace FlowGraph

namespace Flow

/-- What is wrong with a flow that has no entry, or more than one. -/
def entryProblem (flow : Flow) : Problem :=
  if flow.entries = 0 then .noEntryPart flow.name
  else .multipleEntryParts flow.name flow.entries

/-- A flow is entered at its only part without inputs, or else not at all. -/
theorem entryPart_cases (flow : Flow) :
    (flow.entries = 1 ∧ ∃ entry, flow.entryPart = .ok entry) ∨
      (flow.entries ≠ 1 ∧ flow.entryPart = .error flow.entryProblem) := by
  have problems := flow.entryProblems_eq
  rw [entryProblems] at problems
  cases found : flow.entryPart with
  | ok entry =>
    rw [found] at problems
    left
    refine ⟨?_, entry, rfl⟩
    grind
  | error e =>
    rw [found] at problems
    right
    rw [entryProblem]
    grind

end Flow

section
variable {site : Site} {registry : Registry} {flow : Flow} {st : Standing}

/-- The walk of a canceled run does not get past the entry of its flow: it is canceled there, or
fails for want of one. -/
theorem walkFlow_of_canceled (shallow : st.context.depth ≤ maxFlowDepth)
    (stopped : st.ledger.canceled = true) :
    walkFlow site registry flow st =
      if flow.entries = 1 then (.canceled, st)
      else (.failed, st.failAt flow "entry" flow.entryProblem.message) := by
  obtain ⟨single, entry, found⟩ | ⟨other, none⟩ := flow.entryPart_cases
  · rw [if_pos single]
    exact comesTo_walk_iff.1 (.enter shallow found (.canceled stopped))
  · rw [if_neg other]
    exact comesTo_walk_iff.1 (.noEntry shallow none)

/-- A run that is canceled before it starts reports what its walk comes to at the entry. -/
theorem runFlow_of_canceled (shallow : st.context.depth ≤ maxFlowDepth)
    (stopped : st.ledger.canceled = true) :
    runFlow site registry flow st =
      if flow.entries = 1 then reportRun flow .canceled (prepareRun site flow st)
      else reportRun flow .failed
        ((prepareRun site flow st).failAt flow "entry" flow.entryProblem.message) := by
  have walk : walkFlow site registry flow (prepareRun site flow st) = _ :=
    walkFlow_of_canceled shallow stopped
  rw [runFlow, walk]
  split <;> rfl

end

/-- **A run that is canceled before it starts does nothing**: it executes, counts and records no
part and tells nothing. If its flow has one entry it is canceled, and tells of no failure; if the
flow has none or several, the run has failed for that, at the entry. -/
theorem run_canceled_before_does_nothing (site : Site) (registry : Registry) (flow : Flow)
    (file : Path) (vars : Variables) :
    let run := runFlow site registry flow (.fresh file vars true)
    (run.1.executedSteps = [] ∧ run.1.lastCode = none ∧ run.2.ledger.executed = 0 ∧
        run.2.ledger.journal = []) ∧
      (flow.entries = 1 → run.1.state = .canceled ∧ run.1.failureReason = none ∧
        run.1.failedStep = none ∧ run.1.failedFlow = none) ∧
      (flow.entries ≠ 1 → run.1.state = .failed ∧
        run.1.failureReason = some flow.entryProblem.message ∧
        run.1.failedStep = some "entry" ∧ run.1.failedFlow = some flow.name) := by
  have run : runFlow site registry flow (.fresh file vars true) = _ :=
    runFlow_of_canceled (Nat.zero_le maxFlowDepth) rfl
  simp only [run]
  refine ⟨?_, fun single => ?_, fun other => ?_⟩
  · split <;> exact ⟨rfl, rfl, rfl, rfl⟩
  · rw [if_pos single]
    exact ⟨rfl, rfl, rfl, rfl⟩
  · rw [if_neg other]
    exact ⟨rfl, rfl, rfl, rfl⟩

namespace Sample

/-- A flow that leads nowhere: its only connection ends at a part that is not there, and the one
part stands in it twice, with inputs and without. -/
def broken : Flow :=
  { Flow.new "broken" .normal (uid 9) with
    parts := [(Part.new "Absent" (uid 1)).connect 1 (uid 2), (Part.new "Absent" (uid 1)).entry] }

/-- A flow without parts. -/
def hollow : Flow := Flow.new "hollow" .normal (uid 8)

end Sample

/-- The problems of a flow are no failure of a run that is canceled, as long as it has one entry. -/
theorem broken_flow_is_canceled :
    Sample.broken.problems ≠ [] ∧ Sample.broken.entries = 1 ∧
      (runFlow Sample.site .empty Sample.broken (.fresh ⟨"in/a.txt"⟩ .empty true)).1.state =
        .canceled ∧
      Sample.hollow.entries ≠ 1 ∧
      (runFlow Sample.site .empty Sample.hollow (.fresh ⟨"in/a.txt"⟩ .empty true)).1.failedFlow =
        some "hollow" := by
  obtain ⟨-, canceled, -⟩ :=
    run_canceled_before_does_nothing Sample.site .empty Sample.broken ⟨"in/a.txt"⟩ .empty
  obtain ⟨-, -, fails⟩ :=
    run_canceled_before_does_nothing Sample.site .empty Sample.hollow ⟨"in/a.txt"⟩ .empty
  exact ⟨by decide, by decide, (canceled (by decide)).1, by decide, (fails (by decide)).2.2.2⟩

/-- A run that is canceled before it starts fails if its flow has no parts. -/
theorem hollow_flow_fails_though_canceled :
    (runFlow Sample.site .empty Sample.hollow (.fresh ⟨"in/a.txt"⟩ .empty true)).1.state =
        .failed ∧
      (runFlow Sample.site .empty Sample.hollow
          (.fresh ⟨"in/a.txt"⟩ .empty true)).1.failureReason =
        some "flow 'hollow' has no entry part" := by
  have run : runFlow Sample.site .empty Sample.hollow (.fresh ⟨"in/a.txt"⟩ .empty true) = _ :=
    runFlow_of_canceled (Nat.zero_le maxFlowDepth) rfl
  rw [run]
  exact ⟨rfl, rfl⟩

end FlowGraph
