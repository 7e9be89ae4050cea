import FlowGraph.Proofs.Blame

/-!
# What a failed run tells

A run that fails always gives a reason, and it tells the step that it failed on together with
the flow or neither of them. Every walk that fails has noted a place, so a place is missing only
if the walk of the run did not fail itself but was left at a marker: a marker hands its result
to the part that called the flow, and nobody has called the flow of a run.
-/

namespace FlowGraph

/-- A run fails if a part that called its walk would. -/
theorem isFailure_runState {exit : Exit} :
    exit.runState.isFailure = true ↔ exit.asStepResult.Fails := by
  cases exit with
  | returned result =>
    cases result <;>
      simp [Exit.runState, RunState.isFailure, Exit.asStepResult, StepResult.Fails]
  | _ => simp [Exit.runState, RunState.isFailure, Exit.asStepResult, StepResult.Fails,
      StepResult.success]

theorem isSome_failAt (st : Standing) (flow : Flow) (step reason : String) :
    (st.failAt flow step reason).context.failedAt.isSome := by
  simp [Standing.failAt, Context.failAt, Context.markFailedAt]

section
variable {site : Site} {registry : Registry}

/-- A walk that fails has noted a place. -/
theorem ComesTo.isSome_failedAt {work : Work} {st st' : Standing} {reply : Reply}
    (h : ComesTo site registry work st reply st') {flow : Flow} {exit : Exit}
    (walks : work = .walk flow ∨ ∃ uid, work = .goOn flow uid) (leaves : reply = .leave exit)
    (fails : exit.Fails) : st'.context.failedAt.isSome := by
  induction h generalizing flow with
  | tooDeep deep => exact isSome_failAt _ _ _ _
  | noEntry shallow none => exact isSome_failAt _ _ _ _
  | missing live none => exact isSome_failAt _ _ _ _
  | enter shallow found rest ih => exact ih (.inr ⟨_, rfl⟩) leaves
  | canceled stopped =>
    cases leaves
    rcases fails with h | h <;> cases h
  | refused live found full => simp [Turn.refuse, Context.markFailedAt]
  | @last _ _ _ _ _ _ reply _ live found room work leads =>
    cases leaves
    cases reply with
    | done result =>
      rw [leave_of_follow leads, fails_endOf_iff] at fails
      rw [follow_failedAt leads fails]
      simp
    | leave exit =>
      cases leads
      rw [work.failedAt_leave fails]
      simp
    | goOn flow' uid => cases leads
  | next live found room work leads rest ih ih' => exact ih' (.inr ⟨_, rfl⟩) leaves
  | _ => rcases walks with walks | ⟨uid, walks⟩ <;> cases walks

end

/-- **A run that fails tells why, and where unless a marker ended it.** A reason is given exactly
if the run fails, a step exactly if a flow is, and both only if the run fails. If they are
missing then, the last thing that happened was that a marker returned a result that fails. -/
theorem failed_run_tells_reason_and_place (site : Site) (registry : Registry) (flow : Flow)
    (st : Standing) :
    ((runFlow site registry flow st).1.state.isFailure = true ↔
        (runFlow site registry flow st).1.failureReason.isSome) ∧
      ((runFlow site registry flow st).1.failedStep.isSome ↔
        (runFlow site registry flow st).1.failedFlow.isSome) ∧
      ((runFlow site registry flow st).1.failedStep.isSome →
        (runFlow site registry flow st).1.state.isFailure = true) ∧
      ((runFlow site registry flow st).1.state.isFailure = true →
        (runFlow site registry flow st).1.failedStep = none →
        ∃ marked marker result depth earlier vars,
          (runFlow site registry flow st).2.ledger.journal =
            .finished marked marker result depth :: earlier ∧
          Task.ofPart registry vars marker = .ok (.subFlowOutput result) ∧ result.Fails) := by
  obtain ⟨exit, final, walk, run⟩ := runFlow_comesTo site registry flow st
  rw [run]
  refine ⟨?_, ?_, ?_, ?_⟩
  · rw [reportRun_state, reportRun_failureReason]
    cases exit.runState <;> simp [RunState.isFailure, runReason]
  · simp [reportRun]
  · intro told
    cases failure : exit.runState.isFailure with
    | true => exact failure
    | false => simp [reportRun, failure] at told
  · intro failure untold
    have failure : exit.runState.isFailure = true := failure
    have unnoted : final.context.failedAt = none := by
      simpa [reportRun, failure] using untold
    rcases Exit.fails_or_returned (isFailure_runState.1 failure) with fails | ⟨result, rfl⟩
    · have noted := walk.isSome_failedAt (.inl rfl) rfl fails
      simp [unnoted] at noted
    · obtain ⟨marked, marker, before, vars, task, rfl⟩ := walk.returned (.inl rfl) rfl
      rw [reportRun_ledger]
      exact ⟨marked, marker, result, _, _, vars, rfl, task, isFailure_runState.1 failure⟩

namespace Sample

/-- A marker that returns a failure. -/
def failingMarker : Part :=
  ((Part.new "SubFlowOutput" default).entry.withModel "Output" (.int (-1))).named "Out"

/-- A flow that is left at the marker. -/
def direct : Flow := { Flow.new "direct" .normal default with parts := [failingMarker] }

end Sample

/-- A run that a marker ends with a failure tells no place. -/
theorem failing_marker_tells_no_place :
    (runFlow Sample.site .empty Sample.direct Sample.start).1.state = .failed ∧
      (runFlow Sample.site .empty Sample.direct Sample.start).1.failureReason =
        some "flow 'direct' failed" ∧
      (runFlow Sample.site .empty Sample.direct Sample.start).1.failedStep = none ∧
      (runFlow Sample.site .empty Sample.direct Sample.start).1.failedFlow = none := by
  have task : Task.ofPart .empty (prepareRun Sample.site Sample.direct Sample.start).context.vars
      Sample.failingMarker = .ok (.subFlowOutput .failure) := rfl
  have walk : ComesTo Sample.site .empty (.walk Sample.direct)
      (prepareRun Sample.site Sample.direct Sample.start) (.leave (.returned .failure)) _ :=
    .enter (by decide) rfl (.last rfl rfl (by decide) (.marker task) rfl)
  rw [runFlow, comesTo_walk_iff.1 walk]
  exact ⟨rfl, by decide, rfl, rfl⟩

end FlowGraph
