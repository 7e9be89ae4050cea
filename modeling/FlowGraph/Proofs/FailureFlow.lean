import FlowGraph.Proofs.FileFacts
import FlowGraph.Proofs.Records
import FlowGraph.Proofs.StoredLogs
import FlowGraph.Worker

/-!
# The failure flow beside the main run

A run that has failed may be followed by a run of the failure flow. The two runs share the node,
the registry and the signal to cancel; the later one begins with what the earlier one says of its
failure and with nothing else of it, and takes nothing back: what is reported and logged is the
main run, and the log tells how the failure flow has ended beside that.
-/

namespace FlowGraph

/-- What is known of a failure, under the names of the variables that tell it. -/
def RunResult.failureFacts (r : RunResult) : List (String × Json) :=
  [("FailedStep", .str (r.failedStep.getD "")), ("FailedFlow", .str (r.failedFlow.getD "")),
   ("FailureReason", .str (r.failureReason.getD ""))]

/-- The seeds of the failure flow are what is known of the failure. -/
theorem RunResult.get?_failureFlowVariables (r : RunResult) (key : String) :
    r.failureFlowVariables.get? key = r.failureFacts.lookup key := by
  have distinct : (r.failureFacts.map Prod.fst).Nodup := by
    show ["FailedStep", "FailedFlow", "FailureReason"].Nodup
    decide
  exact (Dict.get?_insertAll_of_distinct distinct .empty key).trans Option.or_none

/-- What is known of a file that is the original and the working file. -/
def Scope.factsOf (file : Path) : List (String × Json) :=
  originalFileFacts file ++ workingFileFacts file

/-- The variables of a scope that is made for a file are the facts of the file and what it is made
over. -/
theorem Scope.get?_forFile (file : Path) (vars : Variables) (key : String) :
    (forFile file vars).vars.get? key = ((factsOf file).lookup key).or (vars.get? key) := by
  have distinct : ((factsOf file).map Prod.fst).Nodup := by
    show fileKeys.Nodup
    decide
  have put : (forFile file vars).vars = vars.insertAll (factsOf file) := by
    simp only [forFile, factsOf, Dict.insertAll, List.foldl_append]
  rw [put, Dict.get?_insertAll_of_distinct distinct]

/-- A run begins with the variables that are there, and with those of the flow under other names. -/
theorem get?_prepareRun (site : Site) (flow : Flow) (st : Standing) (key : String) :
    (prepareRun site flow st).context.vars.get? key =
      (st.context.vars.get? key).or (flow.vars.get? key) :=
  Dict.get?_overlay flow.vars st.context.vars key

/-! ## What a run records can be written -/

/-- A part finishes at a depth where flows are walked. -/
def Event.FinishesShallow : Event → Prop
  | .finished _ _ _ depth => depth ≤ maxFlowDepth
  | _ => True

theorem Event.finishesShallow_lawful (site : Site) (registry : Registry) :
    Event.Law site registry fun _ e => e.FinishesShallow where
  outward h := h
  notice _ _ := trivial
  tooDeep _ _ := trivial
  refused _ _ _ := trivial
  barred _ _ _ := trivial
  started _ _ := trivial
  finished _ shallow := shallow
  marker _ shallow := shallow

/-- The code of a result is a number of 32 bits with a sign. -/
theorem StepResult.code_mem_bits (r : StepResult) :
    -0x80000000 ≤ r.code ∧ r.code ≤ 0x7fffffff := by
  cases r with
  | output n =>
    have low : -0x80000000 ≤ (n : Int).bmod UInt32.size := Int.le_bmod (by decide)
    have high : (n : Int).bmod UInt32.size < 0x80000000 := Int.bmod_lt (by decide)
    exact ⟨low, Int.le_of_lt_add_one high⟩
  | completed | failure | canceled | terminalExit => decide

/-- The numbers that a run records have the bits of their fields. -/
theorem fits_of_mem_executedSteps {site : Site} {registry : Registry} {flow : Flow} {c : Context}
    {ceiling clock : Nat} {canceled : Bool} {s : ExecutedStep}
    (mem : s ∈ (runFlow site registry flow ⟨c, .fresh ceiling canceled clock⟩).1.executedSteps) :
    s.Fits := by
  rw [executedSteps_runFlow] at mem
  obtain ⟨exit, final, walk, run⟩ :=
    runFlow_comesTo site registry flow ⟨c, .fresh ceiling canceled clock⟩
  rw [run, reportRun_ledger] at mem
  obtain ⟨news, journal, shallow⟩ :=
    walk.tells (Event.finishesShallow_lawful site registry) trivial
  have journal : final.ledger.journal = news := journal.trans (List.append_nil _)
  rw [journal] at mem
  obtain ⟨i, bound, rfl⟩ := List.mem_mapIdx.1 mem
  obtain ⟨e, told, shown⟩ := List.mem_filterMap.1 (List.getElem_mem bound)
  obtain ⟨flow, part, result, depth, rfl, -, record⟩ := Event.record?_eq_some.1 shown
  have shallow : depth ≤ maxFlowDepth := shallow _ (List.mem_reverse.1 told)
  have room : maxFlowDepth < UInt32.size := by decide
  have step : (i + 1) % UInt32.size < UInt32.size := Nat.mod_lt _ (by decide)
  have duration : 0 < UInt64.size := by decide
  rw [record]
  exact ⟨step, result.code_mem_bits, duration, Nat.lt_of_le_of_lt shallow room⟩

namespace Worker

/-- Where the failure flow begins after a main run: with the file and the depth of that, in a
context and with a ledger of its own, which goes on with the time only, and with the facts of the
file, those of the failure and the variables of the flow as its only variables. -/
structure BeginsAfter (site : Site) (handler : Flow) (file : Path) (main : FinishedRun)
    (st : Standing) : Prop where
  workingFile : st.context.workingFile = file
  originalFile : st.context.originalFile = file
  vars : ∀ key, st.context.vars.get? key =
    (((Scope.factsOf file).lookup key).or (main.result.failureFacts.lookup key)).or
      (handler.vars.get? key)
  reason : st.context.failureReason = main.result.failureReason
  failedAt : st.context.failedAt = none
  lastCode : st.context.lastCode = none
  depth : st.context.depth = 0
  ledger : st.ledger =
    .fresh (site.settings.stepCeiling handler.maxNodes) main.final.ledger.canceled
      main.final.ledger.clock

theorem beginsAfter_failureStart (site : Site) (handler : Flow) (file : Path)
    (main : FinishedRun) :
    BeginsAfter site handler file main (prepareRun site handler (failureStart file main)) where
  workingFile := rfl
  originalFile := rfl
  vars key := by
    -- The facts of the file go over the seeds, and the flow's own variables under both.
    have begun : (failureStart file main).context.vars =
        (Scope.forFile file main.result.failureFlowVariables).vars := rfl
    rw [get?_prepareRun, begun, Scope.get?_forFile, RunResult.get?_failureFlowVariables]
  reason := rfl
  failedAt := rfl
  lastCode := rfl
  depth := rfl
  ledger := rfl

/-- What the report of a run tells: the main run is that of the flow by itself; the failure flow
was started just if that is asked for, the main run has failed and there is such a flow, and its
run is one that begins after the main run; and the log, as it is written and as it is read back, is
that of the main run with the state of the failure flow. -/
structure RunsApart (site : Site) (registry : Registry) (flow : Flow) (file : Path)
    (options : RunOptions) (report : WorkerReport) : Prop where
  main : report.main =
    finish (runFlow site registry flow (.fresh file options.vars options.canceled))
  started : report.failure.isSome = true ↔
    options.failureFlow = true ∧
      (report.main.result.state = .failed ∨ report.main.result.state = .terminalExit) ∧
      registry.failureFlow?.isSome = true
  apart : ∀ handled ∈ report.failure, ∃ handler begin exit final,
    registry.failureFlow? = some handler ∧ BeginsAfter site handler file report.main begin ∧
      ComesTo site registry (.walk handler) begin (.leave exit) final ∧
      handled = finish (reportRun handler exit final)
  state : report.log.finalState = some report.main.result.state
  reason : report.log.failureReason = report.main.result.failureReason
  steps : report.log.steps = report.main.result.executedSteps
  failureState : report.log.failureFlowState = report.failure.map fun r => r.result.state
  written : ∀ dir ∈ options.runDir, report.files.read (RunLog.pathIn dir) = .ok report.log.bytes
  loaded : ∀ dir ∈ options.runDir, RunLog.load report.files (RunLog.pathIn dir) = .ok report.log

theorem isFailure_iff {state : RunState} :
    state.isFailure = true ↔ state = .failed ∨ state = .terminalExit := by
  cases state <;> simp [RunState.isFailure]

section
variable {site : Site} {registry : Registry} {file : Path} {options : RunOptions}
  {main : FinishedRun}

theorem isSome_runFailure :
    (runFailure site registry file options main).isSome = true ↔
      options.failureFlow = true ∧
        (main.result.state = .failed ∨ main.result.state = .terminalExit) ∧
        registry.failureFlow?.isSome = true := by
  rw [← isFailure_iff, runFailure, ← and_assoc, ← Bool.and_eq_true]
  split
  · simp [*]
  · simp [*]

/-- The run of the failure flow is a walk from where it begins. -/
theorem exists_of_runFailure {handled : FinishedRun}
    (ran : runFailure site registry file options main = some handled) :
    ∃ handler begin exit final, registry.failureFlow? = some handler ∧
      BeginsAfter site handler file main begin ∧
      ComesTo site registry (.walk handler) begin (.leave exit) final ∧
      handled = finish (reportRun handler exit final) := by
  unfold runFailure at ran
  split at ran
  · obtain ⟨handler, found, rfl⟩ := Option.map_eq_some_iff.1 ran
    obtain ⟨exit, final, walk, run⟩ :=
      runFlow_comesTo site registry handler (failureStart file main)
    exact ⟨handler, _, exit, final, found, beginsAfter_failureStart site handler file main, walk,
      congrArg finish run⟩
  · cases ran

/-- What a report holds, and that its log was written if there is a folder for it: into the files
as they are when all runs are over. -/
theorem parts_of_runFile {uid : Uuid} {flow : Flow} {times : RunTimes} {report : WorkerReport}
    (found : registry.flow? uid = some flow)
    (ran : runFile site registry uid file options times = .ok report) :
    report.main = runMain site registry flow file options ∧
      report.failure = runFailure site registry file options report.main ∧
      report.log = logOf flow file times report.main report.failure ∧
      (options.runDir = none → report.files = filesAfter site report.main report.failure) ∧
      ∀ dir ∈ options.runDir, ∃ p,
        report.log.writeTo dir (filesAfter site report.main report.failure) =
          .ok (report.files, p) := by
  unfold runFile at ran
  rw [found] at ran
  dsimp only at ran
  split at ran
  · rename_i nowhere
    cases ran
    refine ⟨rfl, rfl, rfl, fun _ => rfl, ?_⟩
    intro dir mem
    rw [nowhere] at mem
    cases mem
  · rename_i dir somewhere
    split at ran
    · rename_i files p writes
      cases ran
      refine ⟨rfl, rfl, rfl, fun nowhere => ?_, ?_⟩
      · cases somewhere.symm.trans nowhere
      intro dir' mem
      rw [somewhere] at mem
      cases mem
      exact ⟨p, writes⟩
    · cases ran

/-- A run gives no report just if the log cannot be written that the same run reports without a
folder for it. -/
theorem error_of_runFile {uid : Uuid} {flow : Flow} {times : RunTimes} {e : WorkerError}
    (found : registry.flow? uid = some flow)
    (ran : runFile site registry uid file options times = .error e) :
    ∃ bare, runFile site registry uid file { options with runDir := none } times = .ok bare ∧
      ∃ dir ∈ options.runDir, ∃ refused,
        bare.log.writeTo dir bare.files = .error refused ∧ e = .unwrittenLog refused := by
  have reports : ∃ bare,
      runFile site registry uid file { options with runDir := none } times = .ok bare ∧
        bare.log = logOf flow file times (runMain site registry flow file options)
          (runFailure site registry file options (runMain site registry flow file options)) ∧
        bare.files = filesAfter site (runMain site registry flow file options)
          (runFailure site registry file options (runMain site registry flow file options)) := by
    unfold runFile
    rw [found]
    exact ⟨_, rfl, rfl, rfl⟩
  obtain ⟨bare, ok, log, files⟩ := reports
  refine ⟨bare, ok, ?_⟩
  rw [log, files]
  unfold runFile at ran
  rw [found] at ran
  dsimp only at ran
  split at ran
  · cases ran
  · rename_i dir somewhere
    split at ran
    · cases ran
    · rename_i refused fails
      cases ran
      exact ⟨dir, somewhere, refused, fails, rfl⟩

theorem runsApart_of_runFile {uid : Uuid} {flow : Flow} {times : RunTimes} {report : WorkerReport}
    (found : registry.flow? uid = some flow)
    (ran : runFile site registry uid file options times = .ok report) :
    RunsApart site registry flow file options report := by
  obtain ⟨main, failure, log, -, written⟩ := parts_of_runFile found ran
  have read : ∀ dir ∈ options.runDir,
      report.files.read (RunLog.pathIn dir) = .ok report.log.bytes := by
    intro dir mem
    obtain ⟨p, writes⟩ := written dir mem
    obtain ⟨rfl, -⟩ := RunLog.writes_of_writeTo writes
    exact RunLog.read_writeTo writes
  have fits : report.log.Fits := by
    have version : RunLog.currentVersion < UInt32.size := by decide
    rw [log]
    refine ⟨version, fun s recorded => ?_⟩
    rw [main] at recorded
    exact fits_of_mem_executedSteps (c := .forFile file options.vars) recorded
  exact {
    main := main
    started := by rw [failure, isSome_runFailure]
    apart := fun handled mem => exists_of_runFailure (failure ▸ mem)
    state := by rw [log]; rfl
    reason := by rw [log]; rfl
    steps := by rw [log]; rfl
    failureState := by rw [log]; rfl
    written := read
    loaded := fun dir mem => fits.load (read dir mem) }

end

end Worker

/-- **The failure flow runs apart from the main run.** Whenever a registered flow is run on a file,
the failure flow is started at most once, and just if that is asked for, the main run has failed
and there is such a flow. It begins afresh with the file that the main run was given, with nothing
counted, and its variables are the facts of that file, those of the failure and its own. However it
ends, the result and the log are those of the main run, also where the log is read from its folder:
they are what the same run would leave without the failure flow, but for the state of that. The only
way not to get a report is that its log cannot be written. -/
theorem failure_flow_runs_apart (site : Site) (registry : Registry) (uid : Uuid) (flow : Flow)
    (file : Path) (options : RunOptions) (times : RunTimes)
    (found : registry.flow? uid = some flow) :
    (∀ report, Worker.runFile site registry uid file options times = .ok report →
      Worker.RunsApart site registry flow file options report ∧
        ∀ quiet, Worker.runFile site registry uid file { options with failureFlow := false } times =
            .ok quiet →
          quiet.failure = none ∧ quiet.main = report.main ∧
            report.log = { quiet.log with
              failureFlowState := report.failure.map fun r => r.result.state }) ∧
      ∀ e, Worker.runFile site registry uid file options times = .error e →
        ∃ bare,
          Worker.runFile site registry uid file { options with runDir := none } times = .ok bare ∧
          ∃ dir ∈ options.runDir, ∃ refused,
            bare.log.writeTo dir bare.files = .error refused ∧ e = .unwrittenLog refused := by
  constructor
  · intro report ran
    refine ⟨Worker.runsApart_of_runFile found ran, ?_⟩
    intro quiet still
    obtain ⟨main, -, log, -⟩ := Worker.parts_of_runFile found ran
    obtain ⟨main', failure', log', -⟩ := Worker.parts_of_runFile found still
    have same : quiet.main = report.main := main'.trans main.symm
    refine ⟨failure', same, ?_⟩
    rw [log, log', same]
    rfl
  · intro e ran
    exact Worker.error_of_runFile found ran

namespace Sample

/-- A part that names no step, with nothing after it. -/
def lost : Part := Part.new "Absent" (uid 2)

/-- A flow whose first part goes on with another file and whose second part fails. -/
def abandoning : Flow :=
  { Flow.new "abandoning" .normal (uid 4) with parts := [opening, lost] }

/-- A failure flow that fails itself, with a variable that a seed has already. -/
def clearing : Flow :=
  { Flow.new "clearing" .failure (uid 5) with
    parts := [lost.entry],
    vars := .ofList [("FailedStep", .str "none"), ("kept", .str "own")] }

def attended : Registry := (scripts.withFlow abandoning).withFlow clearing

/-- The node whose scripts go on with another file, with a run folder. -/
def attendedSite : Site := { movingSite with files := linkedRuns ⟨#[]⟩ }

/-- The run is logged and has a variable of its own. -/
def attendedOptions : RunOptions :=
  { runDir := some ⟨"runs"⟩, failureFlow := true, canceled := false,
    vars := .ofList [("seed", .str "main")] }

def times : RunTimes := ⟨"2026-02-14T10:00:00Z", "2026-02-14T10:01:00Z"⟩

/-- The main run. -/
def abandonedRun : FinishedRun :=
  Worker.runMain attendedSite attended abandoning ⟨"in/a.txt"⟩ attendedOptions

theorem stepRef_lost : lost.stepRef = .ok (.native "Absent") := stepRef_unknown

theorem ofPart_lost {part : Part} (ref : part.stepRef = .ok (.native "Absent"))
    (vars : Variables) : Task.ofPart attended vars part = .error (.elementNotFound "Absent") :=
  Task.ofPart_of_stepRef ref vars

theorem step?_attended (vars : Variables) :
    opening.step? attended vars = some (.acting (tally opening vars)) := by
  have asks : Task.ofPart attended vars opening =
      .ok (.script ⟨"tally", "1", opening.effectiveModel vars⟩) :=
    Task.ofPart_of_stepRef stepRef_opening vars
  exact Part.step?_of_task asks

/-- The first part of the main run goes on with another file, and the second one fails. -/
theorem abandonedRun_fails :
    abandonedRun.result.state = .failed ∧ abandonedRun.result.failedStep = some "Absent" ∧
      abandonedRun.final.context.workingFile = ⟨"out/b.mkv"⟩ ∧
      abandonedRun.final.ledger.canceled = false ∧
      ∃ c₁ c₂ : Context, abandonedRun.final.ledger.journal =
        [.finished abandoning lost .failure 0, .started abandoning lost c₂,
          .finished abandoning opening .success 0, .started abandoning opening c₁] := by
  have moves (st : Standing) :
      ComesTo attendedSite attended (.attempt abandoning opening) st (.done .success)
        (Turn.act attendedSite (tally opening st.context.vars)
          (Turn.checked (.acting (tally opening st.context.vars)) st)).2 :=
    .plain (step?_attended st.context.vars) rfl
  have walk : ComesTo attendedSite attended (.walk abandoning)
      (prepareRun attendedSite abandoning
        (.fresh ⟨"in/a.txt"⟩ attendedOptions.vars attendedOptions.canceled))
      (.leave .failed) _ :=
    .enter (by decide) rfl
      (.next rfl rfl (by decide) (moves _) rfl
        (.last rfl rfl (by decide) (.unresolved (ofPart_lost stepRef_lost _)) rfl))
  rw [abandonedRun, Worker.runMain, runFlow, comesTo_walk_iff.1 walk]
  exact ⟨rfl, rfl, rfl, rfl, _, _, rfl⟩

/-- The two parts of the main run are recorded. -/
theorem codes_abandonedRun :
    abandonedRun.result.executedSteps.map ExecutedStep.resultCode = [1, -1] := by
  obtain ⟨-, -, -, -, c₁, c₂, journal⟩ := abandonedRun_fails
  have shown₁ : opening.isExempt = false := Part.isExempt_of_stepRef stepRef_opening
  have shown₂ : lost.isExempt = false := Part.isExempt_of_stepRef stepRef_lost
  have steps : abandonedRun.result.executedSteps = recordsOf abandonedRun.final.ledger.journal :=
    executedSteps_runFlow _ _ _ _ _ _ _
  have code : StepResult.success.code = 1 := StepResult.code_output (by decide)
  have code' : StepResult.failure.code = -1 := rfl
  rw [steps, journal]
  simp [recordsOf, Event.record?, List.filterMap_cons, shown₁, shown₂, code, code']

/-- The failure flow fails, wherever it begins after the main run. -/
theorem clearing_fails {begin final : Standing} {exit : Exit}
    (begins : Worker.BeginsAfter attendedSite clearing ⟨"in/a.txt"⟩ abandonedRun begin)
    (ran : ComesTo attendedSite attended (.walk clearing) begin (.leave exit) final) :
    exit = .failed := by
  obtain ⟨-, -, -, live, -⟩ := abandonedRun_fails
  -- What is known of the beginning is enough for the only walk that the flow has from there.
  have ledger := begins.ledger
  rw [live] at ledger
  have shallow : begin.context.depth ≤ maxFlowDepth := begins.depth ▸ Nat.zero_le _
  have canceled : begin.ledger.canceled = false := by rw [ledger]; rfl
  have room : begin.ledger.executed < begin.ledger.ceiling := by rw [ledger]; decide
  have walk : ComesTo attendedSite attended (.walk clearing) begin (.leave .failed) _ :=
    .enter shallow rfl (.last canceled rfl room (.unresolved (ofPart_lost stepRef_lost _)) rfl)
  have same := (comesTo_walk_iff.1 ran).symm.trans (comesTo_walk_iff.1 walk)
  exact congrArg Prod.fst same

end Sample

/-- After a failure with another working file the failure flow begins with the file of the run, and
the log that is read back tells the two steps of the main run and that the failure flow has failed
as well. -/
theorem failing_failure_flow_is_logged : ∃ report,
    Worker.runFile Sample.attendedSite Sample.attended (Sample.uid 4) ⟨"in/a.txt"⟩
        Sample.attendedOptions Sample.times = .ok report ∧
      report.main.final.context.workingFile = ⟨"out/b.mkv"⟩ ∧
      (∃ begin, Worker.BeginsAfter Sample.attendedSite Sample.clearing ⟨"in/a.txt"⟩ report.main
          begin ∧
        begin.context.vars.get? "file.FullName" = some (.str "in/a.txt") ∧
        begin.context.vars.get? "FailedStep" = some (.str "Absent") ∧
        begin.context.vars.get? "kept" = some (.str "own") ∧
        begin.context.vars.get? "seed" = none) ∧
      ∃ log, RunLog.load report.files ⟨"runs/run.log.json"⟩ = .ok log ∧
        log.finalState = some .failed ∧ log.steps.length = 2 ∧
        log.failureFlowState = some .failed := by
  have found : Sample.attended.flow? (Sample.uid 4) = some Sample.abandoning := rfl
  have handler : Sample.attended.failureFlow? = some Sample.clearing := rfl
  have path : RunLog.pathIn ⟨"runs"⟩ = ⟨"runs/run.log.json"⟩ := by rfl
  obtain ⟨reports, errs⟩ := failure_flow_runs_apart Sample.attendedSite Sample.attended
    (Sample.uid 4) Sample.abandoning ⟨"in/a.txt"⟩ Sample.attendedOptions Sample.times found
  cases ran : Worker.runFile Sample.attendedSite Sample.attended (Sample.uid 4) ⟨"in/a.txt"⟩
      Sample.attendedOptions Sample.times with
  | error e =>
    obtain ⟨bare, ok, dir, mem, refused, fails, -⟩ := errs e ran
    cases mem
    obtain ⟨-, -, -, unlogged, -⟩ := Worker.parts_of_runFile found ok
    have still : Sample.attendedSite.IsStill := fun _ _ => rfl
    have files : bare.files = Sample.linkedRuns ⟨#[]⟩ := (unlogged rfl).trans (still.filesAt _)
    have writes := Sample.writeTo_runs ⟨#[]⟩ bare.log
    rw [files] at fails
    cases writes.symm.trans fails
  | ok report =>
    obtain ⟨apart, -⟩ := reports report ran
    have main : report.main = Sample.abandonedRun := apart.main
    obtain ⟨state, step, moved, -⟩ := Sample.abandonedRun_fails
    have codes := Sample.codes_abandonedRun
    rw [← main] at state step moved codes
    have started := apart.started.2 ⟨rfl, .inl state, by rw [handler]; rfl⟩
    obtain ⟨handled, failure⟩ := Option.isSome_iff_exists.1 started
    obtain ⟨flow, begin, exit, final, chosen, begins, walk, rfl⟩ := apart.apart handled failure
    cases handler.symm.trans chosen
    have failed : exit = .failed := Sample.clearing_fails (main ▸ begins) walk
    refine ⟨report, rfl, moved, ⟨begin, begins, ?_, ?_, ?_, ?_⟩, report.log, ?_, ?_, ?_, ?_⟩
    · exact begins.vars "file.FullName"
    · rw [begins.vars, RunResult.failureFacts, step]
      rfl
    · exact begins.vars "kept"
    · exact begins.vars "seed"
    · rw [← path]
      exact apart.loaded _ rfl
    · rw [apart.state, state]
    · rw [apart.steps]
      simpa using congrArg List.length codes
    · rw [apart.failureState, failure, failed]
      rfl

end FlowGraph
