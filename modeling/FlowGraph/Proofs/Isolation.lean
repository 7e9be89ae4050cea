import FlowGraph.Proofs.Iterating
import FlowGraph.Proofs.Replay

/-!
# The files of an iteration are kept apart

A walk for a file starts from a fork of the context and gives back the ledger alone, so an
iteration leaves its own context as it was, up to a failure that it takes over. What the walks for
the other files leave in the ledger does not matter to a walk that is acceptable: no part of it
was refused, and so it is the walk for its file alone, unless a step answers otherwise when it is
taken again (`iteration_leaks_nothing`).
-/

namespace FlowGraph

/-- Contexts that are the same up to the last failure. -/
theorem Context.fields_of_clearFailure {c d : Context} (h : c.clearFailure = d.clearFailure) :
    c.vars = d.vars ∧ c.workingFile = d.workingFile ∧ c.originalFile = d.originalFile ∧
      c.lastCode = d.lastCode ∧ c.depth = d.depth :=
  ⟨congrArg (·.vars) h, congrArg (·.workingFile) h, congrArg (·.originalFile) h,
    congrArg (·.lastCode) h, congrArg (·.depth) h⟩

namespace Iteration

section
variable {walk : Walk} {flow : Flow} {files : List Path} {st : Standing}

/-- An iteration leaves its context as it was, up to the last failure. -/
theorem Iterates.clearFailure {i : Nat} {result : StepResult} {final : Standing}
    (h : Iterates walk flow files st i result final) :
    final.context.clearFailure = st.context.clearFailure := by
  cases h with
  | nothing none => rfl
  | all some on => rw [before_context]
  | signaled inside on signal => rw [before_context]
  | canceled ends is => rfl
  | terminal ends is => rfl
  | failed ends is => rfl

theorem onward_before (i : Nat) : st.ledger.Onward (before walk flow files st i).ledger := by
  induction i with
  | zero => exact .refl _
  | succ i ih =>
    unfold before
    split
    · next file found =>
      have walked := (walk.onward flow (fileStart flow file (before walk flow files st i))).ledger
      exact (ih.trans walked).trans (.tell _ _)
    · exact ih

end

section
variable {site : Site} {registry : Registry} {e : EachFile} {st : Standing}

/-- Performing an iteration leaves the context as it was, up to the last failure. -/
theorem clearFailure_run (walk : Walk) :
    (run site registry walk e st).2.context.clearFailure = st.context.clearFailure := by
  cases plan : plan site registry e st with
  | error reason =>
    unfold run
    rw [plan]
    rfl
  | ok planned =>
    obtain ⟨flow, files⟩ := planned
    obtain ⟨i, iterates⟩ := run_iterates walk plan
    exact iterates.clearFailure

/-- The check of an iteration leaves the context as it was, up to the last failure. -/
theorem clearFailure_checked (e : EachFile) (st : Standing) :
    (Turn.checked (.eachFile e) st).context.clearFailure = st.context.clearFailure := by
  show Context.clearFailure { st.context with toScope := (e.check st.context.toScope).scope } = _
  unfold EachFile.check
  split
  · rfl
  · split
    · rfl
    · rfl

/-- Only an iteration that has walked all its files has the output for that. -/
theorem plan_of_output {walk : Walk}
    (output : (run site registry walk e st).1 = EachFile.allProcessed) :
    ∃ flow files, plan site registry e st = .ok (flow, files) ∧
      (∀ i < files.length, GoesOn walk flow files st i) ∧
      (run site registry walk e st).2 = before walk flow files st files.length := by
  cases plan : plan site registry e st with
  | error reason =>
    unfold run at output
    rw [plan] at output
    cases output
  | ok planned =>
    obtain ⟨flow, files⟩ := planned
    obtain ⟨i, iterates⟩ := run_iterates walk plan
    refine ⟨flow, files, rfl, ?_⟩
    generalize run site registry walk e st = step at output iterates
    obtain ⟨result, final⟩ := step
    cases output
    obtain ⟨-, -, on, last⟩ := iterates.all_of_output
    exact ⟨on, last⟩

end

end Iteration

section
variable {site : Site} {registry : Registry}

/-- No part was refused in a walk that is acceptable, for a refusal stops the run. -/
theorem ComesTo.unrefused {flow : Flow} {st st' : Standing} {exit : Exit}
    (walk : ComesTo site registry (.walk flow) st (.leave exit) st')
    (acceptable : exit.IsAcceptable) :
    st.ledger.Tells (fun e => e.isRefusal = false) st'.ledger := by
  have calm := walk.course.calm_of fun result came => by
    cases came
    exact isStop_of_grade (by rw [Iteration.grade_eq_acceptable_iff.2 acceptable]; rfl)
  have quiet : st.ledger.Tells (fun e => e.stop? = none) st'.ledger := calm
  refine quiet.imp fun e none => ?_
  cases e with
  | refused flow part => cases none
  | _ => rfl

/-- An acceptable walk whose steps repeat does the same on a ledger with another past on which
fewer parts were counted. -/
theorem walkFlow_replay {flow : Flow} {st : Standing} {l : Ledger}
    (acceptable : (walkFlow site registry flow st).1.IsAcceptable)
    (ceiling : l.ceiling = st.ledger.ceiling) (canceled : l.canceled = st.ledger.canceled)
    (fewer : l.executed ≤ st.ledger.executed)
    (repeats : ∀ event ∈ (walkFlow site registry flow st).2.ledger.since st.ledger,
      event.Starts registry (Step.Repeats site st.ledger.clock l.clock)) :
    ∃ l', st.ledger.Beside l (walkFlow site registry flow st).2.ledger l' ∧
      walkFlow site registry flow (st.withLedger l) =
        ((walkFlow site registry flow st).1, (walkFlow site registry flow st).2.withLedger l') := by
  have walk : ComesTo site registry (.walk flow) st
      (.leave (walkFlow site registry flow st).1) (walkFlow site registry flow st).2 :=
    comesTo_walk_iff.2 rfl
  have unrefused := (walk.unrefused acceptable).since
  have tells : st.ledger.Tells (Event.Repeats site registry st.ledger.clock l.clock)
      (walkFlow site registry flow st).2.ledger :=
    ⟨_, walk.onward.ledger.since_append.symm, fun event mem =>
      ⟨unrefused event mem, repeats event mem⟩⟩
  obtain ⟨l', beside, walk'⟩ := walk.replay tells trivial (.refl ceiling canceled fewer)
  exact ⟨l', beside, comesTo_walk_iff.1 walk'⟩

/-- What a part that iterates comes to leaves the context as it was, up to the last failure. -/
theorem clearFailure_attempt {nested : Walk} {caller : Flow} {part : Part} {e : EachFile}
    {st : Standing} (executes : part.step? registry st.context.vars = some (.eachFile e)) :
    (Turn.attempt site registry nested caller part st).2.context.clearFailure =
      st.context.clearFailure := by
  have checked := Iteration.clearFailure_checked e st
  cases admits : (Turn.admission (.eachFile e) st.context.toScope st.moment).admitted with
  | false =>
    rw [attempt_of_step? executes, Turn.checkAndPerform, admits, if_neg Bool.false_ne_true]
    exact checked
  | true =>
    rw [Iteration.attempt_of_admitted nested executes admits]
    dsimp only
    exact Iteration.clearFailure_run nested

/-- A part that iterates has the output of all files only when all of them were walked. -/
theorem all_of_attempt {nested : Walk} {caller : Flow} {part : Part} {e : EachFile}
    {st : Standing} (executes : part.step? registry st.context.vars = some (.eachFile e))
    (output : (Turn.attempt site registry nested caller part st).1 = .done (.output 1)) :
    ∃ flow files, Iteration.plan site registry e st = .ok (flow, files) ∧
      (∀ i < files.length, Iteration.GoesOn nested flow files st i) ∧
      (Turn.attempt site registry nested caller part st).2 =
        Iteration.before nested flow files st files.length := by
  cases admits : (Turn.admission (.eachFile e) st.context.toScope st.moment).admitted with
  | false =>
    rw [attempt_of_step? executes, Turn.checkAndPerform, admits, if_neg Bool.false_ne_true]
      at output
    cases output
  | true =>
    rw [Iteration.attempt_of_admitted nested executes admits] at output ⊢
    dsimp only at output ⊢
    exact Iteration.plan_of_output (Reply.done.inj output)

/-- The walk for a file after which an iteration goes on is the walk for the file alone, if its
steps repeat. -/
theorem Iteration.GoesOn.alone {flow : Flow} {files : List Path} {st : Standing} {i : Nat}
    (h : GoesOn (nestedWalk site registry st) flow files st i) {file : Path}
    (found : files[i]? = some file) {l : Ledger} (ceiling : l.ceiling = st.ledger.ceiling)
    (live : l.canceled = false)
    (fewer : l.executed ≤ (before (nestedWalk site registry st) flow files st i).ledger.executed) :
    let start := before (nestedWalk site registry st) flow files st i
    let inside := walkFlow site registry flow (fileStart flow file start)
    (∀ event ∈ inside.2.ledger.since start.ledger,
      event.Starts registry (Step.Repeats site start.ledger.clock l.clock)) →
    ∃ l', start.ledger.Beside l inside.2.ledger l' ∧
      walkFlow site registry flow ⟨childContext st.context flow file, l⟩ =
        (inside.1, inside.2.withLedger l') := by
  intro start inside repeats
  obtain ⟨file', found', acceptable⟩ := h.acceptable
  obtain rfl : file = file' := Option.some.inj (found.symm.trans found')
  rw [nestedWalk_before] at acceptable
  have ceilings : l.ceiling =
      (before (nestedWalk site registry st) flow files st i).ledger.ceiling :=
    ceiling.trans (onward_before i).ceiling.symm
  have replay := walkFlow_replay acceptable ceilings (live.trans h.live.symm) fewer repeats
  have same : (fileStart flow file
      (before (nestedWalk site registry st) flow files st i)).withLedger l =
        ⟨childContext st.context flow file, l⟩ := by
    unfold fileStart
    rw [before_context]
    rfl
  rw [same] at replay
  exact replay

end

/-- **An iteration leaks nothing.** Whatever comes of it, the variables, the files, the last code
and the depth of its context stay. And if all files were walked, then each of the walks is what the
walk for its file alone is: from a fork of the same context, on any ledger under the same ceiling on
which fewer parts were counted, it ends in the same way and in the same context, and it tells the
same and shows the same steps. Only a step that the walk starts could tell the difference: one that
runs commands, or a plugin, or a script or an iteration if scripts or files are not the same
again. -/
theorem iteration_leaks_nothing (site : Site) (registry : Registry) (caller : Flow) (part : Part)
    (e : EachFile) (st : Standing)
    (executes : part.step? registry st.context.vars = some (.eachFile e)) :
    let nested := nestedWalk site registry st
    let done := Turn.attempt site registry nested caller part st
    (done.2.context.vars = st.context.vars ∧
      done.2.context.workingFile = st.context.workingFile ∧
      done.2.context.originalFile = st.context.originalFile ∧
      done.2.context.lastCode = st.context.lastCode ∧
      done.2.context.depth = st.context.depth) ∧
    (done.1 = .done (.output 1) →
      ∃ flow files, Iteration.plan site registry e st = .ok (flow, files) ∧
        done.2 = Iteration.before nested flow files st files.length ∧
        ∀ i file, files[i]? = some file →
          let start := Iteration.before nested flow files st i
          let inside := walkFlow site registry flow (Iteration.fileStart flow file start)
          ∀ l : Ledger, l.ceiling = st.ledger.ceiling → l.canceled = false →
            l.executed ≤ start.ledger.executed →
            (∀ event ∈ inside.2.ledger.since start.ledger,
              event.Starts registry (Step.Repeats site start.ledger.clock l.clock)) →
            let alone := walkFlow site registry flow
              ⟨Iteration.childContext st.context flow file, l⟩
            alone.1 = inside.1 ∧ alone.2.context = inside.2.context ∧
              alone.2.ledger.noticesSince l = inside.2.ledger.noticesSince start.ledger ∧
              (alone.2.ledger.recordsSince l).map ExecutedStep.content =
                (inside.2.ledger.recordsSince start.ledger).map ExecutedStep.content) := by
  constructor
  · exact Context.fields_of_clearFailure (clearFailure_attempt executes)
  · intro output
    obtain ⟨flow, files, plan, on, final⟩ := all_of_attempt executes output
    refine ⟨flow, files, plan, final, ?_⟩
    intro i file found start inside l ceiling live fewer repeats
    have goesOn := on i (List.getElem?_eq_some_iff.1 found).1
    obtain ⟨l', beside, same⟩ := goesOn.alone found ceiling live fewer repeats
    rw [same]
    refine ⟨rfl, rfl, ?_, beside.recordsSince_content⟩
    exact congrArg (fun news => news.reverse.filterMap Ledger.notice?) beside.since_eq_since

namespace Sample

/-- A part whose script succeeds. -/
def tallying : Part := (Part.new "Script:tally" (uid 1)).entry

/-- A flow with that part alone. -/
def counted : Flow := { Flow.new "counted" .subFlow (uid 2) with parts := [tallying] }

/-- A worker with the script and the flow. -/
def counting : Registry := scripts.withFlow counted

/-- The walk for a file counts one part and is completed. -/
theorem comesTo_counted (file : Path) (st : Standing) (live : st.ledger.canceled = false)
    (room : st.ledger.executed < st.ledger.ceiling) (shallow : st.context.depth < maxFlowDepth) :
    ∃ after, ComesTo folders counting (.walk counted) (Iteration.fileStart counted file st)
        (.leave .completed) after ∧
      after.ledger.canceled = false ∧ after.ledger.executed = st.ledger.executed + 1 ∧
      after.ledger.ceiling = st.ledger.ceiling := by
  have executes (vars : Variables) :
      tallying.step? counting vars = some (.acting (tally tallying vars)) := by
    have ref : tallying.stepRef = .ok (.script "tally") := by rfl
    rw [Part.step?, Task.ofPart_of_stepRef ref]
    rfl
  refine ⟨_, .enter shallow rfl (.last live rfl room (.plain (executes _) rfl) rfl), ?_, rfl, rfl⟩
  show (st.ledger.canceled || false || false) = false
  rw [live]
  rfl

theorem step?_counting :
    (visiting "in" (uid 2)).step? counting start.context.vars = some (.eachFile inEach) := by
  rfl

theorem plan_counting :
    Iteration.plan folders counting inEach start = .ok (counted, inFiles) :=
  Iteration.plan_of_matching (isFolder_in _) (by rfl) rfl (by rfl) (matchingFiles_in _)

/-- The iteration over the two files has walked both. -/
theorem attempt_counting :
    (Turn.attempt folders counting (nestedWalk folders counting start) caller
      (visiting "in" (uid 2)) start).1 = .done (.output 1) := by
  have checked : Turn.checked (.eachFile inEach) start = start := Iteration.checked_eq_self (by rfl)
  have plan := plan_counting
  obtain ⟨after, walk, live, executed, ceiling⟩ :=
    comesTo_counted ⟨"in/a.txt"⟩ start rfl (by decide) (by decide)
  let between := (start.withLedger after.ledger).tell [.progress (.share 1 2)]
  have still : between.ledger.canceled = false := by
    show (after.ledger.canceled || false) = false
    rw [live]
    rfl
  have room : between.ledger.executed < between.ledger.ceiling := by
    show after.ledger.executed < after.ledger.ceiling
    rw [executed, ceiling]
    decide
  have shallow : between.context.depth < maxFlowDepth := (by decide : 0 < maxFlowDepth)
  obtain ⟨after', walk', -, -, -⟩ := comesTo_counted ⟨"in/b.txt"⟩ between still room shallow
  have visits : ComesTo folders counting (.visit counted 2 0 inFiles) start (.done (.output 1)) _ :=
    .visitNext rfl walk rfl (.visitNext still walk' rfl .visitedAll)
  rw [← checked] at plan visits
  have iterated : ComesTo folders counting (.attempt caller (visiting "in" (uid 2))) start
      (.done (.output 1)) _ := .iterate step?_counting (by rfl) plan visits
  exact congrArg Prod.fst iterated.value

/-- The node is always the same, so every step repeats. -/
theorem starts_counting (event : Event) (time time' : Nat) :
    event.Starts counting (Step.Repeats folders time time') := by
  have files (passed : Nat) :
      folders.filesAt (time' + passed) = folders.filesAt (time + passed) := by
    rw [isStill_folders.filesAt, isStill_folders.filesAt]
  cases event with
  | started flow part c =>
    exact fun step executes => Part.repeats_of_step? (Registry.isBasic_of_steps rfl) files
      (fun _ => rfl) (fun _ => rfl) executes
  | _ => trivial

end Sample

/-- The walk for the second file is the walk for it alone, on the ledger before the iteration. -/
theorem second_file_is_walked_as_alone :
    let nested := nestedWalk Sample.folders Sample.counting Sample.start
    let start := Iteration.before nested Sample.counted Sample.inFiles Sample.start 1
    let inside := walkFlow Sample.folders Sample.counting Sample.counted
      (Iteration.fileStart Sample.counted ⟨"in/b.txt"⟩ start)
    let alone := walkFlow Sample.folders Sample.counting Sample.counted
      ⟨Iteration.childContext Sample.start.context Sample.counted ⟨"in/b.txt"⟩, Sample.start.ledger⟩
    alone.1 = inside.1 ∧ alone.2.context = inside.2.context ∧
      (alone.2.ledger.recordsSince Sample.start.ledger).map ExecutedStep.content =
        (inside.2.ledger.recordsSince start.ledger).map ExecutedStep.content := by
  obtain ⟨-, all⟩ := iteration_leaks_nothing Sample.folders Sample.counting Sample.caller
    (Sample.visiting "in" (Sample.uid 2)) Sample.inEach Sample.start Sample.step?_counting
  obtain ⟨flow, files, plan, -, same⟩ := all Sample.attempt_counting
  obtain ⟨rfl, rfl⟩ : Sample.counted = flow ∧ Sample.inFiles = files :=
    Prod.mk.inj (Except.ok.inj (Sample.plan_counting.symm.trans plan))
  obtain ⟨exit, context, -, records⟩ :=
    same 1 ⟨"in/b.txt"⟩ rfl Sample.start.ledger rfl rfl (Nat.zero_le _)
      fun event _ => Sample.starts_counting event _ _
  exact ⟨exit, context, records⟩

end FlowGraph
