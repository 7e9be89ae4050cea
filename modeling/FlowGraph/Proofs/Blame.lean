import FlowGraph.Proofs.Trail

/-!
# The part that a failed run names

A walk fails at a part that has no way on. If the part only hands on how a walk failed that it
asked for, that walk is looked at instead, and so on down to a part that failed itself, or to a
flow that could not be entered (`FailsAt`, `walkFails_iff`). The place of a failure is noted
there, and whoever hands the failure on keeps what is noted. So the run names that part, unless
the place of an earlier failure was still noted: only parts of failure flows start without
forgetting it, and a part that the ceiling refuses does not start.
-/

namespace FlowGraph

/-- The walk ended without a way on. -/
def Exit.Fails (exit : Exit) : Prop := exit = .failed ∨ exit = .terminalExit

/-- The result leaves a part no way on but its error connection, or none at all. -/
def StepResult.Fails (result : StepResult) : Prop := result = .failure ∨ result = .terminalExit

theorem Exit.Fails.asStepResult {exit : Exit} (h : exit.Fails) : exit.asStepResult.Fails := by
  rcases h with rfl | rfl
  · exact .inl rfl
  · exact .inr rfl

/-- A walk with such a result failed, or returned the result at a marker. -/
theorem Exit.fails_or_returned {exit : Exit} (h : exit.asStepResult.Fails) :
    exit.Fails ∨ ∃ result, exit = .returned result := by
  cases exit with
  | failed => exact .inl (.inl rfl)
  | terminalExit => exact .inl (.inr rfl)
  | returned result => exact .inr ⟨result, rfl⟩
  | completed | canceled => rcases h with h | h <;> cases h

/-- So did a walk that an iteration fails for. -/
theorem Exit.fails_or_returned_of_grade {exit : Exit}
    (h : Iteration.grade exit = .terminal ∨ Iteration.grade exit = .failed) :
    exit.Fails ∨ ∃ result, exit = .returned result := by
  cases exit with
  | failed => exact .inl (.inl rfl)
  | terminalExit => exact .inl (.inr rfl)
  | returned result => exact .inr ⟨result, rfl⟩
  | completed | canceled => rcases h with h | h <;> cases h

/-- A walk fails at a part by a result that fails. -/
theorem fails_endOf_iff {result : StepResult} : (Turn.endOf result).Fails ↔ result.Fails := by
  cases result <;> simp [Exit.Fails, StepResult.Fails, Turn.endOf]

theorem leave_of_follow {flow : Flow} {part : Part} {result : StepResult} {st st' : Standing}
    {exit : Exit} (leads : Turn.follow flow part (.done result, st) = (.leave exit, st')) :
    exit = Turn.endOf result := by
  simp only [Turn.follow, Turn.route] at leads
  split at leads
  · cases leads
  · cases (Prod.mk.inj leads).1
    rfl

/-! ## Where a walk fails -/

/-- How a part came to have no way on: the ceiling refused it at a standing, or it was executed
from one standing to another. -/
inductive Setback where
  | refused (st : Standing)
  | executed (before after : Standing)

/-- Where a failure begins: at a part of a flow, or at none, when the flow is not entered or has
no part to go on at. -/
inductive Origin where
  | atPart (flow : Flow) (part : Part) (setback : Setback)
  | outside (flow : Flow) (step : String) (st : Standing)

/-- The place by the names that are shown. -/
def Origin.place : Origin → Location
  | .atPart flow part _ => ⟨part.displayName, flow.name⟩
  | .outside flow step _ => ⟨step, flow.name⟩

section
variable (site : Site) (registry : Registry)

/-- A walk that is walked for some work: the one that a part calls for, or one for a file that
is reached. -/
inductive Asks : Work → Standing → Flow → Standing → Prop where
  | call {flow target : Flow} {part : Part} {st : Standing} {properties : Variables}
      (task : Task.ofPart registry st.context.vars part = .ok (.subFlow target properties)) :
      Asks (.attempt flow part) st target (Turn.callStart target properties st)
  | iterate {flow target asked : Flow} {part : Part} {st start : Standing} {e : EachFile}
      {file : Path} {files : List Path}
      (executes : part.step? registry st.context.vars = some (.eachFile e))
      (admits : (e.check st.context.toScope).admitted = true)
      (plan : Iteration.plan site registry e (Turn.checked (.eachFile e) st) =
        .ok (target, file :: files))
      (visits : Asks (.visit target (files.length + 1) 0 (file :: files))
        (Turn.checked (.eachFile e) st) asked start) :
      Asks (.attempt flow part) st asked start
  | file {flow : Flow} {total done : Nat} {file : Path} {files : List Path} {st : Standing}
      (live : st.ledger.canceled = false) :
      Asks (.visit flow total done (file :: files)) st flow (Iteration.fileStart flow file st)
  | next {flow asked : Flow} {total done : Nat} {file : Path} {files : List Path}
      {st st₁ start : Standing} {exit : Exit} (live : st.ledger.canceled = false)
      (walk : ComesTo site registry (.walk flow) (Iteration.fileStart flow file st) (.leave exit)
        st₁)
      (graded : Iteration.grade exit = .acceptable)
      (rest : Asks (.visit flow total (done + 1) files)
        ((st.withLedger st₁.ledger).tell [.progress (.share (done + 1) total)]) asked start) :
      Asks (.visit flow total done (file :: files)) st asked start

/-- The walk of a flow from a standing fails. -/
def WalkFails (flow : Flow) (st : Standing) : Prop :=
  ∃ exit st', ComesTo site registry (.walk flow) st (.leave exit) st' ∧ exit.Fails

/-- The work fails, and the failure begins at a part that had no way on or outside of all. A part
had none if the ceiling refused it, or if what it came to led nowhere and it was not a walk it
had asked for that failed. -/
inductive FailsAt : Work → Standing → Origin → Prop where
  | tooDeep {flow : Flow} {st : Standing} (deep : maxFlowDepth < st.context.depth) :
      FailsAt (.walk flow) st (.outside flow "entry" st)
  | noEntry {flow : Flow} {st : Standing} {e : Problem}
      (shallow : st.context.depth ≤ maxFlowDepth) (none : flow.entryPart = .error e) :
      FailsAt (.walk flow) st (.outside flow "entry" st)
  | missing {flow : Flow} {uid : Uuid} {st : Standing} (live : st.ledger.canceled = false)
      (none : flow.part? uid = none) : FailsAt (.goOn flow uid) st (.outside flow "unknown" st)
  | enter {flow : Flow} {entry : Part} {st : Standing} {origin : Origin}
      (shallow : st.context.depth ≤ maxFlowDepth) (found : flow.entryPart = .ok entry)
      (rest : FailsAt (.goOn flow entry.uid) st origin) : FailsAt (.walk flow) st origin
  | refused {flow : Flow} {uid : Uuid} {part : Part} {st : Standing}
      (live : st.ledger.canceled = false) (found : flow.part? uid = some part)
      (full : st.ledger.ceiling ≤ st.ledger.executed) :
      FailsAt (.goOn flow uid) st (.atPart flow part (.refused st))
  | own {flow : Flow} {uid : Uuid} {part : Part} {st st₁ st₂ : Standing} {reply : Reply}
      {exit : Exit} (live : st.ledger.canceled = false) (found : flow.part? uid = some part)
      (room : st.ledger.executed < st.ledger.ceiling)
      (work : ComesTo site registry (.attempt flow part) (Turn.start flow part st.count) reply st₁)
      (leads : Turn.follow flow part (reply, st₁) = (.leave exit, st₂)) (fails : exit.Fails)
      (own : ∀ target start, Asks site registry (.attempt flow part)
        (Turn.start flow part st.count) target start → ¬ WalkFails site registry target start) :
      FailsAt (.goOn flow uid) st (.atPart flow part (.executed st st₁))
  | handedOn {flow target : Flow} {uid : Uuid} {part : Part} {st st₁ st₂ start : Standing}
      {reply : Reply} {exit : Exit} {origin : Origin} (live : st.ledger.canceled = false)
      (found : flow.part? uid = some part) (room : st.ledger.executed < st.ledger.ceiling)
      (work : ComesTo site registry (.attempt flow part) (Turn.start flow part st.count) reply st₁)
      (leads : Turn.follow flow part (reply, st₁) = (.leave exit, st₂))
      (asks : Asks site registry (.attempt flow part) (Turn.start flow part st.count) target start)
      (fails : FailsAt (.walk target) start origin) : FailsAt (.goOn flow uid) st origin
  | next {flow flow' : Flow} {uid uid' : Uuid} {part : Part} {st st₁ st₂ : Standing}
      {reply : Reply} {origin : Origin} (live : st.ledger.canceled = false)
      (found : flow.part? uid = some part) (room : st.ledger.executed < st.ledger.ceiling)
      (work : ComesTo site registry (.attempt flow part) (Turn.start flow part st.count) reply st₁)
      (leads : Turn.follow flow part (reply, st₁) = (.goOn flow' uid', st₂))
      (rest : FailsAt (.goOn flow' uid') st₂ origin) : FailsAt (.goOn flow uid) st origin

end

/-- A marker of a failure flow was the last to finish. -/
def Standing.EndsInFailureFlow (st : Standing) : Prop :=
  ∃ flow part result depth earlier,
    st.ledger.journal = .finished flow part result depth :: earlier ∧ flow.kind = .failure

/-- No place of an earlier failure is noted where the setback could leave it: when the ceiling
refuses the part, when a part of a failure flow starts, and when a failure flow has returned
what the part came to. -/
def Setback.IsClear (flow : Flow) : Setback → Prop
  | .refused st => st.context.failedAt = none
  | .executed before after =>
    (flow.kind = .failure → before.context.failedAt = none) ∧
      (after.EndsInFailureFlow → after.context.failedAt = none)

/-- No place of an earlier failure is noted where a failure begins. -/
def Origin.IsClear : Origin → Prop
  | .atPart flow _ setback => setback.IsClear flow
  | .outside _ _ st => st.context.failedAt = none

/-- The place that is noted where a failure begins. It is that of the failure, unless that of an
earlier one is noted still; a part that the ceiling refuses forgets none. -/
def Origin.Notes : Origin → Location → Prop
  | .atPart flow part (.refused st), place =>
    place = st.context.failedAt.getD ⟨part.displayName, flow.name⟩
  | .atPart flow part (.executed before after), place =>
    (Setback.executed before after).IsClear flow ∧ place = ⟨part.displayName, flow.name⟩
  | .outside flow step st, place => place = st.context.failedAt.getD ⟨step, flow.name⟩

/-- Where nothing was noted the failure itself is. -/
theorem Origin.IsClear.notes {origin : Origin} (clear : origin.IsClear) :
    origin.Notes origin.place := by
  cases origin with
  | atPart flow part setback =>
    cases setback with
    | refused st =>
      have unnoted : st.context.failedAt = none := clear
      rw [Origin.Notes, unnoted]
      rfl
    | executed before after => exact ⟨clear, rfl⟩
  | outside flow step st =>
    have unnoted : st.context.failedAt = none := clear
    rw [Origin.Notes, unnoted]
    rfl

/-- What is noted first stays noted. -/
theorem failedAt_markFailedAt (c : Context) (place : Location) :
    (c.markFailedAt place).failedAt = some (c.failedAt.getD place) := by
  cases noted : c.failedAt <;> simp [Context.markFailedAt, noted]

/-! ## What is noted -/

section
variable {site : Site} {registry : Registry}

/-- A piece of work comes to one thing only. -/
theorem ComesTo.unique {work : Work} {st st₁ st₂ : Standing} {reply₁ reply₂ : Reply}
    (h₁ : ComesTo site registry work st reply₁ st₁)
    (h₂ : ComesTo site registry work st reply₂ st₂) : reply₁ = reply₂ ∧ st₁ = st₂ :=
  Prod.mk.inj (h₁.value.symm.trans h₂.value)

/-- Outside of failure flows a part starts with nothing noted. -/
theorem start_failedAt {flow : Flow} {part : Part} {st : Standing}
    (unnoted : flow.kind = .failure → st.context.failedAt = none) :
    (Turn.start flow part st.count).context.failedAt = none := by
  simp only [Turn.start]
  split
  · exact unnoted ‹_›
  · rfl

/-- A walk that is left with a result was left at a marker, which has just started. -/
theorem ComesTo.returned {work : Work} {st st' : Standing} {reply : Reply}
    (h : ComesTo site registry work st reply st') {flow : Flow} {result : StepResult}
    (walks : work = .walk flow ∨ ∃ uid, work = .goOn flow uid)
    (leaves : reply = .leave (.returned result)) :
    ∃ marked marker before vars, Task.ofPart registry vars marker = .ok (.subFlowOutput result) ∧
      st' = Turn.note marked marker result (Turn.start marked marker (Standing.count before)) := by
  induction h generalizing flow with
  | enter shallow found rest ih =>
    exact ih (.inr ⟨_, rfl⟩) leaves
  | @last flow' uid part st st₁ st₂ reply exit live found room work leads =>
    cases leaves
    cases reply with
    | done result =>
      -- a result ends a walk in other ways than a marker does
      have left := leave_of_follow leads
      cases result <;> cases left
    | leave exit =>
      cases leads
      cases work with
      | marker task => exact ⟨_, _, _, _, task, rfl⟩
    | goOn flow' uid => cases leads
  | next live found room work leads rest ih ih' => exact ih' (.inr ⟨_, rfl⟩) leaves
  | tooDeep | noEntry | canceled | missing | refused => cases leaves
  | _ => rcases walks with walks | ⟨uid, walks⟩ <;> cases walks

/-- After a walk that did not fail nothing is noted, unless a failure flow has returned. -/
theorem ComesTo.failedAt_walk {flow : Flow} {st st' : Standing} {exit : Exit}
    (h : ComesTo site registry (.walk flow) st (.leave exit) st')
    (own : ¬ WalkFails site registry flow st)
    (ends : exit.Fails ∨ ∃ result, exit = .returned result)
    (unreturned : st'.EndsInFailureFlow → st'.context.failedAt = none) :
    st'.context.failedAt = none := by
  rcases ends with fails | ⟨result, rfl⟩
  · exact absurd ⟨_, _, h, fails⟩ own
  · obtain ⟨marked, marker, before, vars, -, rfl⟩ := h.returned (.inl rfl) rfl
    -- the marker has just started, so only in a failure flow something can be noted
    by_cases kind : marked.kind = .failure
    · exact unreturned ⟨_, _, _, _, _, rfl, kind⟩
    · exact start_failedAt fun failure => absurd failure kind

/-- Work that a walk fails for fails as well, and keeps what the walk noted. -/
theorem Asks.comesTo {work : Work} {st start st' : Standing} {target : Flow} {exit : Exit}
    (h : Asks site registry work st target start)
    (walk : ComesTo site registry (.walk target) start (.leave exit) st') (fails : exit.Fails) :
    ∃ result st₁, ComesTo site registry work st (.done result) st₁ ∧ result.Fails ∧
      ∀ place, st'.context.failedAt = some place → st₁.context.failedAt = some place := by
  induction h with
  | call task => exact ⟨_, _, .call task walk, fails.asStepResult, fun _ noted => noted⟩
  | iterate executes admits plan visits ih =>
    obtain ⟨result, st₁, visited, fails, keeps⟩ := ih walk
    exact ⟨_, _, .iterate executes admits plan visited, fails, keeps⟩
  | file live =>
    rcases fails with rfl | rfl
    · refine ⟨_, _, .fileFailed live walk rfl, .inl rfl, fun place noted => ?_⟩
      simp [Iteration.adoptFailed, Iteration.adopt, Context.adoptFailure, noted]
    · refine ⟨_, _, .fileTerminal live walk rfl, .inr rfl, fun place noted => ?_⟩
      simp [Iteration.adopt, Context.adoptFailure, noted]
  | next live before graded rest ih =>
    obtain ⟨result, st₁, visited, fails, keeps⟩ := ih walk
    exact ⟨_, _, .visitNext live before graded visited, fails, keeps⟩

/-- What the walk for a file noted is taken over, over nothing. -/
theorem failedAt_adopt {child : Context} {st : Standing} {l : Ledger}
    (unnoted : st.context.failedAt = none) :
    (Iteration.adopt child (st.withLedger l)).context.failedAt = child.failedAt := by
  simp [Iteration.adopt, Context.adoptFailure, unnoted]

theorem failedAt_adoptFailed {file : Path} {exit : Exit} {child : Context} {st : Standing}
    {l : Ledger} (unnoted : st.context.failedAt = none) :
    (Iteration.adoptFailed file exit child (st.withLedger l)).context.failedAt = child.failedAt :=
  failedAt_adopt unnoted

/-- An iteration in which no walk fails notes nothing. -/
theorem ComesTo.failedAt_visit {work : Work} {st st' : Standing} {reply : Reply}
    (h : ComesTo site registry work st reply st') {flow : Flow} {total done : Nat}
    {files : List Path} (visits : work = .visit flow total done files)
    (own : ∀ target start, Asks site registry work st target start →
      ¬ WalkFails site registry target start)
    (unnoted : st.context.failedAt = none)
    (unreturned : st'.EndsInFailureFlow → st'.context.failedAt = none) :
    st'.context.failedAt = none := by
  induction h generalizing done files with
  | visitedAll | visitCanceled | fileCanceled => exact unnoted
  | visitNext live walk graded rest ih ih' =>
    cases visits
    exact ih' rfl (fun target start asks => own target start (.next live walk graded asks))
      unnoted unreturned
  | fileTerminal live walk graded =>
    rw [failedAt_adopt unnoted] at unreturned ⊢
    exact walk.failedAt_walk (own _ _ (.file live)) (Exit.fails_or_returned_of_grade (.inl graded))
      unreturned
  | fileFailed live walk graded =>
    rw [failedAt_adoptFailed unnoted] at unreturned ⊢
    exact walk.failedAt_walk (own _ _ (.file live)) (Exit.fails_or_returned_of_grade (.inr graded))
      unreturned
  | _ => cases visits

/-- A part that fails though no walk that it asked for does has noted nothing yet. -/
theorem ComesTo.failedAt_attempt {flow : Flow} {part : Part} {st st' : Standing}
    {result : StepResult} (h : ComesTo site registry (.attempt flow part) st (.done result) st')
    (fails : result.Fails)
    (own : ∀ target start, Asks site registry (.attempt flow part) st target start →
      ¬ WalkFails site registry target start)
    (unnoted : st.context.failedAt = none)
    (unreturned : st'.EndsInFailureFlow → st'.context.failedAt = none) :
    st'.context.failedAt = none := by
  cases h with
  | unresolved | input | plain | unplanned | nothing => exact unnoted
  | call task walk =>
    exact walk.failedAt_walk (own _ _ (.call task)) (Exit.fails_or_returned fails) unreturned
  | iterate executes admits plan visits =>
    exact visits.failedAt_visit rfl
      (fun target start asks => own target start (.iterate executes admits plan asks)) unnoted
      unreturned

/-- A part that fails at once is noted, unless something is noted already. -/
theorem ComesTo.failedAt_leave {flow : Flow} {part : Part} {st st' : Standing} {exit : Exit}
    (h : ComesTo site registry (.attempt flow part) st (.leave exit) st') (fails : exit.Fails) :
    st'.context.failedAt = st.context.failedAt.or (some ⟨part.displayName, flow.name⟩) := by
  cases h with
  | marker task => rcases fails with h | h <;> cases h
  | lost task none => rfl
  | barred executes bars => rfl

/-- So is a part whose result ends the walk in failure. -/
theorem follow_failedAt {flow : Flow} {part : Part} {result : StepResult} {st st' : Standing}
    {exit : Exit} (leads : Turn.follow flow part (.done result, st) = (.leave exit, st'))
    (fails : result.Fails) :
    st'.context.failedAt = st.context.failedAt.or (some ⟨part.displayName, flow.name⟩) := by
  simp only [Turn.follow, Turn.route] at leads
  split at leads
  · cases leads
  · rw [← (Prod.mk.inj leads).2]
    rcases fails with rfl | rfl <;> rfl

/-- A part that had no way on itself is noted. -/
theorem ComesTo.failedAt_own {flow : Flow} {part : Part} {st st₁ st₂ : Standing} {reply : Reply}
    {exit : Exit} (h : ComesTo site registry (.attempt flow part) st reply st₁)
    (leads : Turn.follow flow part (reply, st₁) = (.leave exit, st₂)) (fails : exit.Fails)
    (own : ∀ target start, Asks site registry (.attempt flow part) st target start →
      ¬ WalkFails site registry target start)
    (unnoted : st.context.failedAt = none)
    (unreturned : st₁.EndsInFailureFlow → st₁.context.failedAt = none) :
    st₂.context.failedAt = some ⟨part.displayName, flow.name⟩ := by
  cases reply with
  | done result =>
    have failed : result.Fails := fails_endOf_iff.1 (leave_of_follow leads ▸ fails)
    rw [follow_failedAt leads failed, h.failedAt_attempt failed own unnoted unreturned]
    rfl
  | leave exit =>
    cases leads
    rw [h.failedAt_leave fails, unnoted]
    rfl
  | goOn flow' uid => cases leads

/-- **The place of a failure is noted where it begins**, and it stays noted on the way out. -/
theorem FailsAt.comesTo {work : Work} {st : Standing} {origin : Origin}
    (h : FailsAt site registry work st origin) :
    ∃ exit st', ComesTo site registry work st (.leave exit) st' ∧ exit.Fails ∧
      ∀ place, origin.Notes place → st'.context.failedAt = some place := by
  -- the derivation of the failing work is built along that of the failure
  induction h with
  | tooDeep deep =>
    refine ⟨_, _, .tooDeep deep, .inr rfl, ?_⟩
    rintro place rfl
    exact failedAt_markFailedAt _ _
  | noEntry shallow none =>
    refine ⟨_, _, .noEntry shallow none, .inl rfl, ?_⟩
    rintro place rfl
    exact failedAt_markFailedAt _ _
  | missing live none =>
    refine ⟨_, _, .missing live none, .inl rfl, ?_⟩
    rintro place rfl
    exact failedAt_markFailedAt _ _
  | enter shallow found rest ih =>
    obtain ⟨exit, st', run, fails, located⟩ := ih
    exact ⟨exit, st', .enter shallow found run, fails, located⟩
  | refused live found full =>
    refine ⟨_, _, .refused live found full, .inr rfl, ?_⟩
    rintro place rfl
    exact failedAt_markFailedAt _ _
  | own live found room work leads fails own =>
    refine ⟨_, _, .last live found room work leads, fails, ?_⟩
    rintro place ⟨clear, rfl⟩
    exact work.failedAt_own leads fails own (start_failedAt clear.1) clear.2
  | handedOn live found room work leads asks fails ih =>
    obtain ⟨exit, st', walk, failed, located⟩ := ih
    obtain ⟨result, st₁, attempt, failed, keeps⟩ := asks.comesTo walk failed
    obtain ⟨rfl, rfl⟩ := work.unique attempt
    refine ⟨_, _, .last live found room work leads, ?_, fun place notes => ?_⟩
    · rw [leave_of_follow leads]
      exact fails_endOf_iff.2 failed
    · rw [follow_failedAt leads failed, keeps _ (located place notes)]
      rfl
  | next live found room work leads rest ih =>
    obtain ⟨exit, st', run, fails, located⟩ := ih
    exact ⟨exit, st', .next live found room work leads run, fails, located⟩

/-! ## Every failure begins somewhere -/

/-- Walks that some work asks for are one level deeper. -/
theorem Asks.depth {work : Work} {st start : Standing} {target : Flow}
    (h : Asks site registry work st target start) : start.context.depth = st.context.depth + 1 := by
  induction h with
  | call task => rfl
  | iterate executes admits plan visits ih => exact ih
  | file live => rfl
  | next live walk graded rest ih => exact ih

/-- A walk that goes on and fails does so somewhere, if the walks that it asks for do. -/
theorem ComesTo.failsAt {work : Work} {st st' : Standing} {reply : Reply}
    (h : ComesTo site registry work st reply st') {flow : Flow} {uid : Uuid} {exit : Exit}
    (goesOn : work = .goOn flow uid) (leaves : reply = .leave exit) (fails : exit.Fails)
    (deeper : ∀ target start, start.context.depth = st.context.depth + 1 →
      WalkFails site registry target start →
        ∃ origin, FailsAt site registry (.walk target) start origin) :
    ∃ origin, FailsAt site registry (.goOn flow uid) st origin := by
  induction h generalizing flow uid with
  | canceled stopped =>
    cases leaves
    rcases fails with fails | fails <;> cases fails
  | missing live none =>
    cases goesOn
    exact ⟨_, .missing live none⟩
  | refused live found full =>
    cases goesOn
    exact ⟨_, .refused live found full⟩
  | @last flow' _ part st st₁ st₂ reply _ live found room work leads =>
    cases goesOn
    cases leaves
    by_cases asked : ∃ target start, Asks site registry (.attempt flow' part)
        (Turn.start flow' part st.count) target start ∧ WalkFails site registry target start
    · obtain ⟨target, start, asks, failed⟩ := asked
      have depth := asks.depth.trans
        (congrArg (· + 1) (Turn.onward_start flow' part st.count).depth)
      obtain ⟨origin, inside⟩ := deeper target start depth failed
      exact ⟨origin, .handedOn live found room work leads asks inside⟩
    · exact ⟨_, .own live found room work leads fails fun target start asks failed =>
        asked ⟨target, start, asks, failed⟩⟩
  | next live found room work leads rest ih ih' =>
    cases goesOn
    have same := (work.depth_turn leads).2
    obtain ⟨origin, later⟩ := ih' rfl leaves (same ▸ deeper)
    exact ⟨origin, .next live found room work leads later⟩
  | _ => cases goesOn

/-- **A walk fails exactly if its failure begins somewhere.** -/
theorem walkFails_iff {flow : Flow} {st : Standing} :
    WalkFails site registry flow st ↔ ∃ origin, FailsAt site registry (.walk flow) st origin := by
  constructor
  · -- the walks that are asked for are deeper, and no walk is deeper than the deepest
    generalize levels : maxFlowDepth + 1 - st.context.depth = n
    induction n generalizing flow st with
    | zero => exact fun _ => ⟨_, .tooDeep (by omega)⟩
    | succ n ih =>
      rintro ⟨exit, st', walk, fails⟩
      cases walk with
      | tooDeep deep => exact ⟨_, .tooDeep deep⟩
      | noEntry shallow none => exact ⟨_, .noEntry shallow none⟩
      | enter shallow found rest =>
        obtain ⟨origin, inside⟩ := rest.failsAt rfl rfl fails fun target start depth =>
          ih (by omega)
        exact ⟨origin, .enter shallow found inside⟩
  · rintro ⟨origin, inside⟩
    obtain ⟨exit, st', walk, fails, -⟩ := inside.comesTo
    exact ⟨exit, st', walk, fails⟩

/-- A run that fails somewhere names what is noted there. -/
theorem FailsAt.names {flow : Flow} {st : Standing} {origin : Origin} {place : Location}
    (h : FailsAt site registry (.walk flow) (prepareRun site flow st) origin)
    (notes : origin.Notes place) :
    (runFlow site registry flow st).1.state.isFailure = true ∧
      (runFlow site registry flow st).1.failedStep = some place.step ∧
      (runFlow site registry flow st).1.failedFlow = some place.flow := by
  obtain ⟨exit, final, walk, failed, located⟩ := h.comesTo
  have noted := located place notes
  rw [runFlow, comesTo_walk_iff.1 walk]
  rcases failed with rfl | rfl <;>
    simp [reportRun, Exit.runState, RunState.isFailure, noted]

end

/-- **A refused part keeps what is noted**: where the ceiling refuses a part, in a flow of whatever
kind, and the place of an earlier failure is still noted, the run names that place. -/
theorem refused_part_keeps_the_noted_place (site : Site) (registry : Registry) (flow : Flow)
    (st : Standing) {f : Flow} {p : Part} {full : Standing} {place : Location}
    (fails : FailsAt site registry (.walk flow) (prepareRun site flow st)
      (.atPart f p (.refused full)))
    (earlier : full.context.failedAt = some place) :
    (runFlow site registry flow st).1.state.isFailure = true ∧
      (runFlow site registry flow st).1.failedStep = some place.step ∧
      (runFlow site registry flow st).1.failedFlow = some place.flow := by
  have notes : (Origin.atPart f p (.refused full)).Notes place := by
    rw [Origin.Notes, earlier]
    rfl
  exact fails.names notes

namespace Sample

/-- A part that names no step. -/
def absent : Part := (Part.new "Absent" default).entry

/-- A flow that fails at its only part. -/
def inner : Flow := { Flow.new "inner" .subFlow default with parts := [absent] }

/-- A part that calls the flow, and whose failure leads to another part. -/
def guarded : Part :=
  (Part.new "SubFlow:00000000-0000-0000-0000-000000000000" (uid 1)).entry.onError (uid 2)

/-- A part that names no step either. -/
def missing : Part := Part.new "Missing" (uid 2)

/-- A flow of a kind that handles the failure of another one, and then fails itself. -/
def handling (kind : FlowKind) : Flow :=
  { Flow.new "handling" kind (uid 4) with parts := [guarded, missing] }

/-- A worker with the flow that fails. -/
def failing : Registry := (Registry.empty.withSteps Step.basics).withFlow inner

theorem ofPart_absent (vars : Variables) :
    Task.ofPart failing vars absent = .error (.elementNotFound "Absent") := by
  have ref : absent.stepRef = .ok (.native "Absent") := by rfl
  exact Task.ofPart_of_stepRef ref vars

theorem ofPart_guarded (vars : Variables) :
    Task.ofPart failing vars guarded =
      .ok (.subFlow inner (Task.properties (guarded.effectiveModel vars) vars)) := by
  have ref : guarded.stepRef = .ok (.subFlow default) := by rfl
  exact Task.ofPart_of_stepRef ref vars

/-- The flow that handles the failure and has no room for the part after that. -/
def crowded : Flow := { handling .normal with maxNodes := some 2 }

end Sample

/-- In a flow that handles no failures the place of one that was handled is named as well, if the
ceiling refuses the part after it. -/
theorem handled_failure_is_named_at_the_ceiling :
    (∃ full, FailsAt Sample.site Sample.failing (.walk Sample.crowded)
      (prepareRun Sample.site Sample.crowded Sample.start)
      (.atPart Sample.crowded Sample.missing (.refused full))) ∧
      (runFlow Sample.site Sample.failing Sample.crowded Sample.start).1.failedStep =
        some "Absent" ∧
      (runFlow Sample.site Sample.failing Sample.crowded Sample.start).1.failedFlow =
        some "inner" := by
  have fails : FailsAt Sample.site Sample.failing (.walk Sample.crowded)
      (prepareRun Sample.site Sample.crowded Sample.start)
      (.atPart Sample.crowded Sample.missing (.refused _)) :=
    .enter (by decide) rfl
      (.next rfl rfl (by decide)
        (.call (Sample.ofPart_guarded _)
          (.enter (by decide) rfl
            (.last rfl rfl (by decide) (.unresolved (Sample.ofPart_absent _)) rfl)))
        rfl (.refused rfl rfl (by decide)))
  exact ⟨⟨_, fails⟩, (refused_part_keeps_the_noted_place Sample.site Sample.failing Sample.crowded
    Sample.start fails rfl).2⟩

end FlowGraph
