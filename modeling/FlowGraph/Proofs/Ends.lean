import FlowGraph.Proofs.Rules

/-!
# Every run ends

By the rules every piece of work comes to something, so there is a finite derivation of
every run: files are visited one after the other, a walk goes on within the room that the
ceiling leaves, and walks are nested within the levels. `comesTo_walk_iff` puts the rules
and the walks together.
-/

namespace FlowGraph

section
variable {site : Site} {registry : Registry}

variable (site registry) in
/-- By the rules the work comes to something. -/
def Work.Ends (work : Work) (st : Standing) : Prop :=
  ∃ reply st', ComesTo site registry work st reply st'

theorem Work.Ends.exit_walk {flow : Flow} {st : Standing}
    (h : (Work.walk flow).Ends site registry st) :
    ∃ exit st', ComesTo site registry (.walk flow) st (.leave exit) st' := by
  obtain ⟨reply, st', run⟩ := h
  cases run.value
  exact ⟨_, _, run⟩

theorem Work.Ends.exit_goOn {flow : Flow} {uid : Uuid} {st : Standing}
    (h : (Work.goOn flow uid).Ends site registry st) :
    ∃ exit st', ComesTo site registry (.goOn flow uid) st (.leave exit) st' := by
  obtain ⟨reply, st', run⟩ := h
  cases run.value
  exact ⟨_, _, run⟩

theorem Work.Ends.result_visit {flow : Flow} {total done : Nat} {files : List Path} {st : Standing}
    (h : (Work.visit flow total done files).Ends site registry st) :
    ∃ result st', ComesTo site registry (.visit flow total done files) st (.done result) st' := by
  obtain ⟨reply, st', run⟩ := h
  cases run.value
  exact ⟨_, _, run⟩

variable (site registry) in
/-- All walks that start at a depth end. -/
def WalksEndAt (depth : Nat) : Prop :=
  ∀ (flow : Flow) (st : Standing), st.context.depth = depth →
    (Work.walk flow).Ends site registry st

/-- An iteration ends, for one file after the other. -/
theorem ends_visit (flow : Flow) (total : Nat) (files : List Path) :
    ∀ (done : Nat) (st : Standing), WalksEndAt site registry (st.context.depth + 1) →
      (Work.visit flow total done files).Ends site registry st := by
  induction files with
  | nil => exact fun _ _ _ => ⟨_, _, .visitedAll⟩
  | cons file files ih =>
    intro done st inner
    by_cases stopped : st.ledger.canceled = true
    · exact ⟨_, _, .visitCanceled stopped⟩
    · have live := Bool.eq_false_iff.2 stopped
      obtain ⟨exit, st₁, walk⟩ := (inner flow (Iteration.fileStart flow file st) rfl).exit_walk
      cases graded : Iteration.grade exit with
      | acceptable =>
        obtain ⟨result, st₂, rest⟩ := (ih (done + 1)
          ((st.withLedger st₁.ledger).tell [.progress (.share (done + 1) total)])
          inner).result_visit
        exact ⟨_, _, .visitNext live walk graded rest⟩
      | canceled => exact ⟨_, _, .fileCanceled live walk graded⟩
      | terminal => exact ⟨_, _, .fileTerminal live walk graded⟩
      | failed => exact ⟨_, _, .fileFailed live walk graded⟩

/-- Executing a step ends. -/
theorem ends_step {flow : Flow} {part : Part} {st : Standing} (step : Step)
    (inner : WalksEndAt site registry (st.context.depth + 1))
    (executes : part.step? registry st.context.vars = some step) :
    (Work.attempt flow part).Ends site registry st := by
  cases admits : (Turn.admission step st.context.toScope st.moment).admitted with
  | false => exact ⟨_, _, .barred executes admits⟩
  | true =>
    cases step with
    | acting actions => exact ⟨_, _, .plain executes admits⟩
    | eachFile e =>
      cases plan : Iteration.plan site registry e (Turn.checked (.eachFile e) st) with
      | error reason => exact ⟨_, _, .unplanned executes admits plan⟩
      | ok planned =>
        obtain ⟨target, files⟩ := planned
        cases files with
        | nil => exact ⟨_, _, .nothing executes admits plan⟩
        | cons file files =>
          obtain ⟨result, st', visits⟩ :=
            (ends_visit target _ (file :: files) 0 (Turn.checked (.eachFile e) st)
              inner).result_visit
          exact ⟨_, _, .iterate executes admits plan visits⟩

/-- Whatever a part asks for, doing it ends. -/
theorem ends_attempt (flow : Flow) (part : Part) (st : Standing)
    (inner : WalksEndAt site registry (st.context.depth + 1)) :
    (Work.attempt flow part).Ends site registry st := by
  cases task : Task.ofPart registry st.context.vars part with
  | error e => exact ⟨_, _, .unresolved task⟩
  | ok t =>
    cases t with
    | native step =>
      exact ends_step step inner (Part.step?_of_task task)
    | script step =>
      exact ends_step (.acting (step.action ·)) inner (Part.step?_of_task task)
    | subFlow target properties =>
      obtain ⟨exit, st', walk⟩ :=
        (inner target (Turn.callStart target properties st) rfl).exit_walk
      exact ⟨_, _, .call task walk⟩
    | gotoFlow target =>
      cases entry : target.entryPart with
      | error e => exact ⟨_, _, .lost task entry⟩
      | ok part => exact ⟨_, _, .switch task entry⟩
    | subFlowInput => exact ⟨_, _, .input task⟩
    | subFlowOutput result => exact ⟨_, _, .marker task⟩

/-- A walk that goes on ends: every turn that leads on uses up some of the room that the
ceiling leaves. -/
theorem ends_goOn (flow : Flow) (uid : Uuid) (st : Standing)
    (inner : WalksEndAt site registry (st.context.depth + 1)) :
    (Work.goOn flow uid).Ends site registry st := by
  generalize measure : st.ledger.ceiling - st.ledger.executed = left
  induction left using Nat.strongRecOn generalizing flow uid st with
  | ind left ih =>
    by_cases stopped : st.ledger.canceled = true
    · exact ⟨_, _, .canceled stopped⟩
    have live := Bool.eq_false_iff.2 stopped
    cases found : flow.part? uid with
    | none => exact ⟨_, _, .missing live found⟩
    | some part =>
      by_cases room : st.ledger.executed < st.ledger.ceiling
      · have depth := (Turn.onward_start flow part st.count).depth
        obtain ⟨reply, st₁, work⟩ :=
          ends_attempt flow part (Turn.start flow part st.count) (by rw [depth]; exact inner)
        have turn : Turn.take site registry _ flow uid st = _ := take_of_room live found room
        rw [work.value] at turn
        cases leads : Turn.follow flow part (reply, st₁) with
        | mk way st₂ =>
        rw [leads] at turn
        cases way with
        | leave exit => exact ⟨_, _, .last live found room work leads⟩
        | goOn flow' uid' =>
          have less := Turn.room_take _ _ _ turn
          have onward := Turn.onward_take site registry (nestedWalk site registry st) flow uid st
          rw [turn] at onward
          obtain ⟨exit, st₃, rest⟩ := (ih _ (measure ▸ less) flow' uid' st₂
            (by rw [onward.depth]; exact inner) rfl).exit_goOn
          exact ⟨_, _, .next live found room work leads rest⟩
      · exact ⟨_, _, .refused live found (Nat.le_of_not_lt room)⟩

/-- Walks at every depth end: a nested walk is a level deeper, and the levels are bounded. -/
theorem walksEndAt (site : Site) (registry : Registry) (depth : Nat) :
    WalksEndAt site registry depth := by
  generalize levels : maxFlowDepth + 1 - depth = n
  induction n generalizing depth with
  | zero =>
    intro flow st at_
    exact ⟨_, _, .tooDeep (by omega)⟩
  | succ n ih =>
    intro flow st at_
    have shallow : st.context.depth ≤ maxFlowDepth := by omega
    have inner : WalksEndAt site registry (st.context.depth + 1) := ih _ (by omega)
    cases entry : flow.entryPart with
    | error e => exact ⟨_, _, .noEntry shallow entry⟩
    | ok part =>
      obtain ⟨exit, st', rest⟩ :=
        (ends_goOn flow part.uid st inner).exit_goOn
      exact ⟨_, _, .enter shallow entry rest⟩

/-- **The rules are what runs do**: a walk comes by the rules to exactly what it computes. -/
theorem comesTo_walk_iff {flow : Flow} {st st' : Standing} {exit : Exit} :
    ComesTo site registry (.walk flow) st (.leave exit) st' ↔
      walkFlow site registry flow st = (exit, st') := by
  constructor
  · exact fun h => walkFlow_of_value h.value
  · intro h
    obtain ⟨exit', st'', walk⟩ :=
      (walksEndAt site registry st.context.depth flow st rfl).exit_walk
    have same := walkFlow_of_value walk.value
    rw [h] at same
    cases same
    exact walk

/-- A whole run reports what its walk comes to. -/
theorem runFlow_comesTo (site : Site) (registry : Registry) (flow : Flow) (st : Standing) :
    ∃ exit final, ComesTo site registry (.walk flow) (prepareRun site flow st) (.leave exit) final ∧
      runFlow site registry flow st = reportRun flow exit final :=
  ⟨_, _, comesTo_walk_iff.2 rfl, rfl⟩

end

end FlowGraph
