import FlowGraph.Proofs.Ends

/-!
# Journals that begin earlier

A run only adds to its journal and never looks at it. So what it does on a journal with an earlier
beginning is what it does without that, and what it enters stands on top (`ComesTo.onTop`).
-/

namespace FlowGraph

/-- The ledger with a journal that begins earlier. -/
def Ledger.onTop (l : Ledger) (past : List Event) : Ledger :=
  { l with journal := l.journal ++ past }

/-- A run stands there with a journal that begins earlier. -/
def Standing.onTop (st : Standing) (past : List Event) : Standing :=
  { st with ledger := st.ledger.onTop past }

section
variable (past : List Event)

theorem Ledger.tell_onTop (l : Ledger) (ns : List Notice) :
    (l.onTop past).tell ns = (l.tell ns).onTop past := by
  simp only [tell, onTop, List.append_assoc]

theorem Standing.tell_onTop (st : Standing) (ns : List Notice) :
    (st.onTop past).tell ns = (st.tell ns).onTop past := by
  rw [tell, tell]
  exact congrArg (Standing.mk st.context) (st.ledger.tell_onTop past ns)

theorem Standing.absorb_onTop (st : Standing) (s : Scope) (ns : List Notice) :
    (st.onTop past).absorb s ns = (st.absorb s ns).onTop past :=
  (st.inContext fun c => { c with toScope := s }).tell_onTop past ns

/-- A step is checked in the same way. -/
theorem checked_onTop (step : Step) (st : Standing) :
    Turn.checked step (st.onTop past) = (Turn.checked step st).onTop past :=
  st.absorb_onTop past _ _

/-- A plain step acts in the same way. -/
theorem act_onTop (site : Site) (actions : Moment → Action) (st : Standing) :
    Turn.act site actions (st.onTop past) =
      ((Turn.act site actions st).1, (Turn.act site actions st).2.onTop past) :=
  congrArg (Prod.mk _) (st.absorb_onTop past _ _)

/-- The same is planned for an iteration. -/
theorem planned_onTop {site : Site} {registry : Registry} {e : EachFile} {st : Standing}
    {planned : Except String (Flow × List Path)}
    (plan : Iteration.plan site registry e (Turn.checked (.eachFile e) st) = planned) :
    Iteration.plan site registry e (Turn.checked (.eachFile e) (st.onTop past)) = planned := by
  rw [← plan, checked_onTop]
  exact Iteration.plan_congr rfl rfl

/-- A part starts in the same way. -/
theorem start_onTop (flow : Flow) (part : Part) (st : Standing) :
    Turn.start flow part (st.onTop past) = (Turn.start flow part st).onTop past := by
  unfold Turn.start
  split
  · rfl
  · rfl

/-- What a part came to leads on in the same way. -/
theorem follow_onTop (flow : Flow) (part : Part) (reply : Reply) (st : Standing) :
    Turn.follow flow part (reply, st.onTop past) =
      ((Turn.follow flow part (reply, st)).1,
        (Turn.follow flow part (reply, st)).2.onTop past) := by
  cases reply with
  | leave exit => rfl
  | goOn flow' uid => rfl
  | done result =>
    unfold Turn.follow Turn.route
    dsimp only
    split
    · rfl
    · split
      · rfl
      · rfl

variable {site : Site} {registry : Registry}

/-- **The beginning of the journal does not matter.** -/
theorem ComesTo.onTop {work : Work} {st st' : Standing} {reply : Reply}
    (h : ComesTo site registry work st reply st') :
    ComesTo site registry work (st.onTop past) reply (st'.onTop past) := by
  induction h with
  | tooDeep deep => exact .tooDeep deep
  | noEntry shallow none => exact .noEntry shallow none
  | enter shallow found rest ih => exact .enter shallow found ih
  | canceled stopped => exact .canceled stopped
  | missing live none => exact .missing live none
  | refused live found full => exact .refused live found full
  | @last flow uid part st st₁ st₂ reply exit live found room work leads ih =>
    have start := start_onTop past flow part st.count
    have leads' := follow_onTop past flow part reply st₁
    rw [leads] at leads'
    rw [← start] at ih
    exact .last live found room ih leads'
  | @next flow flow' uid uid' part st st₁ st₂ st₃ reply exit live found room work leads rest
      ih ih' =>
    have start := start_onTop past flow part st.count
    have leads' := follow_onTop past flow part reply st₁
    rw [leads] at leads'
    rw [← start] at ih
    exact .next live found room ih leads' ih'
  | unresolved task => exact .unresolved task
  | marker task => exact .marker task
  | lost task none => exact .lost task none
  | switch task found => exact .switch task found
  | input task => exact .input task
  | @call flow target part st st' properties exit task walk ih =>
    have called : ComesTo site registry (.attempt flow part) (st.onTop past) _ _ := .call task ih
    exact called
  | @barred flow part st step executes bars =>
    have barred : ComesTo site registry (.attempt flow part) (st.onTop past) _ _ :=
      .barred executes bars
    rw [checked_onTop] at barred
    exact barred
  | @plain flow part st actions executes admits =>
    have acted : ComesTo site registry (.attempt flow part) (st.onTop past) _ _ :=
      .plain executes admits
    rw [checked_onTop, act_onTop] at acted
    exact acted
  | @unplanned flow part st e reason executes admits plan =>
    have failed : ComesTo site registry (.attempt flow part) (st.onTop past) _ _ :=
      .unplanned executes admits (planned_onTop past plan)
    rw [checked_onTop] at failed
    exact failed
  | @nothing flow target part st e executes admits plan =>
    have done : ComesTo site registry (.attempt flow part) (st.onTop past) _ _ :=
      .nothing executes admits (planned_onTop past plan)
    rw [checked_onTop] at done
    exact done
  | @iterate flow target part st st' e file files result executes admits plan visits ih =>
    rw [← checked_onTop] at ih
    exact .iterate executes admits (planned_onTop past plan) ih
  | visitedAll => exact .visitedAll
  | visitCanceled stopped => exact .visitCanceled stopped
  | @visitNext flow total done file files st st₁ st₂ exit result live walk graded rest ih ih' =>
    rw [← Standing.tell_onTop] at ih'
    exact .visitNext live ih graded ih'
  | @fileCanceled flow total done file files st st' exit live walk graded ih =>
    have visit : ComesTo site registry (.visit flow total done (file :: files)) (st.onTop past)
        _ _ := .fileCanceled live ih graded
    exact visit
  | @fileTerminal flow total done file files st st' exit live walk graded ih =>
    have visit : ComesTo site registry (.visit flow total done (file :: files)) (st.onTop past)
        _ _ := .fileTerminal live ih graded
    exact visit
  | @fileFailed flow total done file files st st' exit live walk graded ih =>
    have visit : ComesTo site registry (.visit flow total done (file :: files)) (st.onTop past)
        _ _ := .fileFailed live ih graded
    exact visit

/-- A walk on a journal that begins earlier. -/
theorem walkFlow_onTop (flow : Flow) (st : Standing) :
    walkFlow site registry flow (st.onTop past) =
      ((walkFlow site registry flow st).1, (walkFlow site registry flow st).2.onTop past) :=
  comesTo_walk_iff.1 ((comesTo_walk_iff.2 rfl).onTop past)

end

/-! ## Runs that agree -/

/-- The ledgers count, record and tell the same. Their journals may show different parts. -/
structure Ledger.Agrees (a b : Ledger) : Prop where
  clock : a.clock = b.clock
  ceiling : a.ceiling = b.ceiling
  executed : a.executed = b.executed
  canceled : a.canceled = b.canceled
  lastNumber : a.lastNumber = b.lastNumber
  records : a.records = b.records
  notices : a.notices = b.notices

/-- What is told after an event. -/
theorem Ledger.notices_enter (l : Ledger) (e : Event) :
    (l.enter e).notices = l.notices ++ (notice? e).toList := by
  rw [notices, enter_journal, List.reverse_cons, List.filterMap_append]
  cases e <;> rfl

/-- The runs are at the same context, and their ledgers agree. -/
structure Standing.Agrees (a b : Standing) : Prop where
  context : a.context = b.context
  ledger : a.ledger.Agrees b.ledger

section
variable {a b c : Standing}

theorem Standing.Agrees.refl (a : Standing) : a.Agrees a :=
  ⟨rfl, rfl, rfl, rfl, rfl, rfl, rfl, rfl⟩

theorem Standing.Agrees.trans (h : a.Agrees b) (h' : b.Agrees c) : a.Agrees c where
  context := h.context.trans h'.context
  ledger :=
    { clock := h.ledger.clock.trans h'.ledger.clock
      ceiling := h.ledger.ceiling.trans h'.ledger.ceiling
      executed := h.ledger.executed.trans h'.ledger.executed
      canceled := h.ledger.canceled.trans h'.ledger.canceled
      lastNumber := h.ledger.lastNumber.trans h'.ledger.lastNumber
      records := h.ledger.records.trans h'.ledger.records
      notices := h.ledger.notices.trans h'.ledger.notices }

/-- Where a run stands, without its journal. -/
def Standing.bare (st : Standing) : Standing :=
  { st with ledger := { st.ledger with journal := [] } }

theorem Standing.bare_onTop (st : Standing) : st.bare.onTop st.ledger.journal = st := rfl

/-- Runs that agree differ in their journals only. -/
theorem Standing.Agrees.bare (h : a.Agrees b) : a.bare = b.bare := by
  unfold Standing.bare
  rw [Standing.mk.injEq, Ledger.mk.injEq]
  exact ⟨h.context, h.ledger.clock, h.ledger.ceiling, h.ledger.executed, h.ledger.canceled,
    h.ledger.lastNumber, h.ledger.records, rfl⟩

/-- What is told on top of journals that tell the same. -/
theorem Standing.agrees_onTop (st : Standing) {past past' : List Event}
    (same : past.reverse.filterMap Ledger.notice? = past'.reverse.filterMap Ledger.notice?) :
    (st.onTop past).Agrees (st.onTop past') := by
  refine ⟨rfl, rfl, rfl, rfl, rfl, rfl, rfl, ?_⟩
  show ((st.ledger.journal ++ past).reverse.filterMap Ledger.notice?) =
    (st.ledger.journal ++ past').reverse.filterMap Ledger.notice?
  rw [List.reverse_append, List.reverse_append, List.filterMap_append, List.filterMap_append, same]

/-- **Walks from standings that agree** end in the same way, and at standings that agree. -/
theorem Standing.Agrees.walkFlow {site : Site} {registry : Registry} (h : a.Agrees b)
    (flow : Flow) :
    (FlowGraph.walkFlow site registry flow a).1 = (FlowGraph.walkFlow site registry flow b).1 ∧
      (FlowGraph.walkFlow site registry flow a).2.Agrees
        (FlowGraph.walkFlow site registry flow b).2 := by
  rw [← a.bare_onTop, ← b.bare_onTop, ← h.bare, walkFlow_onTop, walkFlow_onTop]
  exact ⟨rfl, Standing.agrees_onTop _ h.ledger.notices⟩

end

end FlowGraph
