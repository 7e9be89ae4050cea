import FlowGraph.Proofs.Records
import FlowGraph.Proofs.Telling

/-!
# Runs on other ledgers

The ledger decides little of what a run does: parts are refused at the ceiling, and nothing starts
after the signal to cancel. Apart from that the ledger only keeps what it is told, and shows it to
the steps that ask for it. So a piece of work of which no part was refused, and whose steps repeat,
is done in the same way on a ledger with another past, as long as fewer parts were counted on it,
and it keeps the same news there (`ComesTo.replay`).
-/

namespace FlowGraph

/-- A record without its number and the time that the step took. -/
def ExecutedStep.content (s : ExecutedStep) : ExecutedStep := { s with step := 0, durationMs := 0 }

/-- The moments are as long after two times on the node, in walks that are as deep and have come to
the same code. What was counted and recorded before may differ. -/
structure Moment.Beside (time time' : Nat) (m m' : Moment) : Prop where
  clock : ∃ passed, m.clock = time + passed ∧ m'.clock = time' + passed
  canceled : m'.canceled = m.canceled
  lastCode : m'.lastCode = m.lastCode
  depth : m'.depth = m.depth

/-- After one time on the node the step does what it does after another one, whatever was counted
and recorded before. -/
inductive Step.Repeats (site : Site) (time time' : Nat) : Step → Prop where
  | plain (action : Action) : Repeats site time time' (.plain action)
  | script (step : ScriptStep)
      (scripts : ∀ passed, site.scripts (time' + passed) = site.scripts (time + passed)) :
      Repeats site time time' (.acting (step.action ·))
  | eachFile (e : EachFile)
      (files : ∀ passed, site.filesAt (time' + passed) = site.filesAt (time + passed)) :
      Repeats site time time' (.eachFile e)
  | acting {actions : Moment → Action}
      (same : ∀ m m', Moment.Beside time time' m m' →
        (actions m').check = (actions m).check ∧ (actions m').run site = (actions m).run site) :
      Repeats site time time' (.acting actions)

/-- The steps of every node repeat, if the files are the same again and, for the one that runs
commands, the commands are. -/
theorem Step.repeats_of_basics {site : Site} {time time' : Nat} {name : String}
    {make : StepFactory} (basic : (name, make) ∈ Step.basics)
    (files : ∀ passed, site.filesAt (time' + passed) = site.filesAt (time + passed))
    (commands : name = "Basic.ExecuteCommand" →
      ∀ passed, site.commands (time' + passed) = site.commands (time + passed)) (m : Model) :
    (make m).Repeats site time time' := by
  simp only [Step.basics, List.mem_cons, List.not_mem_nil, or_false, Prod.mk.injEq] at basic
  rcases basic with ⟨-, rfl⟩ | ⟨rfl, rfl⟩ | ⟨-, rfl⟩ | ⟨-, rfl⟩ | ⟨-, rfl⟩
  · exact .eachFile _ files
  · refine .acting fun m m' beside => ⟨rfl, ?_⟩
    obtain ⟨passed, clock, clock'⟩ := beside.clock
    simp only [clock, clock', commands rfl]
  all_goals exact .plain _

/-- On a node where all is the same again, the steps of every node and scripts repeat. -/
theorem Part.repeats_of_step? {site : Site} {registry : Registry} (basic : registry.IsBasic)
    {time time' : Nat}
    (files : ∀ passed, site.filesAt (time' + passed) = site.filesAt (time + passed))
    (commands : ∀ passed, site.commands (time' + passed) = site.commands (time + passed))
    (scripts : ∀ passed, site.scripts (time' + passed) = site.scripts (time + passed))
    {part : Part} {vars : Variables} {step : Step}
    (executes : part.step? registry vars = some step) : step.Repeats site time time' := by
  obtain ⟨⟨name, make⟩, mem, m, rfl⟩ | ⟨script, rfl⟩ := Part.step?_eq_some basic executes
  · exact Step.repeats_of_basics mem files (fun _ => commands) m
  · exact .script script scripts

/-- A plain step that repeats does the same at moments that are beside each other. -/
theorem Step.Repeats.same {site : Site} {time time' : Nat} {actions : Moment → Action}
    (h : (Step.acting actions).Repeats site time time') {m m' : Moment}
    (beside : Moment.Beside time time' m m') :
    (actions m').check = (actions m).check ∧ (actions m').run site = (actions m).run site := by
  cases h with
  | plain action => exact ⟨rfl, rfl⟩
  | script step scripts =>
    obtain ⟨passed, clock, clock'⟩ := beside.clock
    refine ⟨rfl, ?_⟩
    simp only [ScriptStep.action, clock, clock', scripts]
  | acting same => exact same m m' beside

theorem Step.Repeats.files {site : Site} {time time' : Nat} {e : EachFile}
    (h : (Step.eachFile e).Repeats site time time') (passed : Nat) :
    site.filesAt (time' + passed) = site.filesAt (time + passed) := by
  cases h with
  | eachFile e files => exact files passed

namespace Ledger

/-- The records that were entered after an earlier state of the ledger, in order. -/
def recordsSince (l earlier : Ledger) : List ExecutedStep :=
  (l.records.take (l.records.length - earlier.records.length)).reverse

/-- Two ledgers have gone on alike from two pasts: for as long and under the same ceiling and signal
they were told the same news and show the same steps, and the second one has counted fewer
parts. -/
structure Beside (past past' a b : Ledger) : Prop where
  clock : ∃ passed, a.clock = past.clock + passed ∧ b.clock = past'.clock + passed
  ceiling : b.ceiling = a.ceiling
  canceled : b.canceled = a.canceled
  fewer : b.executed ≤ a.executed
  news : ∃ news, a.journal = news ++ past.journal ∧ b.journal = news ++ past'.journal
  records : ∃ shown shown', a.records = shown ++ past.records ∧
    b.records = shown' ++ past'.records ∧
    shown'.map ExecutedStep.content = shown.map ExecutedStep.content

namespace Beside

variable {past past' a b : Ledger}

theorem refl (ceiling : past'.ceiling = past.ceiling) (canceled : past'.canceled = past.canceled)
    (fewer : past'.executed ≤ past.executed) : Beside past past' past past' :=
  ⟨⟨0, rfl, rfl⟩, ceiling, canceled, fewer, ⟨[], rfl, rfl⟩, ⟨[], [], rfl, rfl, rfl⟩⟩

theorem count (h : Beside past past' a b) : Beside past past' a.count b.count := by
  obtain ⟨passed, clock, clock'⟩ := h.clock
  exact ⟨⟨passed + 1, congrArg (· + 1) clock, congrArg (· + 1) clock'⟩, h.ceiling, h.canceled,
    Nat.succ_le_succ h.fewer, h.news, h.records⟩

theorem tell (h : Beside past past' a b) (ns : List Notice) :
    Beside past past' (a.tell ns) (b.tell ns) where
  clock := h.clock
  ceiling := h.ceiling
  canceled := by rw [tell_canceled, tell_canceled, h.canceled]
  fewer := h.fewer
  news := by
    obtain ⟨news, journal, journal'⟩ := h.news
    refine ⟨(ns.map Event.notice).reverse ++ news, ?_, ?_⟩
    · rw [tell_journal, journal, List.append_assoc]
    · rw [tell_journal, journal', List.append_assoc]
  records := h.records

theorem enter (h : Beside past past' a b) (e : Event) :
    Beside past past' (a.enter e) (b.enter e) where
  clock := h.clock
  ceiling := h.ceiling
  canceled := h.canceled
  fewer := h.fewer
  news := by
    obtain ⟨news, journal, journal'⟩ := h.news
    refine ⟨e :: news, ?_, ?_⟩
    · rw [enter_journal, journal, List.cons_append]
    · rw [enter_journal, journal', List.cons_append]
  records := by
    obtain ⟨shown, shown', records, records', same⟩ := h.records
    refine ⟨(e.record? a.nextNumber).toList ++ shown, (e.record? b.nextNumber).toList ++ shown',
      ?_, ?_, ?_⟩
    · show _ ++ a.records = _
      rw [records, List.append_assoc]
    · show _ ++ b.records = _
      rw [records', List.append_assoc]
    · -- Only the number of a record depends on the ledger that it is entered in.
      rw [List.map_append, List.map_append, same, e.record?_map a.nextNumber,
        e.record?_map b.nextNumber]
      cases e.record? 0 with
      | none => rfl
      | some s => rfl

/-- Where a part may start on the first ledger, it may start on the second one. -/
theorem room (h : Beside past past' a b) (room : a.executed < a.ceiling) :
    b.executed < b.ceiling := by
  rw [h.ceiling]
  exact Nat.lt_of_le_of_lt h.fewer room

/-- Ledgers that have gone on alike were told the same since then. -/
theorem since_eq_since (h : Beside past past' a b) : b.since past' = a.since past := by
  obtain ⟨news, journal, journal'⟩ := h.news
  rw [since_eq journal, since_eq journal']

/-- Ledgers that have gone on alike show the same steps since then. -/
theorem recordsSince_content (h : Beside past past' a b) :
    (b.recordsSince past').map ExecutedStep.content =
      (a.recordsSince past).map ExecutedStep.content := by
  obtain ⟨shown, shown', records, records', same⟩ := h.records
  unfold recordsSince
  rw [records, records', List.length_append, List.length_append, Nat.add_sub_cancel,
    Nat.add_sub_cancel, List.take_left, List.take_left, List.map_reverse, List.map_reverse, same]

end Beside

end Ledger

section
variable {site : Site} {registry : Registry} {past past' : Ledger}

/-- Steps are taken at moments that are beside each other. -/
theorem moment_withLedger {st : Standing} {l : Ledger}
    (beside : Ledger.Beside past past' st.ledger l) :
    Moment.Beside past.clock past'.clock st.moment (st.withLedger l).moment :=
  ⟨beside.clock, beside.canceled, rfl, rfl⟩

/-- A plain step that repeats is checked on another ledger as it is checked on this one. -/
theorem checked_withLedger {actions : Moment → Action} {st : Standing} {l : Ledger}
    (repeats : (Step.acting actions).Repeats site past.clock past'.clock)
    (beside : Ledger.Beside past past' st.ledger l) :
    (actions (st.withLedger l).moment).check = (actions st.moment).check ∧
      Turn.checked (.acting actions) (st.withLedger l) =
        (Turn.checked (.acting actions) st).withLedger
          (l.tell ((actions st.moment).check st.context.toScope).notices) := by
  have same := (repeats.same (moment_withLedger beside)).1
  refine ⟨same, ?_⟩
  unfold Turn.checked Turn.admission
  dsimp only
  rw [same]
  rfl

/-- An iteration for which files are there again has the same plan on another ledger. -/
theorem planned_withLedger {e : EachFile} {st : Standing} {l : Ledger}
    {planned : Except String (Flow × List Path)}
    (repeats : (Step.eachFile e).Repeats site past.clock past'.clock)
    (beside : Ledger.Beside past past' st.ledger l)
    (plan : Iteration.plan site registry e (Turn.checked (.eachFile e) st) = planned) :
    Iteration.plan site registry e (Turn.checked (.eachFile e) (st.withLedger l)) = planned := by
  obtain ⟨passed, clock, clock'⟩ := beside.clock
  have files : site.filesAt l.clock = site.filesAt st.ledger.clock := by
    rw [clock, clock', repeats.files]
  rw [← plan]
  exact Iteration.plan_congr files rfl

/-- A part starts on another ledger as it starts on this one. -/
theorem start_withLedger (flow : Flow) (part : Part) (st : Standing) {l : Ledger}
    (beside : Ledger.Beside past past' st.ledger l) :
    ∃ l', Ledger.Beside past past' (Turn.start flow part st.count).ledger l' ∧
      Turn.start flow part (st.withLedger l).count =
        (Turn.start flow part st.count).withLedger l' := by
  refine ⟨l.count.enter (.started flow part (Turn.start flow part st.count).context), ?_, ?_⟩
  · rw [Turn.start_ledger]
    exact beside.count.enter _
  · unfold Turn.start
    split
    · rfl
    · rfl

/-- A plain step that repeats acts on another ledger as it acts on this one. -/
theorem act_withLedger {actions : Moment → Action} {st : Standing} {l : Ledger}
    (repeats : (Step.acting actions).Repeats site past.clock past'.clock)
    (beside : Ledger.Beside past past' st.ledger l) :
    ∃ l', Ledger.Beside past past' (Turn.act site actions st).2.ledger l' ∧
      Turn.act site actions (st.withLedger l) =
        ((Turn.act site actions st).1, (Turn.act site actions st).2.withLedger l') := by
  refine ⟨_, beside.tell _, ?_⟩
  have signal : (st.withLedger l).ledger.canceled = st.ledger.canceled := beside.canceled
  have same := (repeats.same (moment_withLedger beside)).2
  unfold Turn.act
  rw [signal, same]
  rfl

/-- What a part came to leads on from another ledger as it does from this one. -/
theorem follow_withLedger {flow : Flow} {part : Part} {reply : Reply} {st st' : Standing}
    {turn : Turn} {l : Ledger} (leads : Turn.follow flow part (reply, st) = (turn, st'))
    (beside : Ledger.Beside past past' st.ledger l) :
    ∃ l', Ledger.Beside past past' st'.ledger l' ∧
      Turn.follow flow part (reply, st.withLedger l) = (turn, st'.withLedger l') := by
  cases reply with
  | done result =>
    have noted := beside.enter (.finished flow part result st.context.depth)
    have follows : Turn.follow flow part (.done result, st.withLedger l) =
        Turn.route flow part result (Turn.note flow part result (st.withLedger l)) := rfl
    unfold Turn.follow Turn.route at leads
    unfold Turn.route at follows
    cases next : Turn.next? flow part result with
    | some uid =>
      simp only [next] at leads follows
      cases leads
      exact ⟨_, noted, follows⟩
    | none =>
      simp only [next] at leads follows
      cases leads
      cases reason : Turn.endReason? part.displayName result with
      | none =>
        rw [reason] at follows
        exact ⟨_, noted, follows⟩
      | some text =>
        rw [reason] at follows
        exact ⟨_, noted, follows⟩
  | leave exit =>
    cases leads
    exact ⟨l, beside, rfl⟩
  | goOn flow' uid =>
    cases leads
    exact ⟨l, beside, rfl⟩

/-- The event is no refusal, and if it starts a part that executes a step, then the step repeats
after another time on the node. -/
structure Event.Repeats (site : Site) (registry : Registry) (time time' : Nat) (e : Event) :
    Prop where
  unrefused : e.isRefusal = false
  starts : e.Starts registry (Step.Repeats site time time')

/-- **The ledger's past does not matter**: work of which no part was refused and whose steps repeat
is done in the same way on a ledger with another past on which fewer parts were counted. -/
theorem ComesTo.replay {work : Work} {st st' : Standing} {reply : Reply}
    (h : ComesTo site registry work st reply st')
    (repeats : st.ledger.Tells (Event.Repeats site registry past.clock past'.clock) st'.ledger)
    (own : work.Starts registry (Step.Repeats site past.clock past'.clock) st) {l : Ledger}
    (beside : Ledger.Beside past past' st.ledger l) :
    ∃ l', Ledger.Beside past past' st'.ledger l' ∧
      ComesTo site registry work (st.withLedger l) reply (st'.withLedger l') := by
  induction h generalizing l with
  | tooDeep deep => exact ⟨_, beside.enter _, .tooDeep deep⟩
  | noEntry shallow none => exact ⟨l, beside, .noEntry shallow none⟩
  | enter shallow found rest ih =>
    obtain ⟨l', beside', rest'⟩ := ih repeats trivial beside
    exact ⟨l', beside', .enter shallow found rest'⟩
  | canceled stopped => exact ⟨l, beside, .canceled (beside.canceled.trans stopped)⟩
  | missing live none => exact ⟨l, beside, .missing (beside.canceled.trans live) none⟩
  | @refused flow uid part st live found full =>
    cases (repeats.of_cons rfl).unrefused
  | @last flow uid part st st₁ st₂ reply exit live found room work leads ih =>
    obtain ⟨starts, inner⟩ := work.tells_turn leads repeats
    obtain ⟨l₀, beside₀, start⟩ := start_withLedger flow part st beside
    obtain ⟨l₁, beside₁, work'⟩ := ih inner starts.starts beside₀
    obtain ⟨l₂, beside₂, leads'⟩ := follow_withLedger leads beside₁
    rw [← start] at work'
    exact ⟨l₂, beside₂, .last (beside.canceled.trans live) found (beside.room room) work' leads'⟩
  | @next flow flow' uid uid' part st st₁ st₂ st₃ reply exit live found room work leads rest
      ih ih' =>
    obtain ⟨turn, after⟩ := repeats.split (work.onward_turn leads).ledger rest.onward.ledger
    obtain ⟨starts, inner⟩ := work.tells_turn leads turn
    obtain ⟨l₀, beside₀, start⟩ := start_withLedger flow part st beside
    obtain ⟨l₁, beside₁, work'⟩ := ih inner starts.starts beside₀
    obtain ⟨l₂, beside₂, leads'⟩ := follow_withLedger leads beside₁
    obtain ⟨l₃, beside₃, rest'⟩ := ih' after trivial beside₂
    rw [← start] at work'
    exact ⟨l₃, beside₃,
      .next (beside.canceled.trans live) found (beside.room room) work' leads' rest'⟩
  | unresolved task => exact ⟨l, beside, .unresolved task⟩
  | marker task => exact ⟨_, beside.enter _, .marker task⟩
  | lost task none => exact ⟨l, beside, .lost task none⟩
  | switch task found => exact ⟨l, beside, .switch task found⟩
  | input task => exact ⟨l, beside, .input task⟩
  | @call flow target part st st' properties exit task walk ih =>
    obtain ⟨l', beside', walk'⟩ := ih repeats trivial beside
    have called : ComesTo site registry (.attempt flow part) (st.withLedger l) _ _ :=
      .call task walk'
    exact ⟨l', beside', called⟩
  | @barred flow part st step executes bars =>
    cases step with
    | eachFile e =>
      have barred : ComesTo site registry (.attempt flow part) (st.withLedger l) _ _ :=
        .barred executes bars
      exact ⟨_, (beside.tell _).enter _, barred⟩
    | acting actions =>
      obtain ⟨same, checks⟩ := checked_withLedger (own _ executes) beside
      have barred : ComesTo site registry (.attempt flow part) (st.withLedger l) _ _ :=
        .barred executes (by rw [Turn.admission, same]; exact bars)
      rw [checks] at barred
      exact ⟨_, (beside.tell _).enter _, barred⟩
  | @plain flow part st actions executes admits =>
    have repeated := own _ executes
    obtain ⟨same, checks⟩ := checked_withLedger repeated beside
    have told : Ledger.Beside past past' (Turn.checked (.acting actions) st).ledger _ :=
      beside.tell ((actions st.moment).check st.context.toScope).notices
    obtain ⟨l', beside', act⟩ := act_withLedger repeated told
    have acted : ComesTo site registry (.attempt flow part) (st.withLedger l) _ _ :=
      .plain executes (by rw [same]; exact admits)
    rw [checks, act] at acted
    exact ⟨l', beside', acted⟩
  | @unplanned flow part st e reason executes admits plan =>
    have failed : ComesTo site registry (.attempt flow part) (st.withLedger l) _ _ :=
      .unplanned executes admits (planned_withLedger (own _ executes) beside plan)
    exact ⟨_, beside.tell _, failed⟩
  | @nothing flow target part st e executes admits plan =>
    have done : ComesTo site registry (.attempt flow part) (st.withLedger l) _ _ :=
      .nothing executes admits (planned_withLedger (own _ executes) beside plan)
    exact ⟨_, beside.tell _, done⟩
  | @iterate flow target part st st' e file files result executes admits plan visits ih =>
    have repeated := own _ executes
    obtain ⟨-, inner⟩ := repeats.split (Standing.Onward.absorb st _ _).ledger visits.onward.ledger
    obtain ⟨l', beside', visits'⟩ := ih inner ⟨e, repeated⟩ (beside.tell _)
    exact ⟨l', beside', .iterate executes admits (planned_withLedger repeated beside plan) visits'⟩
  | visitedAll => exact ⟨l, beside, .visitedAll⟩
  | visitCanceled stopped => exact ⟨l, beside, .visitCanceled (beside.canceled.trans stopped)⟩
  | visitNext live walk graded rest ih ih' =>
    obtain ⟨before, after⟩ := repeats.split walk.onward.ledger
      ((Ledger.Onward.tell _ _).trans rest.onward.ledger)
    obtain ⟨-, after⟩ := after.split (.tell _ _) rest.onward.ledger
    obtain ⟨l₁, beside₁, walk'⟩ := ih before trivial beside
    obtain ⟨l₂, beside₂, rest'⟩ := ih' after own (beside₁.tell _)
    exact ⟨l₂, beside₂, .visitNext (beside.canceled.trans live) walk' graded rest'⟩
  | @fileCanceled flow total done file files st st' exit live walk graded ih =>
    obtain ⟨l', beside', walk'⟩ := ih repeats trivial beside
    have visit : ComesTo site registry (.visit flow total done (file :: files)) (st.withLedger l)
        _ _ := .fileCanceled (beside.canceled.trans live) walk' graded
    exact ⟨l', beside', visit⟩
  | @fileTerminal flow total done file files st st' exit live walk graded ih =>
    obtain ⟨l', beside', walk'⟩ := ih repeats trivial beside
    have visit : ComesTo site registry (.visit flow total done (file :: files)) (st.withLedger l)
        _ _ := .fileTerminal (beside.canceled.trans live) walk' graded
    exact ⟨l', beside', visit⟩
  | @fileFailed flow total done file files st st' exit live walk graded ih =>
    obtain ⟨l', beside', walk'⟩ := ih repeats trivial beside
    have visit : ComesTo site registry (.visit flow total done (file :: files)) (st.withLedger l)
        _ _ := .fileFailed (beside.canceled.trans live) walk' graded
    exact ⟨l', beside', visit⟩

end

end FlowGraph
