import FlowGraph.Proofs.Stopping

/-!
# After the cancel signal

The signal is only looked at before a part and before a file, yet nothing starts once it
is set: the step that set it finishes, its walk goes on to the next look or leaves, and so
on outwards through the parts that called the walk or iterated over it. `CanceledBy` says
in which order that is told, where the run stands when that step starts, and that each part
on the way is routed by its own result.
-/

namespace FlowGraph

/-- The notices as events, the latest first. -/
def told (ns : List Notice) : List Event := (ns.map Event.notice).reverse

/-- What the step of a part comes to that starts where a live run stands: its notices, and its
result unless its check bars it. -/
inductive Ran (site : Site) (registry : Registry) (part : Part) (st : Standing) :
    List Notice → Option StepResult → Prop where
  | barred {step : Step} {admission : Admission} (live : st.ledger.canceled = false)
      (executes : part.step? registry st.context.vars = some step)
      (checked : Turn.admission step st.context.toScope st.moment = admission)
      (bars : admission.admitted = false) :
      Ran site registry part st admission.notices none
  | acted {actions : Moment → Action} {admission : Admission} {outcome : Outcome}
      (live : st.ledger.canceled = false)
      (executes : part.step? registry st.context.vars = some (.acting actions))
      (checked : (actions st.moment).check st.context.toScope = admission)
      (admits : admission.admitted = true)
      (runs : (actions (Turn.checked (.acting actions) st).moment).run site
        (admission.notices.any Notice.isCancel) admission.scope = outcome) :
      Ran site registry part st (admission.notices ++ outcome.notices) (some outcome.result)

/-- How a walk ends if the run is canceled while a part runs that has a result: the part
that the result leads to is not started. -/
def exitAfter (flow : Flow) (part : Part) (result : StepResult) : Exit :=
  if (Turn.next? flow part result).isSome then .canceled else Turn.endOf result

/-- What a part tells and has for a result when a walk that it asked for ends in a
canceled run. -/
inductive Answers : Exit → List Notice → StepResult → Prop where
  /-- A called flow, or a file after which the run cannot go on. -/
  | handed (exit : Exit) : Answers exit [] exit.asStepResult
  | lastFile {exit : Exit} {total done : Nat} (graded : Iteration.grade exit = .acceptable) :
      Answers exit [.progress (.share done total)] EachFile.allProcessed
  | moreFiles {exit : Exit} {total done : Nat} (graded : Iteration.grade exit = .acceptable) :
      Answers exit [.progress (.share done total)] .canceled
  | fileFailed {exit : Exit} (graded : Iteration.grade exit = .failed) : Answers exit [] .failure

/-- In a walk from a ledger that is left with an exit the events, the latest first, tell of a
step that cancels the run: it ends as it does where the run stands when its part has started,
and then the parts end one after the other whose walks it ran in, each with the result that its
own work gives it. -/
inductive CanceledBy (site : Site) (registry : Registry) (l : Ledger) :
    List Event → Exit → Prop where
  | acted {flow : Flow} {part : Part} {c : Context} {ns : List Notice} {result : StepResult}
      {depth : Nat} {earlier : List Event}
      (ran : Ran site registry part ⟨c, l.after (.started flow part c :: earlier)⟩ ns (some result))
      (cancels : .cancel ∈ ns) (first : ∀ e ∈ earlier, e.isCancel = false) :
      CanceledBy site registry l
        (.finished flow part result depth :: (told ns ++ .started flow part c :: earlier))
        (exitAfter flow part result)
  | barred {flow : Flow} {part : Part} {c : Context} {ns : List Notice} {earlier : List Event}
      (ran : Ran site registry part ⟨c, l.after (.started flow part c :: earlier)⟩ ns none)
      (cancels : .cancel ∈ ns) (first : ∀ e ∈ earlier, e.isCancel = false) :
      CanceledBy site registry l
        (.barred flow part :: (told ns ++ .started flow part c :: earlier)) .failed
  | handed {flow : Flow} {part : Part} {ns : List Notice} {result : StepResult} {depth : Nat}
      {news : List Event} {exit : Exit} (inner : CanceledBy site registry l news exit)
      (answers : Answers exit ns result) :
      CanceledBy site registry l (.finished flow part result depth :: (told ns ++ news))
        (exitAfter flow part result)

/-- The same for a part whose walk has ended but not yet the part itself. -/
inductive Handed (site : Site) (registry : Registry) (l : Ledger) : List Event → Reply → Prop where
  | mk {ns : List Notice} {news : List Event} {exit : Exit} {result : StepResult}
      (inner : CanceledBy site registry l news exit) (answers : Answers exit ns result) :
      Handed site registry l (told ns ++ news) (.done result)

/-- The same for a part that has started and has not ended. -/
inductive Pending (site : Site) (registry : Registry) (flow : Flow) (part : Part) (st : Standing) :
    List Event → Reply → Prop where
  | acted {ns : List Notice} {result : StepResult}
      (ran : Ran site registry part st ns (some result)) (cancels : .cancel ∈ ns) :
      Pending site registry flow part st (told ns) (.done result)
  | barred {ns : List Notice} (ran : Ran site registry part st ns none) (cancels : .cancel ∈ ns) :
      Pending site registry flow part st (.barred flow part :: told ns) (.leave .failed)
  | handed {news : List Event} {reply : Reply} (h : Handed site registry st.ledger news reply) :
      Pending site registry flow part st news reply

/-- What the events of a piece of work tell that cancels the run. -/
def Work.Canceled (site : Site) (registry : Registry) (st : Standing) (news : List Event)
    (reply : Reply) : Work → Prop
  | .walk _ | .goOn _ _ =>
    ∃ exit, reply = .leave exit ∧ CanceledBy site registry st.ledger news exit
  | .attempt flow part => Pending site registry flow part st news reply
  | .visit _ _ _ _ => Handed site registry st.ledger news reply

section
variable {site : Site} {registry : Registry} {l : Ledger}

theorem any_isCancel {ns : List Notice} (h : ns.any Notice.isCancel = true) : .cancel ∈ ns := by
  obtain ⟨n, hn, cancels⟩ := List.any_eq_true.1 h
  cases n with
  | cancel => exact hn
  | _ => cases cancels

/-- What was told before belongs to it as well, if nothing of it canceled the run. -/
theorem CanceledBy.after {before news : List Event} {exit : Exit}
    (h : CanceledBy site registry (l.after before) news exit)
    (kept : ∀ e ∈ before, e.isCancel = false) :
    CanceledBy site registry l (news ++ before) exit := by
  have extend {earlier : List Event} (first : ∀ e ∈ earlier, e.isCancel = false) :
      ∀ e ∈ earlier ++ before, e.isCancel = false := fun e he =>
    (List.mem_append.1 he).elim (first e) (kept e)
  induction h with
  | acted ran cancels first =>
    rw [← Ledger.after_append, List.cons_append] at ran
    rw [List.cons_append, List.append_assoc, List.cons_append]
    exact .acted ran cancels (extend first)
  | barred ran cancels first =>
    rw [← Ledger.after_append, List.cons_append] at ran
    rw [List.cons_append, List.append_assoc, List.cons_append]
    exact .barred ran cancels (extend first)
  | handed inner answers ih =>
    rw [List.cons_append, List.append_assoc]
    exact .handed ih answers

/-- A part that gives its answer without telling anything. -/
theorem Handed.silent {news : List Event} {exit : Exit} {result : StepResult}
    (inner : CanceledBy site registry l news exit) (answers : Answers exit [] result) :
    Handed site registry l news (.done result) :=
  @Handed.mk site registry l [] news exit result inner answers

theorem Handed.after {before news : List Event} {reply : Reply}
    (h : Handed site registry (l.after before) news reply)
    (kept : ∀ e ∈ before, e.isCancel = false) : Handed site registry l (news ++ before) reply := by
  cases h with
  | mk inner answers =>
    rw [List.append_assoc]
    exact .mk (inner.after kept) answers

/-- Where a walk goes after a turn of a canceled run. -/
def Turn.exit : Turn → Exit
  | .leave exit => exit
  | .goOn _ _ => .canceled

theorem exit_route (flow : Flow) (part : Part) (result : StepResult) (st : Standing) :
    (Turn.route flow part result st).1.exit = exitAfter flow part result := by
  rw [Turn.route, exitAfter]
  cases Turn.next? flow part result <;> rfl

/-- A part with a result ends, and the turn goes where the result leads. -/
theorem follow_done {flow : Flow} {part : Part} {result : StepResult} {st st' : Standing}
    {turn : Turn} (leads : Turn.follow flow part (.done result, st) = (turn, st')) :
    st'.ledger.journal = .finished flow part result st.context.depth :: st.ledger.journal ∧
      turn.exit = exitAfter flow part result := by
  have ledger := Turn.follow_done_ledger flow part result st
  have way := exit_route flow part result (Turn.note flow part result st)
  rw [leads] at ledger
  rw [← Turn.follow, leads] at way
  exact ⟨congrArg Ledger.journal ledger, way⟩

/-- The part ends, and with it the turn. -/
theorem Pending.follow {flow : Flow} {part : Part} {c : Context} {news : List Event}
    {reply : Reply} {st st' : Standing} {turn : Turn}
    (h : Pending site registry flow part ⟨c, l.after [.started flow part c]⟩ news reply)
    (journal : st.ledger.journal = news ++ .started flow part c :: l.journal)
    (leads : Turn.follow flow part (reply, st) = (turn, st')) :
    ∃ news', st'.ledger.journal = news' ++ l.journal ∧
      CanceledBy site registry l news' turn.exit := by
  cases h with
  | @acted ns result ran cancels =>
    obtain ⟨journal', way⟩ := follow_done leads
    refine ⟨.finished flow part result st.context.depth ::
      (told ns ++ .started flow part c :: []), ?_, ?_⟩
    · rw [journal', journal]
      simp
    · rw [way]
      exact .acted ran cancels (by simp)
  | @barred ns ran cancels =>
    cases leads
    refine ⟨.barred flow part :: (told ns ++ .started flow part c :: []), ?_,
      .barred ran cancels (by simp)⟩
    rw [journal]
    simp
  | handed h =>
    cases h with
    | @mk ns news exit result inner answers =>
      obtain ⟨journal', way⟩ := follow_done leads
      refine ⟨.finished flow part result st.context.depth ::
        (told ns ++ (news ++ .started flow part c :: [])), ?_, ?_⟩
      · rw [journal', journal]
        simp
      · rw [way]
        exact .handed (inner.after (by simp [Event.isCancel])) answers

/-! ## Work after the signal -/

/-- A canceled run goes on with no part. -/
theorem ComesTo.goOn_of_canceled {flow : Flow} {uid : Uuid} {st st' : Standing} {reply : Reply}
    (h : ComesTo site registry (.goOn flow uid) st reply st')
    (stopped : st.ledger.canceled = true) : reply = .leave .canceled ∧ st' = st := by
  cases h with
  | canceled => exact ⟨rfl, rfl⟩
  | missing live | refused live | last live | next live =>
    rw [stopped] at live
    cases live

/-- A canceled run goes on with no file; after the last one its iteration is complete. -/
theorem ComesTo.visit_of_canceled {flow : Flow} {total done : Nat} {files : List Path}
    {st st' : Standing} {reply : Reply}
    (h : ComesTo site registry (.visit flow total done files) st reply st')
    (stopped : st.ledger.canceled = true) :
    reply = .done (if files.isEmpty then EachFile.allProcessed else .canceled) ∧ st' = st := by
  cases h with
  | visitedAll => exact ⟨rfl, rfl⟩
  | visitCanceled => exact ⟨rfl, rfl⟩
  | visitNext live | fileCanceled live | fileTerminal live | fileFailed live =>
    rw [stopped] at live
    cases live

/-- The check of a step that walks flows tells nothing. -/
theorem checked_eachFile_ledger (e : EachFile) (st : Standing) :
    (Turn.checked (.eachFile e) st).ledger = st.ledger := by
  have silent : (e.check st.context.toScope).notices = [] := by
    rw [EachFile.check]
    split
    · rfl
    · split <;> rfl
  rw [Turn.checked_ledger, Turn.admission, silent, Ledger.tell_nil]

/-- A plain step tells what its check tells, then what it tells itself. -/
theorem Turn.act_checked_ledger (site : Site) (actions : Moment → Action) (st : Standing) :
    (Turn.act site actions (Turn.checked (.acting actions) st)).2.ledger =
      st.ledger.tell (((actions st.moment).check st.context.toScope).notices ++
        ((actions (Turn.checked (.acting actions) st).moment).run site
          (Turn.checked (.acting actions) st).ledger.canceled
          (Turn.checked (.acting actions) st).context.toScope).notices) :=
  Ledger.tell_tell _ _ _

/-- Following what a part came to does not cancel the run. -/
theorem follow_canceled {flow : Flow} {part : Part} {reply : Reply} {st st' : Standing}
    {turn : Turn} (leads : Turn.follow flow part (reply, st) = (turn, st')) :
    st'.ledger.canceled = st.ledger.canceled := by
  obtain ⟨result, -, ledger⟩ | ledger := follow_ledger leads
  · rw [ledger, Ledger.enter_canceled]
  · rw [ledger]

/-- A run that is not canceled was never canceled. -/
theorem Ledger.Books.live {a b : Ledger} {news : List Event} (h : a.Books b news)
    (live : b.canceled = false) : ∀ e ∈ news, e.isCancel = false := by
  have canceled := h.canceled
  rw [live, eq_comm, Bool.or_eq_false_iff, List.any_eq_false] at canceled
  exact fun e he => Bool.eq_false_iff.2 (canceled.2 e he)

/-- If the signal is set while a part does its work, the turn tells so. -/
theorem Pending.turn {flow : Flow} {part : Part} {st st₁ st₂ : Standing} {reply : Reply}
    {turn : Turn}
    (h : st₁.ledger.canceled = true →
      ∃ news, st₁.ledger.journal = news ++ (Turn.start flow part st.count).ledger.journal ∧
        Pending site registry flow part (Turn.start flow part st.count) news reply)
    (leads : Turn.follow flow part (reply, st₁) = (turn, st₂))
    (after : st₂.ledger.canceled = true) :
    ∃ news, st₂.ledger.journal = news ++ st.ledger.journal ∧
      CanceledBy site registry st.ledger news turn.exit := by
  rw [follow_canceled leads] at after
  obtain ⟨news, journal, pending⟩ := h after
  have started : Turn.start flow part st.count =
      ⟨(Turn.start flow part st.count).context,
        st.ledger.after [.started flow part (Turn.start flow part st.count).context]⟩ :=
    congrArg (Standing.mk _) (Turn.start_ledger flow part st.count)
  rw [started] at pending
  rw [Turn.start_ledger] at journal
  exact pending.follow journal leads

/-- If the signal is set while a plain step is checked or runs, its notices tell so. -/
theorem Pending.plain {flow : Flow} {part : Part} {st : Standing} {actions : Moment → Action}
    (executes : part.step? registry st.context.vars = some (.acting actions))
    (admits : ((actions st.moment).check st.context.toScope).admitted = true)
    (before : st.ledger.canceled = false)
    (after : (Turn.act site actions (Turn.checked (.acting actions) st)).2.ledger.canceled =
      true) :
    ∃ news, (Turn.act site actions (Turn.checked (.acting actions) st)).2.ledger.journal =
        news ++ st.ledger.journal ∧
      Pending site registry flow part st news
        (.done (Turn.act site actions (Turn.checked (.acting actions) st)).1) := by
  have live : (Turn.checked (.acting actions) st).ledger.canceled =
      ((actions st.moment).check st.context.toScope).notices.any Notice.isCancel := by
    rw [Turn.checked_ledger, Ledger.tell_canceled, before, Bool.false_or]
    rfl
  have ran : Ran site registry part st (_ ++ _) (some _) :=
    .acted before executes rfl admits rfl
  rw [← live] at ran
  have ledger := Turn.act_checked_ledger site actions st
  rw [ledger, Ledger.tell_canceled, before, Bool.false_or] at after
  exact ⟨_, congrArg Ledger.journal ledger, .acted ran (any_isCancel after)⟩

/-- **The signal reaches the reply** of the work in which it is set. -/
theorem ComesTo.signal {work : Work} {st st' : Standing} {reply : Reply}
    (h : ComesTo site registry work st reply st') (before : st.ledger.canceled = false)
    (after : st'.ledger.canceled = true) :
    ∃ news, st'.ledger.journal = news ++ st.ledger.journal ∧
      work.Canceled site registry st news reply := by
  have started {flow : Flow} {part : Part} {st : Standing} (before : st.ledger.canceled = false) :
      (Turn.start flow part st.count).ledger.canceled = false := by
    rw [Turn.start_ledger]
    exact before
  induction h with
  | tooDeep | noEntry | missing | refused | unresolved | marker | lost | switch | input
  | visitedAll => cases before.symm.trans after
  | enter shallow found rest ih => exact ih before after
  | canceled stopped | visitCanceled stopped => cases before.symm.trans stopped
  | last live found room work leads ih =>
    obtain ⟨news, journal, canceled⟩ := Pending.turn (ih (started before)) leads after
    exact ⟨news, journal, _, rfl, canceled⟩
  | @next flow flow' uid uid' part st st₁ st₂ st₃ reply exit live found room work leads rest ih
      ih' =>
    -- the signal is set in this turn, which then is the last, or in a later one
    cases signal : st₂.ledger.canceled with
    | true =>
      obtain ⟨left, rfl⟩ := rest.goOn_of_canceled signal
      cases left
      obtain ⟨news, journal, canceled⟩ := Pending.turn (ih (started before)) leads after
      exact ⟨news, journal, _, rfl, canceled⟩
    | false =>
      obtain ⟨first, books⟩ :=
        Ledger.Books.lawful.turn room (work.account Ledger.Books.lawful) leads
      obtain ⟨news, journal, exit, left, canceled⟩ := ih' signal after
      rw [books.made] at canceled
      refine ⟨news ++ first, ?_, exit, left, canceled.after (books.live signal)⟩
      rw [journal, books.journal, List.append_assoc]
  | call task walk ih =>
    obtain ⟨news, journal, exit', left, canceled⟩ := ih before after
    cases left
    exact ⟨news, journal, .handed (.silent canceled (.handed _))⟩
  | @barred flow part st step executes bars =>
    rw [Turn.bar_ledger, Ledger.enter_canceled, Turn.checked_ledger, Ledger.tell_canceled, before,
      Bool.false_or] at after
    exact ⟨_, rfl, .barred (.barred before executes rfl bars) (any_isCancel after)⟩
  | plain executes admits => exact Pending.plain executes admits before after
  | unplanned executes admits plan =>
    rw [Standing.inContext_ledger, checked_eachFile_ledger] at after
    cases before.symm.trans after
  | nothing executes admits plan =>
    rw [checked_eachFile_ledger] at after
    cases before.symm.trans after
  | iterate executes admits plan visits ih =>
    rw [checked_eachFile_ledger] at ih
    obtain ⟨news, journal, handed⟩ := ih before after
    rw [Work.Canceled, checked_eachFile_ledger] at handed
    exact ⟨news, journal, .handed handed⟩
  | @visitNext flow total done file files st st₁ st₂ exit result live walk graded rest ih ih' =>
    -- the signal is set for this file, and then no other follows, or for a later one
    cases signal : st₁.ledger.canceled with
    | true =>
      obtain ⟨news, journal, exit', left, canceled⟩ := ih before signal
      cases left
      obtain ⟨came, rfl⟩ := rest.visit_of_canceled (by simp [signal])
      cases came
      refine ⟨told [.progress (.share (done + 1) total)] ++ news, ?_, .mk canceled ?_⟩
      · exact congrArg (_ :: ·) journal
      · cases files with
        | nil => exact .lastFile graded
        | cons file files => exact .moreFiles graded
    | false =>
      have books := walk.books.trans (.tell st₁.ledger [.progress (.share (done + 1) total)])
      have live' : (st₁.ledger.tell [.progress (.share (done + 1) total)]).canceled = false := by
        rw [Ledger.tell_canceled, signal]
        rfl
      obtain ⟨news, journal, handed⟩ := ih' live' after
      rw [Work.Canceled, Standing.tell_ledger, Standing.withLedger_ledger, books.made] at handed
      refine ⟨_, ?_, handed.after (books.live live')⟩
      rw [journal, Standing.tell_ledger, Standing.withLedger_ledger, books.journal,
        Iteration.fileStart_ledger, List.append_assoc news]
  | fileCanceled live walk graded ih | fileTerminal live walk graded ih =>
    obtain ⟨news, journal, exit', left, canceled⟩ := ih before after
    cases left
    refine ⟨news, journal, ?_⟩
    rw [← asStepResult_of_grade (congrArg Iteration.Grade.stop? graded)]
    exact .silent canceled (.handed _)
  | fileFailed live walk graded ih =>
    obtain ⟨news, journal, exit', left, canceled⟩ := ih before after
    cases left
    exact ⟨news, journal, .silent canceled (.fileFailed graded)⟩

/-! ## Nothing starts after the signal -/

/-- No event counts a part after one that cancels the run. -/
def QuietAfterCancel (news : List Event) : Prop :=
  ∀ later e earlier, news = later ++ e :: earlier → e.isCancel = true →
    ∀ e' ∈ later, e'.isCounted = false

/-- A run that is not canceled keeps quiet after no event. -/
theorem QuietAfterCancel.of_live {news : List Event} (live : ∀ e ∈ news, e.isCancel = false) :
    QuietAfterCancel news := by
  rintro later e earlier rfl cancels
  have kept := live e (by simp)
  rw [cancels] at kept
  cases kept

/-- Events that count no part keep a run quiet. -/
theorem QuietAfterCancel.append {early : List Event} (h : QuietAfterCancel early)
    (late : List Event) (uncounted : ∀ e ∈ late, e.isCounted = false) :
    QuietAfterCancel (late ++ early) := by
  intro later e earlier split cancels
  rcases List.append_eq_append_iff.1 split with ⟨rest, rfl, rest_of⟩ | ⟨rest, rfl, -⟩
  · exact List.forall_mem_append.2 ⟨uncounted, h rest e earlier rest_of cancels⟩
  · exact (List.forall_mem_append.1 uncounted).1

/-- A part that tells and ends keeps a run quiet. -/
theorem QuietAfterCancel.ends {early : List Event} (h : QuietAfterCancel early) {e : Event}
    (uncounted : e.isCounted = false) (ns : List Notice) :
    QuietAfterCancel (e :: (told ns ++ early)) := by
  refine h.append (e :: told ns) (List.forall_mem_cons.2 ⟨uncounted, ?_⟩)
  intro e' he
  obtain ⟨n, -, rfl⟩ := List.mem_map.1 (List.mem_reverse.1 he)
  rfl

/-- When a run is canceled, parts only tell and end. -/
theorem CanceledBy.quiet {news : List Event} {exit : Exit}
    (h : CanceledBy site registry l news exit) : QuietAfterCancel news := by
  induction h with
  | acted ran cancels first | barred ran cancels first =>
    exact (QuietAfterCancel.of_live (List.forall_mem_cons.2 ⟨rfl, first⟩)).ends rfl _
  | handed inner answers ih => exact ih.ends rfl _

/-- A walk of a run that is canceled before counts no part. -/
theorem ComesTo.uncounted_of_canceled {flow : Flow} {st st' : Standing} {reply : Reply}
    (h : ComesTo site registry (.walk flow) st reply st') (stopped : st.ledger.canceled = true) :
    ∀ e ∈ st'.ledger.since st.ledger, e.isCounted = false := by
  have nothing : st.ledger.since st.ledger = [] := Ledger.since_eq rfl
  cases h with
  | tooDeep deep =>
    have since : (Walk.tooDeep.go flow st).2.ledger.since st.ledger = [.tooDeep flow] :=
      Ledger.since_eq rfl
    rw [since]
    simp [Event.isCounted]
  | noEntry shallow none =>
    rw [Standing.failAt_ledger, nothing]
    simp
  | enter shallow found rest =>
    obtain ⟨-, rfl⟩ := rest.goOn_of_canceled stopped
    rw [nothing]
    simp

end

/-- **Once the signal is set no part is counted**, at no depth, in no flow and for no file,
and so none is resolved or executed, which happens only to parts that have started. Either
the signal was set before, or a part of the run set it while it ran: then that part ends as
its own step says, the parts that wait for it end one after the other, and the run has the
state of the outermost walk. -/
theorem nothing_starts_after_cancel (site : Site) (registry : Registry) (flow : Flow)
    (st : Standing) :
    let run := runFlow site registry flow st
    let news := run.2.ledger.since st.ledger
    run.2.ledger.executed = st.ledger.executed + news.countP Event.isCounted ∧
      run.2.ledger.canceled = (st.ledger.canceled || news.any Event.isCancel) ∧
      (st.ledger.canceled = true → ∀ e ∈ news, e.isCounted = false) ∧
      (∀ later earlier, news = later ++ .notice .cancel :: earlier →
        ∀ e ∈ later, e.isCounted = false) ∧
      (st.ledger.canceled = false → run.2.ledger.canceled = true →
        ∃ exit, CanceledBy site registry (prepareRun site flow st).ledger news exit ∧
          run.1.state = exit.runState) := by
  obtain ⟨exit, final, walk, run⟩ := runFlow_comesTo site registry flow st
  simp only [run, reportRun_ledger, reportRun_state]
  have books := walk.books
  have before : st.ledger.canceled = true → ∀ e ∈ final.ledger.since st.ledger,
      e.isCounted = false := walk.uncounted_of_canceled
  have signal : st.ledger.canceled = false → final.ledger.canceled = true →
      CanceledBy site registry (prepareRun site flow st).ledger
        (final.ledger.since st.ledger) exit := by
    intro live stopped
    obtain ⟨news, journal, exit', left, canceled⟩ := walk.signal live stopped
    cases left
    have since : final.ledger.since st.ledger = news := Ledger.since_eq journal
    rw [since]
    exact canceled
  refine ⟨books.executed, books.canceled, before, fun later earlier split => ?_,
    fun live stopped => ⟨exit, signal live stopped, rfl⟩⟩
  cases live : st.ledger.canceled with
  | true => exact fun e he => before live e (by simp [split, he])
  | false =>
    have stopped : final.ledger.canceled = true := by
      rw [books.canceled, Bool.or_eq_true]
      exact .inr (List.any_eq_true.2 ⟨.notice .cancel, split ▸ by simp, rfl⟩)
    exact (signal live stopped).quiet later _ earlier split rfl

namespace Sample

/-- A part whose step cancels the run, and which leads back to itself. -/
def canceling : Part := (Part.new "Cancel" default).entry.connect 1 default

/-- A flow that never leaves a part that cancels the run. -/
def givingUp : Flow := { Flow.new "giving up" .subFlow default with parts := [canceling] }

/-- The flow that calls it is at hand, and the step that cancels the run. -/
def cancelRegistry : Registry :=
  (Registry.empty.withFlow givingUp).withSteps
    [("Cancel", fun _ => .plain ⟨.pass, fun _ _ s => ⟨.success, s, [.cancel]⟩⟩)]

/-- The run of the flow that calls it. -/
def canceledRun : RunResult × Standing := runFlow site cancelRegistry caller start

/-- The step that cancels the run succeeds, and the calling part is the next that ends. -/
theorem journal_canceledRun : ∃ c earlier, canceledRun.2.ledger.journal =
    [.finished caller calling .canceled 0, .finished givingUp canceling .success 1] ++
      .notice .cancel :: .started givingUp canceling c :: earlier := by
  let started := Turn.start caller calling (prepareRun site caller start).count
  have cancels : givingUp.part? canceling.uid = some canceling := rfl
  have calls : caller.part? calling.uid = some calling := rfl
  have nested : ComesTo site cancelRegistry (.walk givingUp)
      (Turn.callStart givingUp .empty started) (.leave .canceled) _ :=
    .enter (by decide) rfl (.next rfl cancels (by decide) (.plain rfl rfl) rfl (.canceled rfl))
  have call : ComesTo site cancelRegistry (.attempt caller calling) started (.done .canceled) _ :=
    .call (by rfl) nested
  have walk : ComesTo site cancelRegistry (.walk caller) (prepareRun site caller start)
      (.leave .canceled) _ :=
    .enter (by decide) rfl (.last rfl calls (by decide) call rfl)
  rw [canceledRun, runFlow, comesTo_walk_iff.1 walk, reportRun_ledger]
  exact ⟨_, _, rfl⟩

end Sample

/-- A step of a called flow cancels the run: the flow's loop is not taken once more. -/
theorem cancel_in_called_flow :
    Sample.canceledRun.2.ledger.canceled = true ∧
      ∃ exit, CanceledBy Sample.site Sample.cancelRegistry
        (prepareRun Sample.site Sample.caller Sample.start).ledger
        (Sample.canceledRun.2.ledger.since Sample.start.ledger) exit ∧
        Sample.canceledRun.1.state = exit.runState := by
  obtain ⟨-, canceled, -, -, told⟩ :=
    nothing_starts_after_cancel Sample.site Sample.cancelRegistry Sample.caller Sample.start
  rw [← Sample.canceledRun] at canceled
  obtain ⟨c, earlier, journal⟩ := Sample.journal_canceledRun
  have since : Sample.canceledRun.2.ledger.since Sample.start.ledger = _ :=
    Ledger.since_eq (journal.trans (List.append_nil _).symm)
  have stopped : Sample.canceledRun.2.ledger.canceled = true := by
    rw [canceled, since]
    simp [Event.isCancel, Notice.isCancel]
  exact ⟨stopped, told rfl stopped⟩

end FlowGraph
