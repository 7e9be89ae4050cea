import FlowGraph.Proofs.Account
import FlowGraph.Proofs.Ends

/-!
# A stop reaches the end of the run

A part that finishes as canceled or terminal stops the whole run, and so do a part that is
refused at the ceiling and a walk that is nested too deeply. Every layer in between hands
the result on: a walk leaves with it, the part that called the walk or iterated over it
finishes with it, and no connection is followed. The induction on derivations carries that
a stop, once it is in the journal, is in the reply too (`Course`).
-/

namespace FlowGraph

/-- The result with which an event stops the run, if it does. -/
def Event.stop? : Event → Option StepResult
  | .finished _ _ result _ => if result.isStop then some result else none
  | .refused _ _ | .tooDeep _ => some .terminalExit
  | _ => none

/-- The event is the end of a part that hands a result on. -/
def Event.HandsOn (result : StepResult) (e : Event) : Prop :=
  ∃ flow part depth, e = .finished flow part result depth

/-- An event that refuses a part leaves its own message as the reason. -/
def Event.Explains (stop : Event) (ceiling : Nat) (c : Context) : Prop :=
  ∀ flow part, stop = .refused flow part →
    c.failureReason = some (Turn.ceilingMessage ceiling flow)

/-- The result in a reply, as the part sees it that asked for the work. -/
def Reply.result? : Reply → Option StepResult
  | .done result => some result
  | .leave exit => some exit.asStepResult
  | .goOn _ _ => none

/-- Among the events, the latest first, one stopped the run; after it parts only handed its
result on. -/
structure StopsWith (news : List Event) (stop : Event) (result : StepResult) : Prop where
  stops : stop.stop? = some result
  order : ∃ later earlier, news = later ++ stop :: earlier ∧
    (∀ e ∈ later, e.HandsOn result) ∧ ∀ e ∈ earlier, e.stop? = none

/-- Nothing stopped the run between two states of the ledger. -/
def Ledger.Calm (a b : Ledger) : Prop :=
  ∃ news, b.journal = news ++ a.journal ∧ ∀ e ∈ news, e.stop? = none

/-- How work goes: nothing stops the run, or something does and the reply says so. -/
inductive Course (l : Ledger) (reply : Reply) (st : Standing) : Prop where
  | calm (h : l.Calm st.ledger)
  | stopped (news : List Event) {stop : Event} {result : StepResult}
      (journal : st.ledger.journal = news ++ l.journal) (stops : StopsWith news stop result)
      (reply : reply.result? = some result)
      (explains : stop.Explains st.ledger.ceiling st.context)

theorem Event.stop?_finished {flow : Flow} {part : Part} {result : StepResult} {depth : Nat}
    (h : result.isStop = true) : (finished flow part result depth).stop? = some result :=
  if_pos h

theorem Event.isStop_of_stop? {e : Event} {result : StepResult} (h : e.stop? = some result) :
    result.isStop = true := by
  cases e with
  | finished flow part r depth =>
    rw [stop?] at h
    split at h
    · cases h; assumption
    · cases h
  | refused | tooDeep => cases h; rfl
  | started | barred | notice => cases h

/-- Only an event with the terminal result can refuse a part. -/
theorem Event.explains_of_ne {stop : Event} {result : StepResult} {ceiling : Nat} {c : Context}
    (stops : stop.stop? = some result) (h : result ≠ .terminalExit) : stop.Explains ceiling c := by
  rintro flow part rfl
  cases stops
  exact absurd rfl h

/-! ## Results that stop -/

/-- A result that stops the run follows no connection. -/
theorem next?_of_isStop {flow : Flow} {part : Part} {result : StepResult}
    (h : result.isStop = true) : Turn.next? flow part result = none := by
  cases result with
  | canceled | terminalExit => rfl
  | output | completed | failure => cases h

/-- A result that stops the run leaves the walk as it is. -/
theorem asStepResult_endOf {result : StepResult} (h : result.isStop = true) :
    (Turn.endOf result).asStepResult = result := by
  cases result with
  | canceled | terminalExit => rfl
  | output | completed | failure => cases h

theorem route_of_isStop (flow : Flow) (part : Part) {result : StepResult} (st : Standing)
    (h : result.isStop = true) :
    (Turn.route flow part result st).1 = .leave (Turn.endOf result) := by
  rw [Turn.route, next?_of_isStop h]

/-- Following a result keeps the reason for a failure. -/
theorem route_reason {flow : Flow} {part : Part} {result : StepResult} {st : Standing}
    {reason : String} (h : st.context.failureReason = some reason) :
    (Turn.route flow part result st).2.context.failureReason = some reason := by
  simp only [Turn.route]
  split
  · exact h
  · split
    · simp [Standing.failAt, Context.failAt, Context.markFailedAt, h]
    · exact h

/-- The result with which a grade stops an iteration and the run, if it does. -/
def Iteration.Grade.stop? : Iteration.Grade → Option StepResult
  | .canceled => some .canceled
  | .terminal => some .terminalExit
  | .acceptable | .failed => none

/-- An exit stops an iteration exactly if a part that called the walk would stop, and with the
same result. -/
theorem stop?_grade (exit : Exit) : (Iteration.grade exit).stop? =
    if exit.asStepResult.isStop then some exit.asStepResult else none := by
  cases exit with
  | returned result =>
    cases result with
    | output n =>
      by_cases h : n = 1
      · subst h
        rfl
      · have failed : Iteration.grade (.returned (.output n)) = .failed := by
          simp [Iteration.grade]
        rw [failed]
        rfl
    | _ => rfl
  | _ => rfl

/-- The iteration goes on, or fails, only if the exit does not stop the run. -/
theorem isStop_of_grade {exit : Exit} (h : (Iteration.grade exit).stop? = none) :
    exit.asStepResult.isStop = false := by
  rw [stop?_grade] at h
  split at h
  · cases h
  · exact Bool.eq_false_iff.2 ‹_›

/-- The iteration stops only with the result that a calling part would see. -/
theorem asStepResult_of_grade {exit : Exit} {result : StepResult}
    (h : (Iteration.grade exit).stop? = some result) : exit.asStepResult = result := by
  rw [stop?_grade] at h
  split at h
  · exact Option.some.inj h
  · cases h

/-! ## Putting courses together -/

namespace Ledger.Calm

theorem refl (l : Ledger) : Calm l l := ⟨[], rfl, by simp⟩

theorem trans {a b c : Ledger} (h : Calm a b) (h' : Calm b c) : Calm a c := by
  obtain ⟨news, journal, calm⟩ := h
  obtain ⟨news', journal', calm'⟩ := h'
  refine ⟨news' ++ news, by rw [journal', journal, List.append_assoc], fun e he => ?_⟩
  rcases List.mem_append.1 he with he | he
  · exact calm' e he
  · exact calm e he

theorem enter (l : Ledger) {e : Event} (h : e.stop? = none) : Calm l (l.enter e) :=
  ⟨[e], rfl, by simpa using h⟩

theorem tell (l : Ledger) (ns : List Notice) : Calm l (l.tell ns) := by
  refine ⟨_, l.tell_journal ns, fun e he => ?_⟩
  obtain ⟨n, -, rfl⟩ := List.mem_map.1 (List.mem_reverse.1 he)
  rfl

theorem start (flow : Flow) (part : Part) (st : Standing) :
    Calm st.ledger (Turn.start flow part st.count).ledger := by
  rw [Turn.start_ledger]
  exact .enter st.ledger.count rfl

end Ledger.Calm

namespace Course

variable {l l' : Ledger} {reply reply' : Reply} {result : StepResult} {st st' : Standing}

/-- What went calmly before does not change how work goes. -/
theorem after (before : l.Calm l') (h : Course l' reply st) : Course l reply st := by
  cases h with
  | calm h => exact .calm (before.trans h)
  | stopped news journal stops hands explains =>
    obtain ⟨first, journal', calm⟩ := before
    obtain ⟨later, earlier, rfl, handed, quiet⟩ := stops.order
    refine .stopped (later ++ _ :: (earlier ++ first)) ?_ ⟨stops.stops, later, _, rfl,
      handed, fun e he => ?_⟩ hands explains
    · rw [journal, journal']
      simp
    · rcases List.mem_append.1 he with he | he
      · exact quiet e he
      · exact calm e he

/-- Whoever gets a result that stops the run hands it on as it is, with its reason. -/
theorem relay (h : Course l reply st) (ledger : st'.ledger = st.ledger)
    (hands : ∀ result, result.isStop = true → reply.result? = some result →
      reply'.result? = some result)
    (reason : reply.result? = some .terminalExit → ∀ r, st.context.failureReason = some r →
      st'.context.failureReason = some r) : Course l reply' st' := by
  cases h with
  | calm h => exact .calm (ledger ▸ h)
  | @stopped news stop result journal stops hands' explains =>
    refine .stopped news (ledger ▸ journal) stops
      (hands _ (Event.isStop_of_stop? stops.stops) hands') ?_
    by_cases terminal : result = .terminalExit
    · rw [ledger]
      exact fun flow part h => reason (terminal ▸ hands') _ (explains flow part h)
    · exact Event.explains_of_ne stops.stops terminal

/-- Work that came to no result stopped nothing, nor did work whose result is no stop. -/
theorem calm_of (h : Course l reply st)
    (goes : ∀ result, reply.result? = some result → result.isStop = false) :
    l.Calm st.ledger := by
  cases h with
  | calm h => exact h
  | stopped news journal stops hands explains =>
    have isStop := Event.isStop_of_stop? stops.stops
    rw [goes _ hands] at isStop
    cases isStop

/-- A part that finishes with a result that stops the run ends the walk with it. -/
theorem follow_stop (h : Course l (.done result) st) (flow : Flow) (part : Part)
    (isStop : result.isStop = true) :
    Course l (.leave (Turn.endOf result)) (Turn.follow flow part (.done result, st)).2 := by
  have ledger := Turn.follow_done_ledger flow part result st
  have journal := congrArg Ledger.journal ledger
  rw [Ledger.enter_journal] at journal
  have hands : (Reply.leave (Turn.endOf result)).result? = some result :=
    congrArg some (asStepResult_endOf isStop)
  cases h with
  | calm h =>
    obtain ⟨news, before, calm⟩ := h
    refine .stopped (_ :: news) (by rw [journal, before]; rfl)
      ⟨Event.stop?_finished isStop, [], news, rfl, by simp, calm⟩ hands ?_
    intro flow part h
    cases h
  | stopped news before stops handed explains =>
    cases handed
    obtain ⟨later, earlier, rfl, handed, quiet⟩ := stops.order
    refine .stopped (_ :: (later ++ _ :: earlier)) (by rw [journal, before]; rfl)
      ⟨stops.stops, _ :: later, earlier, rfl, ?_, quiet⟩ hands ?_
    · intro e he
      rcases List.mem_cons.1 he with rfl | he
      · exact ⟨_, _, _, rfl⟩
      · exact handed e he
    · intro flow' part' h
      rw [ledger]
      exact route_reason (explains flow' part' h)

/-- A part that came to anything else follows it without a stop. -/
theorem follow_calm {flow : Flow} {part : Part} {turn : Turn}
    (h : Course l reply st) (goes : ∀ result, reply.result? = some result → result.isStop = false)
    (leads : Turn.follow flow part (reply, st) = (turn, st')) : l.Calm st'.ledger := by
  have before := h.calm_of goes
  obtain ⟨result, rfl, ledger⟩ | ledger := follow_ledger leads
  · rw [ledger]
    exact before.trans (.enter _ (by simp [Event.stop?, goes result rfl]))
  · rw [ledger]
    exact before

/-- A walk that ends with a part ends with what the part came to. -/
theorem last {flow : Flow} {part : Part} {exit : Exit} (h : Course l reply st)
    (leads : Turn.follow flow part (reply, st) = (.leave exit, st')) :
    Course l (.leave exit) st' := by
  cases reply with
  | done result =>
    cases isStop : result.isStop with
    | true =>
      have leave : Turn.leave exit = .leave (Turn.endOf result) :=
        (congrArg Prod.fst leads).symm.trans (route_of_isStop flow part _ isStop)
      have stopped := h.follow_stop flow part isStop
      cases leave
      rw [leads] at stopped
      exact stopped
    | false => exact .calm (h.follow_calm (by rintro _ ⟨⟩; exact isStop) leads)
  | leave exit' =>
    cases leads
    exact h
  | goOn flow' uid => cases leads

/-- A walk that goes on after a part was not stopped by it. -/
theorem next {flow flow' : Flow} {part : Part} {uid : Uuid} (h : Course l reply st)
    (leads : Turn.follow flow part (reply, st) = (.goOn flow' uid, st')) : l.Calm st'.ledger := by
  refine h.follow_calm (fun result hresult => Bool.eq_false_iff.2 fun isStop => ?_) leads
  cases reply with
  | done result' =>
    cases hresult
    have leave := route_of_isStop flow part (Turn.note flow part result st) isStop
    have goOn := congrArg Prod.fst leads
    rw [Turn.follow, leave] at goOn
    cases goOn
  | leave exit => cases leads
  | goOn flow'' uid' => cases hresult

end Course

/-- **Every stop reaches the reply** of the work that it happened in. -/
theorem ComesTo.course {site : Site} {registry : Registry} {work : Work} {st st' : Standing}
    {reply : Reply} (h : ComesTo site registry work st reply st') :
    Course st.ledger reply st' := by
  induction h with
  | tooDeep deep =>
    exact .stopped [.tooDeep _] rfl ⟨rfl, [], [], rfl, by simp, by simp⟩ rfl
      fun _ _ h => nomatch h
  | noEntry shallow none => exact .calm (.refl _)
  | enter shallow found rest ih => exact ih
  | canceled stopped => exact .calm (.refl _)
  | missing live none => exact .calm (.refl _)
  | refused live found full =>
    refine .stopped [.refused _ _] rfl ⟨rfl, [], [], rfl, by simp, by simp⟩ rfl ?_
    intro flow part h
    cases h
    rfl
  | last live found room work leads ih => exact (ih.after (.start _ _ _)).last leads
  | next live found room work leads rest ih ih' =>
    exact ih'.after ((ih.after (.start _ _ _)).next leads)
  | unresolved task => exact .calm (.refl _)
  | @marker flow part st result task =>
    cases isStop : result.isStop with
    | true =>
      exact .stopped [_] rfl
        ⟨Event.stop?_finished isStop, [], [], rfl, by simp, by simp⟩ rfl fun _ _ h => nomatch h
    | false => exact .calm (.enter _ (by simp [Event.stop?, isStop]))
  | lost task none => exact .calm (.refl _)
  | switch task found => exact .calm (.refl _)
  | input task => exact .calm (.refl _)
  | call task walk ih => exact ih.relay rfl (fun _ _ h => h) (fun _ _ h => h)
  | barred executes bars => exact .calm ((Ledger.Calm.tell _ _).trans (.enter _ rfl))
  | plain executes admits => exact .calm ((Ledger.Calm.tell _ _).trans (.tell _ _))
  | unplanned executes admits plan => exact .calm (.tell _ _)
  | nothing executes admits plan => exact .calm (.tell _ _)
  | iterate executes admits plan visits ih => exact ih.after (.tell _ _)
  | visitedAll => exact .calm (.refl _)
  | visitCanceled stopped => exact .calm (.refl _)
  | visitNext live walk graded rest ih ih' =>
    have walked := ih.calm_of fun result h => by
      cases h
      exact isStop_of_grade (by rw [graded]; rfl)
    exact ih'.after (walked.trans (.tell _ _))
  | fileCanceled live walk graded ih =>
    have canceled := asStepResult_of_grade (congrArg Iteration.Grade.stop? graded)
    refine ih.relay rfl (fun result _ h => ?_) fun h => ?_
    · rwa [Reply.result?, canceled] at h
    · rw [Reply.result?, canceled] at h
      cases h
  | fileTerminal live walk graded ih =>
    have terminal := asStepResult_of_grade (congrArg Iteration.Grade.stop? graded)
    refine ih.relay rfl (fun result _ h => ?_) fun _ reason h => ?_
    · rwa [Reply.result?, terminal] at h
    · simp [Iteration.adopt, Context.adoptFailure, h]
  | fileFailed live walk graded ih =>
    refine .calm (ih.calm_of fun result h => ?_)
    cases h
    exact isStop_of_grade (by rw [graded]; rfl)

/-! ## Stops of whole runs -/

/-- Whichever event with a stop one looks at, the later ones hand its result on; only the
first of them can be a refusal. -/
theorem StopsWith.split {news later earlier : List Event} {first stop : Event}
    {result result' : StepResult} (h : StopsWith news first result)
    (split : news = later ++ stop :: earlier) (stops : stop.stop? = some result') :
    result' = result ∧ (∀ e ∈ later, e.HandsOn result) ∧
      (stop = first ∨ stop.HandsOn result) := by
  obtain ⟨later₀, earlier₀, order, handed, quiet⟩ := h.order
  rw [split] at order
  rcases List.append_eq_append_iff.1 order with ⟨between, rfl, rest⟩ | ⟨between, rfl, rest⟩
  · have first_or : stop = first ∨ stop.HandsOn result := by
      cases between with
      | nil => exact .inl (List.cons.inj rest).1
      | cons e between =>
        obtain ⟨rfl, -⟩ := List.cons.inj rest
        exact .inr (handed _ (by simp))
    refine ⟨?_, fun e he => handed e (List.mem_append_left _ he), first_or⟩
    rcases first_or with rfl | ⟨flow, part, depth, rfl⟩
    · exact Option.some.inj (stops.symm.trans h.stops)
    · rw [Event.stop?_finished (Event.isStop_of_stop? h.stops)] at stops
      exact (Option.some.inj stops).symm
  · cases between with
    | nil =>
      obtain ⟨rfl, -⟩ := List.cons.inj rest
      refine ⟨Option.some.inj (stops.symm.trans h.stops), by simpa using handed, .inl rfl⟩
    | cons e between =>
      obtain ⟨-, rest⟩ := List.cons.inj rest
      have none := quiet stop (by simp [rest])
      rw [none] at stops
      cases stops

/-- A walk that is left with a result that stops the run gives the run its state. -/
theorem runState_of_isStop {exit : Exit} (h : exit.asStepResult.isStop = true) :
    exit.runState = if exit.asStepResult = .canceled then .canceled else .terminalExit := by
  cases exit with
  | returned result =>
    cases result with
    | canceled | terminalExit => rfl
    | output | completed | failure => cases h
  | canceled | terminalExit => rfl
  | completed | failed => cases h

theorem Event.HandsOn.uncounted {result : StepResult} {e : Event} (h : e.HandsOn result) :
    e.isCounted = false := by
  obtain ⟨flow, part, depth, rfl⟩ := h
  rfl

/-- **After a stop nothing starts any more**, at whatever depth it happened: later on, parts
only hand its result on, no part is counted, and the run ends canceled or terminal as the
result says. If a part was refused at the ceiling, the run gives just that as its reason. -/
theorem run_hands_stop_on (site : Site) (registry : Registry) (flow : Flow) (st : Standing)
    {later earlier : List Event} {stop : Event} {result : StepResult}
    (happened : (runFlow site registry flow st).2.ledger.since st.ledger =
      later ++ stop :: earlier) (stops : stop.stop? = some result) :
    (∀ e ∈ later, e.HandsOn result) ∧
      (runFlow site registry flow st).2.ledger.executed =
        st.ledger.executed + (stop :: earlier).countP Event.isCounted ∧
      (runFlow site registry flow st).1.state =
        (if result = .canceled then .canceled else .terminalExit) ∧
      ∀ refused part, stop = .refused refused part →
        (runFlow site registry flow st).1.failureReason =
          some (Turn.ceilingMessage (site.settings.stepCeiling flow.maxNodes) refused) := by
  obtain ⟨exit, final, walk, run⟩ := runFlow_comesTo site registry flow st
  rw [run, reportRun_ledger] at happened ⊢
  have books := walk.books
  have since : final.ledger.since (prepareRun site flow st).ledger = later ++ stop :: earlier :=
    happened
  rw [since] at books
  cases walk.course with
  | calm h =>
    obtain ⟨news, journal, calm⟩ := h
    rw [Ledger.since_eq journal] at since
    have none := calm stop (by simp [since])
    rw [none] at stops
    cases stops
  | @stopped news first result' journal stopsWith hands explains =>
    rw [Ledger.since_eq journal] at since
    obtain ⟨rfl, handed, first_or⟩ := stopsWith.split since stops
    cases hands
    have isStop := Event.isStop_of_stop? stops
    have state := runState_of_isStop isStop
    refine ⟨handed, ?_, state, ?_⟩
    · have uncounted : later.countP Event.isCounted = 0 :=
        List.countP_eq_zero.2 fun e he => by simp [(handed e he).uncounted]
      rw [books.executed, List.countP_append, uncounted, Nat.zero_add]
      rfl
    · rintro refused part rfl
      have terminal : exit.asStepResult = .terminalExit := (Option.some.inj stops).symm
      rw [terminal] at state
      rcases first_or with rfl | ⟨_, _, _, h⟩
      · have reason := explains refused part rfl
        rw [books.ceiling] at reason
        rw [reportRun_failureReason, state]
        simp only [runReason, reason]
        rfl
      · cases h

namespace Sample

/-- A part that leads back to itself. -/
def spinning : Part := (Part.new "SubFlowInput" default).entry.connect 1 default

/-- A flow that never leaves its only part. -/
def loop : Flow := { Flow.new "loop" .subFlow default with parts := [spinning] }

/-- A part that calls the loop, and calls it again after a failure. -/
def calling : Part :=
  (Part.new "SubFlow:00000000-0000-0000-0000-000000000000" default).entry.onError default

/-- A flow that calls the loop. -/
def caller : Flow :=
  { Flow.new "caller" .normal default with parts := [calling], maxNodes := some 2 }

def registry : Registry := Registry.empty.withFlow loop

/-- A node without files on which as many parts may be executed as a flow has nodes. -/
def site : Site :=
  { files := .empty
    settings := { Settings.default with stepLimitMultiplier := 1 }
    commands := fun _ _ => .error .notFound
    scripts := fun _ _ => ⟨.integer 1, none, []⟩ }

def start : Standing := .fresh ⟨"in/a.txt"⟩ .empty false

/-- The run of the flow that calls the loop. -/
def stoppedRun : RunResult × Standing := runFlow site registry caller start

/-- The part of the loop is refused at its second turn, and the calling part ends with
that. -/
theorem journal_stoppedRun : ∃ earlier, stoppedRun.2.ledger.journal =
    [.finished caller calling .terminalExit 0] ++ .refused loop spinning :: earlier := by
  let started := Turn.start caller calling (prepareRun site caller start).count
  have spins : loop.part? spinning.uid = some spinning := rfl
  have calls : caller.part? calling.uid = some calling := rfl
  have nested : ComesTo site registry (.walk loop) (Turn.callStart loop .empty started)
      (.leave .terminalExit) _ :=
    .enter (by decide) rfl
      (.next rfl spins (by decide) (.input rfl) rfl (.refused rfl spins (by decide)))
  have call : ComesTo site registry (.attempt caller calling) started (.done .terminalExit) _ :=
    .call (by rfl) nested
  have walk : ComesTo site registry (.walk caller) (prepareRun site caller start)
      (.leave .terminalExit) _ :=
    .enter (by decide) rfl (.last rfl calls (by decide) call rfl)
  rw [stoppedRun, runFlow, comesTo_walk_iff.1 walk, reportRun_ledger]
  exact ⟨_, rfl⟩

end Sample

/-- The loop of a called flow ends the whole run, and its error connection is not followed. -/
theorem stop_in_called_loop : ∃ earlier,
    Sample.stoppedRun.2.ledger.since Sample.start.ledger =
      [.finished Sample.caller Sample.calling .terminalExit 0] ++
        .refused Sample.loop Sample.spinning :: earlier ∧
      Sample.stoppedRun.1.state = .terminalExit ∧
      Sample.stoppedRun.1.failureReason =
        some "too many steps executed (2), flow 'loop' may contain a loop" := by
  obtain ⟨earlier, journal⟩ := Sample.journal_stoppedRun
  have happened : Sample.stoppedRun.2.ledger.since Sample.start.ledger = _ :=
    Ledger.since_eq (journal.trans (List.append_nil _).symm)
  obtain ⟨-, -, state, reason⟩ :=
    run_hands_stop_on Sample.site Sample.registry Sample.caller Sample.start happened rfl
  exact ⟨earlier, happened, state, reason _ _ rfl⟩

end FlowGraph
