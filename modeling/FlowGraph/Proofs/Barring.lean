import FlowGraph.Proofs.Blame

/-!
# What becomes of a run when a check bars a step

A check that bars its step ends the walk at once, whatever connections the part has. The part
that asked for the walk takes that as a failure like any other: it fails too, and so on
outwards, one level with each part, until the run has failed or one of these parts has an error
connection that leads on. `BarsHeeded` says so of a journal, and the induction on derivations
carries that a failure on its way out is in the reply of the work (`ComesTo.heeds`).
-/

namespace FlowGraph

/-- The part that has just started, notices apart, with the context it started in. -/
def justStarted? : List Event → Option (Flow × Part × Context)
  | .started flow part c :: _ => some (flow, part, c)
  | .notice _ :: events => justStarted? events
  | _ => none

/-- A failure that begins at a depth is handed out along events, the latest first: at each level
the part that asked for the walk fails as well, and its failure leads nowhere. -/
inductive HandedOut (begins : Nat) : List Event → Nat → Prop where
  | begins : HandedOut begins [] begins
  | outwards {later : List Event} {flow : Flow} {part : Part} {depth : Nat}
      (inner : HandedOut begins later (depth + 1))
      (open_ : Turn.next? flow part .failure = none) :
      HandedOut begins (.finished flow part .failure depth :: later) depth

/-- In the events, the latest first, a check has barred a part that just started, and the failure
has come out to a depth. -/
inductive BarredOut : List Event → Nat → Prop where
  | barred {flow : Flow} {part : Part} {c : Context} {earlier : List Event}
      (started : justStarted? earlier = some (flow, part, c)) :
      BarredOut (.barred flow part :: earlier) c.depth
  | outwards {events : List Event} {flow : Flow} {part : Part} {depth : Nat}
      (inner : BarredOut events (depth + 1)) (open_ : Turn.next? flow part .failure = none) :
      BarredOut (.finished flow part .failure depth :: events) depth

/-- The event may come after the earlier ones in a run at a depth: only a part that has just
started is barred, and when a failure has come out to a depth nothing happens but that the part
one level out fails. -/
structure Event.Heeds (outermost : Nat) (e : Event) (earlier : List Event) : Prop where
  barred : ∀ flow part, e = .barred flow part → ∃ c, justStarted? earlier = some (flow, part, c)
  failing : ∀ depth, BarredOut earlier depth → ∃ flow part outer,
    e = .finished flow part .failure outer ∧ depth = outer + 1 ∧ outermost ≤ outer

/-- Every event, the latest first, may come after the earlier ones. -/
inductive Heeded (outermost : Nat) : List Event → Prop where
  | nil : Heeded outermost []
  | cons {e : Event} {earlier : List Event} (rest : Heeded outermost earlier)
      (heeds : e.Heeds outermost earlier) : Heeded outermost (e :: earlier)

/-- What a journal tells since it held the events `base`: the failure of every part that was
barred was handed out, and one that is on its way has come to a depth at which the work ends. -/
def BarsHeeded (outermost : Nat) (base : List Event) (ends : Nat → Prop) (journal : List Event) :
    Prop :=
  ∃ news, journal = news ++ base ∧ Heeded outermost news ∧
    ∀ depth, BarredOut news depth → ends depth

/-- Work at a depth replies with a failure that has come out to another depth. -/
inductive Reply.FailsOut (depth : Nat) : Reply → Nat → Prop where
  | done : FailsOut depth (.done .failure) (depth + 1)
  | leave : FailsOut depth (.leave .failed) depth

/-- What a part asks for is attempted when the part has just started. -/
def Work.HasBegun (base : List Event) (st : Standing) : Work → Prop
  | .attempt flow part =>
    ∃ earlier, st.ledger.journal = .started flow part st.context :: (earlier ++ base)
  | .walk _ | .goOn _ _ | .visit _ _ _ _ => True

/-! ## Failures on their way out -/

/-- Notices do not hide which part has just started. -/
theorem justStarted?_notices (told : List Notice) (events : List Event) :
    justStarted? (told.map Event.notice ++ events) = justStarted? events := by
  induction told with
  | nil => rfl
  | cons n told ih => exact ih

/-- A failure comes out one level with each event. -/
theorem HandedOut.depth_add_length {begins depth : Nat} {later : List Event}
    (h : HandedOut begins later depth) : depth + later.length = begins := by
  induction h with
  | begins => rfl
  | outwards inner open_ ih =>
    rw [List.length_cons]
    omega

/-- While a failure is handed out no part is counted. -/
theorem HandedOut.uncounted {begins depth : Nat} {later : List Event}
    (h : HandedOut begins later depth) : later.countP Event.isCounted = 0 := by
  induction h with
  | begins => rfl
  | outwards inner open_ ih => simpa [Event.isCounted] using ih

/-- A failure that has come out to a depth is handed out from there. -/
theorem BarredOut.append {events later : List Event} {begins depth : Nat}
    (barred : BarredOut events begins) (handed : HandedOut begins later depth) :
    BarredOut (later ++ events) depth := by
  induction handed with
  | begins => exact barred
  | outwards inner open_ ih => exact .outwards ih open_

/-- A part that was barred had just started. -/
theorem Heeded.started {outermost : Nat} {flow : Flow} {part : Part} {later earlier : List Event}
    (heeded : Heeded outermost (later ++ .barred flow part :: earlier)) :
    ∃ c, justStarted? earlier = some (flow, part, c) := by
  induction later with
  | nil =>
    cases heeded with
    | cons rest heeds => exact heeds.barred flow part rfl
  | cons e later ih =>
    cases heeded with
    | cons rest heeds => exact ih rest

/-- What follows a barred part: its failure is handed out, until a part has an error connection
that leads on. -/
theorem Heeded.after_barred {outermost begins : Nat} {events later : List Event}
    (barred : BarredOut events begins) (heeded : Heeded outermost (later ++ events)) :
    (∃ depth, HandedOut begins later depth) ∨
      ∃ after handed flow part outer uid,
        later = after ++ .finished flow part .failure outer :: handed ∧
        HandedOut begins handed (outer + 1) ∧ outermost ≤ outer ∧
        Turn.next? flow part .failure = some uid := by
  induction later with
  | nil => exact .inl ⟨begins, .begins⟩
  | cons e later ih =>
    cases heeded with
    | cons rest heeds =>
    rcases ih rest with ⟨depth, handed⟩ | ⟨after, handed, flow, part, outer, uid, rfl, taken⟩
    · obtain ⟨flow, part, outer, rfl, rfl, within⟩ := heeds.failing depth (barred.append handed)
      cases leads : Turn.next? flow part .failure with
      | none => exact .inl ⟨outer, .outwards handed leads⟩
      | some uid => exact .inr ⟨[], later, flow, part, outer, uid, rfl, handed, within, leads⟩
    · exact .inr ⟨e :: after, handed, flow, part, outer, uid, rfl, taken⟩

namespace BarsHeeded

variable {outermost : Nat} {base journal : List Event} {ends ends' : Nat → Prop}

theorem mono (h : BarsHeeded outermost base ends journal)
    (imp : ∀ depth, ends depth → ends' depth) : BarsHeeded outermost base ends' journal := by
  obtain ⟨news, split, heeded, on⟩ := h
  exact ⟨news, split, heeded, fun depth out => imp depth (on depth out)⟩

/-- Where no failure is on its way, an event that bars no part may be entered. -/
theorem enter {e : Event} (h : BarsHeeded outermost base (fun _ => False) journal)
    (unbarred : ∀ flow part, e ≠ .barred flow part) :
    BarsHeeded outermost base (fun _ => False) (e :: journal) := by
  obtain ⟨news, rfl, heeded, rest⟩ := h
  refine ⟨e :: news, rfl, .cons heeded ⟨?_, ?_⟩, ?_⟩
  · intro flow part barred
    exact absurd barred (unbarred flow part)
  · intro depth out
    exact (rest depth out).elim
  · intro depth out
    cases out with
    | barred started => exact unbarred _ _ rfl
    | outwards inner open_ => exact rest _ inner

theorem tell {l : Ledger} (h : BarsHeeded outermost base (fun _ => False) l.journal)
    (ns : List Notice) : BarsHeeded outermost base (fun _ => False) (l.tell ns).journal := by
  rw [Ledger.tell_journal, ← List.map_reverse]
  induction ns.reverse with
  | nil => exact h
  | cons n told ih => exact ih.enter (by simp)

/-- The part that asked for a walk fails after it, and hands the failure out if it leads
nowhere. -/
theorem finish {flow : Flow} {part : Part} {depth : Nat} (within : outermost ≤ depth)
    (h : BarsHeeded outermost base (· = depth + 1) journal) :
    BarsHeeded outermost base
      (fun out => out = depth ∧ Turn.next? flow part .failure = none)
      (.finished flow part .failure depth :: journal) := by
  obtain ⟨news, rfl, heeded, on⟩ := h
  refine ⟨_ :: news, rfl, .cons heeded ⟨?_, ?_⟩, ?_⟩
  · intro flow part barred
    cases barred
  · intro out inner
    exact ⟨flow, part, depth, rfl, on out inner, within⟩
  · intro out inner
    cases inner with
    | outwards inner open_ => exact ⟨rfl, open_⟩

/-- A part that has just started may be barred, and its failure begins at its depth. -/
theorem bar {flow : Flow} {part : Part} {c : Context} {news : List Event}
    (h : BarsHeeded outermost base (fun _ => False) (news ++ base))
    (started : justStarted? news = some (flow, part, c)) :
    BarsHeeded outermost base (· = c.depth) (.barred flow part :: (news ++ base)) := by
  obtain ⟨news', split, heeded, rest⟩ := h
  cases List.append_cancel_right split
  refine ⟨.barred flow part :: news, rfl, .cons heeded ⟨?_, ?_⟩, ?_⟩
  · intro flow' part' same
    cases same
    exact ⟨c, started⟩
  · intro depth out
    exact (rest depth out).elim
  · intro depth out
    cases out with
    | barred started' =>
      cases started.symm.trans started'
      rfl

end BarsHeeded

/-! ## What work replies -/

/-- Following what a part came to: a failure on its way out ends the walk, or its error
connection leads on and the failure is over. -/
theorem BarsHeeded.follow {outermost depth : Nat} {base : List Event} {flow : Flow} {part : Part}
    {reply : Reply} {st st' : Standing} {turn : Turn}
    (h : BarsHeeded outermost base (reply.FailsOut depth) st.ledger.journal)
    (at_ : st.context.depth = depth) (within : outermost ≤ depth)
    (leads : Turn.follow flow part (reply, st) = (turn, st')) :
    BarsHeeded outermost base (fun out => turn = .leave .failed ∧ out = depth)
      st'.ledger.journal := by
  cases reply with
  | done result =>
    have ledger := Turn.follow_done_ledger flow part result st
    rw [leads, at_] at ledger
    have journal : st'.ledger.journal = .finished flow part result depth :: st.ledger.journal :=
      congrArg Ledger.journal ledger
    rw [journal]
    by_cases failure : result = .failure
    · subst failure
      have failing : BarsHeeded outermost base (· = depth + 1) st.ledger.journal := by
        refine h.mono ?_
        rintro _ ⟨⟩
        rfl
      refine (failing.finish within).mono ?_
      rintro out ⟨same, nowhere⟩
      have left := congrArg Prod.fst leads
      rw [Turn.follow, Turn.route, nowhere] at left
      exact ⟨left.symm, same⟩
    · have settled : BarsHeeded outermost base (fun _ => False) st.ledger.journal := by
        refine h.mono ?_
        rintro _ ⟨⟩
        exact failure rfl
      have entered : BarsHeeded outermost base (fun _ => False)
          (.finished flow part result depth :: st.ledger.journal) :=
        settled.enter (by simp)
      exact entered.mono fun _ => False.elim
  | leave exit =>
    cases leads
    refine h.mono ?_
    rintro _ ⟨⟩
    exact ⟨rfl, rfl⟩
  | goOn flow' uid =>
    cases leads
    refine h.mono ?_
    rintro _ ⟨⟩

/-- **The failure of a barred part is handed out**, from the part to the end of the work. -/
theorem ComesTo.heeds {site : Site} {registry : Registry} {work : Work} {st st' : Standing}
    {reply : Reply} (h : ComesTo site registry work st reply st') {outermost : Nat}
    {base : List Event} (within : outermost ≤ st.context.depth) (begun : work.HasBegun base st)
    (settled : BarsHeeded outermost base (fun _ => False) st.ledger.journal) :
    BarsHeeded outermost base (reply.FailsOut st.context.depth) st'.ledger.journal := by
  have quiet {journal : List Event} {ends : Nat → Prop}
      (h : BarsHeeded outermost base (fun _ => False) journal) :
      BarsHeeded outermost base ends journal := h.mono fun _ => False.elim
  have starts (flow : Flow) (part : Part) {st : Standing}
      (settled : BarsHeeded outermost base (fun _ => False) st.ledger.journal) :
      (Work.attempt flow part).HasBegun base (Turn.start flow part st.count) ∧
        BarsHeeded outermost base (fun _ => False)
          (Turn.start flow part st.count).ledger.journal := by
    obtain ⟨news, journal, -⟩ := id settled
    rw [Work.HasBegun, Turn.start_ledger]
    refine ⟨⟨news, ?_⟩, settled.enter (by simp)⟩
    rw [← journal]
    rfl
  induction h with
  | tooDeep deep => exact quiet (settled.enter (by simp))
  | noEntry | canceled | missing | unresolved | lost | switch | input | visitedAll
  | visitCanceled => exact quiet settled
  | enter shallow found rest ih => exact ih within trivial settled
  | refused live found full => exact quiet (settled.enter (by simp))
  | @last flow _ part st st₁ st₂ reply exit live found room work leads ih =>
    obtain ⟨begun, started⟩ := starts flow part settled
    have depth := (Turn.onward_start flow part st.count).depth
    have worked := ih (depth ▸ within) begun started
    rw [depth] at worked
    refine (worked.follow (work.depth_turn leads).1 within leads).mono ?_
    rintro _ ⟨⟨⟩, rfl⟩
    exact .leave
  | @next flow _ _ _ part st st₁ st₂ _ reply _ live found room work leads rest ih ih' =>
    obtain ⟨begun, started⟩ := starts flow part settled
    have depth := (Turn.onward_start flow part st.count).depth
    have worked := ih (depth ▸ within) begun started
    rw [depth] at worked
    have same := (work.depth_turn leads).2
    have followed : BarsHeeded outermost base (fun _ => False) st₂.ledger.journal := by
      refine (worked.follow (work.depth_turn leads).1 within leads).mono ?_
      rintro _ ⟨⟨⟩, -⟩
    rw [← same]
    exact ih' (same ▸ within) trivial followed
  | marker task => exact quiet (settled.enter (by simp))
  | call task walk ih =>
    refine (ih (Nat.le_succ_of_le within) trivial settled).mono ?_
    rintro _ ⟨⟩
    exact .done
  | @barred flow part st step executes bars =>
    obtain ⟨earlier, journal⟩ := begun
    have told := settled.tell (Turn.admission step st.context.toScope st.moment).notices
    have split : (Turn.checked step st).ledger.journal =
        ((Turn.admission step st.context.toScope st.moment).notices.reverse.map Event.notice ++
          .started flow part st.context :: earlier) ++ base := by
      rw [Turn.checked_ledger, Ledger.tell_journal, journal, ← List.map_reverse, List.append_assoc]
      rfl
    rw [← Turn.checked_ledger, split] at told
    rw [Turn.bar_ledger, Ledger.enter_journal, split]
    refine (told.bar (justStarted?_notices _ _)).mono ?_
    rintro _ rfl
    exact .leave
  | plain executes admits => exact quiet ((settled.tell _).tell _)
  | unplanned executes admits plan | nothing executes admits plan => exact quiet (settled.tell _)
  | iterate executes admits plan visits ih => exact ih within trivial (settled.tell _)
  | @visitNext flow total done file files st st₁ st₂ exit result live walk graded rest ih ih' =>
    have walked : BarsHeeded outermost base (fun _ => False) st₁.ledger.journal := by
      refine (ih (Nat.le_succ_of_le within) trivial settled).mono ?_
      rintro _ ⟨⟩
      cases graded
    exact ih' within trivial (walked.tell _)
  | fileCanceled live walk graded ih | fileTerminal live walk graded ih =>
    refine (ih (Nat.le_succ_of_le within) trivial settled).mono ?_
    rintro _ ⟨⟩
    cases graded
  | fileFailed live walk graded ih =>
    refine (ih (Nat.le_succ_of_le within) trivial settled).mono ?_
    rintro _ ⟨⟩
    exact .done

/-- **A check that bars a step fails the run, unless the failure is taken further out.** Whatever
connections the part has, its walk fails, and so do one after the other the parts that asked for
the walks around it, while no part starts. That goes on until the run has failed, or until one of
these parts has an error connection that leads on; at the depth of the run there is none. -/
theorem barred_part_fails_run_unless_taken (site : Site) (registry : Registry) (flow : Flow)
    (st : Standing) {later earlier : List Event} {f : Flow} {p : Part}
    (happened : (runFlow site registry flow st).2.ledger.since st.ledger =
      later ++ .barred f p :: earlier) :
    ∃ c, justStarted? earlier = some (f, p, c) ∧
      (c.depth = st.context.depth → later = []) ∧
      ((HandedOut c.depth later st.context.depth ∧
          (runFlow site registry flow st).1.state = .failed ∧
          (runFlow site registry flow st).2.ledger.executed =
            st.ledger.executed + earlier.countP Event.isCounted) ∨
        ∃ after handed g q outer uid, later = after ++ .finished g q .failure outer :: handed ∧
          HandedOut c.depth handed (outer + 1) ∧ st.context.depth ≤ outer ∧
          Turn.next? g q .failure = some uid) := by
  obtain ⟨exit, final, walk, run⟩ := runFlow_comesTo site registry flow st
  rw [run, reportRun_ledger] at happened ⊢
  have books := walk.books
  have since : final.ledger.since (prepareRun site flow st).ledger =
      later ++ .barred f p :: earlier := happened
  rw [since] at books
  have nothing : BarsHeeded st.context.depth st.ledger.journal (fun _ => False) st.ledger.journal :=
    ⟨[], rfl, .nil, by rintro _ ⟨⟩⟩
  have within : st.context.depth ≤ (prepareRun site flow st).context.depth := Nat.le_refl _
  obtain ⟨news, journal, heeded, on⟩ := walk.heeds within trivial nothing
  have on : ∀ depth, BarredOut news depth → (Reply.leave exit).FailsOut st.context.depth depth := on
  cases List.append_cancel_right (journal.symm.trans books.journal)
  obtain ⟨c, started⟩ := heeded.started
  have follows := heeded.after_barred (BarredOut.barred started)
  refine ⟨c, started, ?_, ?_⟩
  · intro outermost
    rcases follows with ⟨depth, handed⟩ | ⟨after, handed, g, q, outer, uid, -, inner, within, -⟩
    · have out := on depth ((BarredOut.barred started).append handed)
      have length := handed.depth_add_length
      cases out
      exact List.eq_nil_of_length_eq_zero (by omega)
    · have length := inner.depth_add_length
      omega
  · rcases follows with ⟨depth, handed⟩ | ⟨after, handed, g, q, outer, uid, taken⟩
    · have out := on depth ((BarredOut.barred started).append handed)
      have counted := books.executed
      rw [List.countP_append, handed.uncounted] at counted
      cases out
      refine .inl ⟨handed, rfl, ?_⟩
      rw [counted, Nat.zero_add]
      rfl
    · exact .inr ⟨after, handed, g, q, outer, uid, taken⟩

namespace Sample

/-- A part that sets a variable, but none is named. -/
def unset : Part := (Part.new "Basic.SetVariable" default).entry

/-- A flow whose only part is barred. -/
def careless : Flow := { Flow.new "careless" .subFlow default with parts := [unset] }

/-- A worker with that flow. -/
def checking : Registry := (Registry.empty.withSteps Step.basics).withFlow careless

/-- A part that calls the flow. -/
def unguarded : Part := (Part.new "SubFlow:00000000-0000-0000-0000-000000000000" (uid 1)).entry

/-- A part at which a walk rests. -/
def resting : Part := Part.new "SubFlowInput" (uid 2)

/-- A flow that calls the other one by a part and has a place to rest. -/
def relying (call : Part) : Flow :=
  { Flow.new "relying" .normal (uid 4) with parts := [call, resting] }

theorem ofPart_relying (call : Part) (vars : Variables)
    (ref : call.stepRef = .ok (.subFlow default)) :
    Task.ofPart checking vars call =
      .ok (.subFlow careless (Task.properties (call.effectiveModel vars) vars)) :=
  Task.ofPart_of_stepRef ref vars

theorem step?_unset (vars : Variables) :
    unset.step? checking vars = some (Step.setVariable (unset.effectiveModel vars)) := by
  have ref : unset.stepRef = .ok (.native "Basic.SetVariable") := by rfl
  rw [Part.step?, Task.ofPart_of_stepRef ref]
  rfl

/-- Where a run stands when its first part calls the careless flow. -/
def callsAt (call : Part) : Standing :=
  Turn.start (relying call) call (prepareRun site (relying call) start).count

/-- What the call gives to the flow. -/
def given (call : Part) : Variables :=
  Task.properties (call.effectiveModel (callsAt call).context.vars) (callsAt call).context.vars

/-- Where the part of the called flow starts. -/
def setsAt (call : Part) : Standing :=
  Turn.start careless unset (Turn.callStart careless (given call) (callsAt call)).count

/-- The step of that part. -/
def setting (call : Part) : Step :=
  Step.setVariable (unset.effectiveModel (setsAt call).context.vars)

/-- The call fails, for the only part of the flow is barred. -/
theorem comesTo_call {call : Part} (ref : call.stepRef = .ok (.subFlow default))
    (bars : (Turn.admission (setting call) (setsAt call).context.toScope
      (setsAt call).moment).admitted = false) :
    ComesTo site checking (.attempt (relying call) call) (callsAt call) (.done .failure)
      (Turn.callEnd careless (given call) (callsAt call)
        (Turn.bar careless unset (Turn.checked (setting call) (setsAt call)))) := by
  have live : (callsAt call).ledger.canceled = false := by
    rw [callsAt, Turn.start_ledger]
    rfl
  have room : (callsAt call).ledger.executed < (callsAt call).ledger.ceiling := by
    rw [callsAt, Turn.start_ledger]
    exact (by decide : 1 < 50)
  have shallow : (callsAt call).context.depth < maxFlowDepth := by
    rw [callsAt, (Turn.onward_start _ _ _).depth]
    exact (by decide : 0 < maxFlowDepth)
  exact .call (ofPart_relying call _ ref)
    (.enter shallow rfl (.last live rfl room (.barred (step?_unset _) bars) rfl))

/-- The run of the flow whose call has an error connection. -/
def guardedRun : RunResult × Standing := runFlow site checking (relying guarded) start

/-- The run of the flow whose call has none. -/
def unguardedRun : RunResult × Standing := runFlow site checking (relying unguarded) start

/-- After the part is barred, the part that called for it fails and the run goes on where its
error connection leads. -/
theorem journal_guardedRun :
    guardedRun.1.state = .completed ∧ ∃ c₁ c₂ c₃ : Context,
      guardedRun.2.ledger.journal =
        [.finished (relying guarded) resting .success 0, .started (relying guarded) resting c₃,
          .finished (relying guarded) guarded .failure 0, .barred careless unset,
          .started careless unset c₂, .started (relying guarded) guarded c₁] := by
  have walk : ComesTo site checking (.walk (relying guarded))
      (prepareRun site (relying guarded) start) (.leave .completed) _ :=
    .enter (by decide) rfl
      (.next rfl rfl (by decide) (comesTo_call rfl (by rfl)) rfl
        (.last rfl rfl (by decide) (.input (by rfl)) rfl))
  rw [guardedRun, runFlow, comesTo_walk_iff.1 walk, reportRun_ledger]
  exact ⟨rfl, _, _, _, rfl⟩

/-- Without an error connection the run has failed with that part. -/
theorem journal_unguardedRun :
    unguardedRun.1.state = .failed ∧ ∃ c₁ c₂ : Context,
      unguardedRun.2.ledger.journal =
        [.finished (relying unguarded) unguarded .failure 0, .barred careless unset,
          .started careless unset c₂, .started (relying unguarded) unguarded c₁] := by
  have walk : ComesTo site checking (.walk (relying unguarded))
      (prepareRun site (relying unguarded) start) (.leave .failed) _ :=
    .enter (by decide) rfl
      (.last rfl rfl (by decide) (comesTo_call rfl (by rfl)) rfl)
  rw [unguardedRun, runFlow, comesTo_walk_iff.1 walk, reportRun_ledger]
  exact ⟨rfl, _, _, rfl⟩

end Sample

/-- The failure of the part that is barred in the called flow comes out, and the run fails. -/
theorem failure_of_barred_part_comes_out : ∃ c₁ c₂ : Context,
    Sample.unguardedRun.2.ledger.since Sample.start.ledger =
        [.finished (Sample.relying Sample.unguarded) Sample.unguarded .failure 0] ++
          .barred Sample.careless Sample.unset ::
            [.started Sample.careless Sample.unset c₂,
              .started (Sample.relying Sample.unguarded) Sample.unguarded c₁] ∧
      Sample.unguardedRun.1.state = .failed ∧ Sample.unguardedRun.2.ledger.executed = 2 := by
  obtain ⟨-, c₁, c₂, journal⟩ := Sample.journal_unguardedRun
  have happened : Sample.unguardedRun.2.ledger.since Sample.start.ledger =
      [.finished (Sample.relying Sample.unguarded) Sample.unguarded .failure 0] ++
        .barred Sample.careless Sample.unset :: [_, _] := Ledger.since_eq journal
  refine ⟨c₁, c₂, happened, ?_⟩
  obtain ⟨c, -, -, ⟨-, failed, executed⟩ | ⟨after, handed, g, q, outer, uid, later, -, -, leads⟩⟩ :=
    barred_part_fails_run_unless_taken Sample.site Sample.checking
      (Sample.relying Sample.unguarded) Sample.start happened
  · exact ⟨failed, executed⟩
  · cases after with
    | nil =>
      cases later
      cases leads
    | cons e after =>
      cases after <;> cases later

/-- A call takes the failure of the part that is barred: another part starts, and the run is
completed. -/
theorem barred_part_is_recovered_from : ∃ later earlier c,
    Sample.guardedRun.2.ledger.since Sample.start.ledger =
        later ++ .barred Sample.careless Sample.unset :: earlier ∧
      .started (Sample.relying Sample.guarded) Sample.resting c ∈ later ∧
      Sample.guardedRun.1.state = .completed := by
  obtain ⟨completed, c₁, c₂, c₃, journal⟩ := Sample.journal_guardedRun
  refine ⟨[_, _, _], [_, _], c₃, Ledger.since_eq journal, ?_, completed⟩
  exact List.mem_cons_of_mem _ List.mem_cons_self

end FlowGraph
