import FlowGraph.Proofs.Blame
import FlowGraph.Proofs.Calls

/-!
# What a call leaves of the variables that flows declare

A called flow declares its variables over those of the caller, and the call puts those back. A
flow that a walk switches to declares its variables too, but no call knows of them: one that the
call does not set itself stays as it was declared, after the call and after every call around it
that does not set it either. `Brings` tells which flows leave their variables that way, and
`ComesTo.leaves` that nothing else changes a variable that no step writes.
-/

namespace FlowGraph

/-- Neither the check of a plain step nor its run writes the variable, from where a run stands. -/
structure Turn.Keeps (site : Site) (key : String) (actions : Moment → Action) (st : Standing) :
    Prop where
  check : (Turn.checked (.acting actions) st).context.vars.get? key = st.context.vars.get? key
  run : ((actions st.moment).check st.context.toScope).admitted = true →
    (Turn.act site actions (Turn.checked (.acting actions) st)).2.context.vars.get? key =
      st.context.vars.get? key

/-- The part that starts, as the ledger then is, does not write the variable by a step or a
script. -/
def Event.Keeps (site : Site) (registry : Registry) (key : String) (l : Ledger) : Event → Prop
  | .started _ part c =>
    ∀ actions, part.step? registry c.vars = some (.acting actions) →
      Turn.Keeps site key actions ⟨c, l⟩
  | _ => True

section
variable (site : Site) (registry : Registry) (key : String)

/-- The work switches to a flow that declares the variable, and no call on the way there sets the
variable. -/
inductive Brings : Work → Standing → Flow → Prop where
  | switch {flow target : Flow} {part entry : Part} {st : Standing}
      (task : Task.ofPart registry st.context.vars part = .ok (.gotoFlow target))
      (found : target.entryPart = .ok entry) (declares : target.vars.contains key = true) :
      Brings (.attempt flow part) st target
  | call {flow target source : Flow} {part : Part} {st : Standing} {properties : Variables}
      (task : Task.ofPart registry st.context.vars part = .ok (.subFlow target properties))
      (unset : Turn.sets target properties key = false)
      (inner : Brings (.walk target) (Turn.callStart target properties st) source) :
      Brings (.attempt flow part) st source
  | enter {flow source : Flow} {entry : Part} {st : Standing}
      (shallow : st.context.depth ≤ maxFlowDepth) (found : flow.entryPart = .ok entry)
      (rest : Brings (.goOn flow entry.uid) st source) : Brings (.walk flow) st source
  | here {flow source : Flow} {uid : Uuid} {part : Part} {st : Standing}
      (live : st.ledger.canceled = false) (found : flow.part? uid = some part)
      (room : st.ledger.executed < st.ledger.ceiling)
      (work : Brings (.attempt flow part) (Turn.start flow part st.count) source) :
      Brings (.goOn flow uid) st source
  | later {flow flow' source : Flow} {uid uid' : Uuid} {part : Part} {st st₁ st₂ : Standing}
      {reply : Reply} (live : st.ledger.canceled = false) (found : flow.part? uid = some part)
      (room : st.ledger.executed < st.ledger.ceiling)
      (work : ComesTo site registry (.attempt flow part) (Turn.start flow part st.count) reply st₁)
      (leads : Turn.follow flow part (reply, st₁) = (.goOn flow' uid', st₂))
      (rest : Brings (.goOn flow' uid') st₂ source) : Brings (.goOn flow uid) st source

/-- The work leaves the variable as it was and brings no flow that declares it, or else as one of
the flows that it brings declares it. -/
inductive Leaves (work : Work) (st st' : Standing) : Prop where
  | kept (same : st'.context.vars.get? key = st.context.vars.get? key)
      (none : ∀ source, ¬ Brings site registry key work st source) : Leaves work st st'
  | brought {source : Flow} (brings : Brings site registry key work st source)
      (declared : st'.context.vars.get? key = source.vars.get? key) : Leaves work st st'

/-- If the work is that of a part, then of one that does not write the variable. -/
def Work.Unwritten (st : Standing) : Work → Prop
  | .attempt flow part =>
    (Event.started flow part st.context).Keeps site registry key st.ledger
  | .walk _ | .goOn _ _ | .visit _ _ _ _ => True

end

section
variable {site : Site} {registry : Registry} {key : String}

/-! ## Turns and checks -/

theorem start_vars (flow : Flow) (part : Part) (st : Standing) :
    (Turn.start flow part st).context.vars = st.context.vars := by
  unfold Turn.start
  split <;> rfl

theorem route_vars (flow : Flow) (part : Part) (result : StepResult) (st : Standing) :
    (Turn.route flow part result st).2.context.vars = st.context.vars := by
  unfold Turn.route
  cases Turn.next? flow part result with
  | some uid => rfl
  | none => cases Turn.endReason? part.displayName result <;> rfl

theorem follow_vars {flow : Flow} {part : Part} {reply : Reply} {st st' : Standing} {turn : Turn}
    (leads : Turn.follow flow part (reply, st) = (turn, st')) :
    st'.context.vars = st.context.vars := by
  cases reply with
  | done result =>
    have routed := route_vars flow part result (Turn.note flow part result st)
    rw [← Turn.follow, leads] at routed
    exact routed
  | leave exit | goOn flow' uid =>
    cases leads
    rfl

/-- The check of an iteration gives no more than a reason. -/
theorem checked_eachFile_vars (e : EachFile) (st : Standing) :
    (Turn.checked (.eachFile e) st).context.vars = st.context.vars := by
  show (e.check st.context.toScope).scope.vars = st.context.vars
  unfold EachFile.check
  split
  · rfl
  · split <;> rfl

theorem checked_vars {part : Part} {flow : Flow} {step : Step} {st : Standing}
    (executes : part.step? registry st.context.vars = some step)
    (unwritten : (Work.attempt flow part).Unwritten site registry key st) :
    (Turn.checked step st).context.vars.get? key = st.context.vars.get? key := by
  cases step with
  | acting actions => exact (unwritten actions executes).check
  | eachFile e => rw [checked_eachFile_vars]

/-! ## Walks -/

/-- A part that resolves to a step brings nothing. -/
theorem not_brings_of_step? {flow source : Flow} {part : Part} {st : Standing} {step : Step}
    (executes : part.step? registry st.context.vars = some step) :
    ¬ Brings site registry key (.attempt flow part) st source := by
  intro brings
  unfold Part.step? at executes
  cases brings with
  | switch task | call task =>
    rw [task] at executes
    cases executes

/-- What is brought by a walk that goes on is brought by its first turn or by the rest. -/
theorem Brings.turn {flow source : Flow} {uid : Uuid} {part : Part} {st st₁ : Standing}
    {reply : Reply} (found : flow.part? uid = some part)
    (work : ComesTo site registry (.attempt flow part) (Turn.start flow part st.count) reply st₁)
    (brings : Brings site registry key (.goOn flow uid) st source) :
    Brings site registry key (.attempt flow part) (Turn.start flow part st.count) source ∨
      ∃ flow' uid' st₂, Turn.follow flow part (reply, st₁) = (.goOn flow' uid', st₂) ∧
        Brings site registry key (.goOn flow' uid') st₂ source := by
  cases brings with
  | here _ found' _ work' =>
    cases found.symm.trans found'
    exact .inl work'
  | later _ found' _ work' leads rest =>
    cases found.symm.trans found'
    obtain ⟨rfl, rfl⟩ := work.unique work'
    exact .inr ⟨_, _, _, leads, rest⟩

/-- What the last turn of a walk leaves. -/
theorem Leaves.last {flow : Flow} {uid : Uuid} {part : Part} {st st₁ st₂ : Standing} {reply : Reply}
    {exit : Exit} (live : st.ledger.canceled = false) (found : flow.part? uid = some part)
    (room : st.ledger.executed < st.ledger.ceiling)
    (work : ComesTo site registry (.attempt flow part) (Turn.start flow part st.count) reply st₁)
    (leads : Turn.follow flow part (reply, st₁) = (.leave exit, st₂))
    (turn : Leaves site registry key (.attempt flow part) (Turn.start flow part st.count) st₁) :
    Leaves site registry key (.goOn flow uid) st st₂ := by
  have followed := follow_vars leads
  cases turn with
  | brought brings declared =>
    rw [← followed] at declared
    exact .brought (.here live found room brings) declared
  | kept same none =>
    rw [← followed, start_vars] at same
    refine .kept same ?_
    intro source brings
    rcases brings.turn found work with here | ⟨_, _, _, leads', -⟩
    · exact none source here
    · cases leads.symm.trans leads'

/-- What a turn and the rest of its walk leave. -/
theorem Leaves.next {flow flow' : Flow} {uid uid' : Uuid} {part : Part} {st st₁ st₂ st₃ : Standing}
    {reply : Reply} (live : st.ledger.canceled = false) (found : flow.part? uid = some part)
    (room : st.ledger.executed < st.ledger.ceiling)
    (work : ComesTo site registry (.attempt flow part) (Turn.start flow part st.count) reply st₁)
    (leads : Turn.follow flow part (reply, st₁) = (.goOn flow' uid', st₂))
    (turn : Leaves site registry key (.attempt flow part) (Turn.start flow part st.count) st₁)
    (rest : Leaves site registry key (.goOn flow' uid') st₂ st₃) :
    Leaves site registry key (.goOn flow uid) st st₃ := by
  have followed := follow_vars leads
  cases rest with
  | brought brings declared => exact .brought (.later live found room work leads brings) declared
  | kept same none =>
    rw [followed] at same
    cases turn with
    | brought brings declared =>
      exact .brought (.here live found room brings) (same.trans declared)
    | kept same' none' =>
      rw [start_vars] at same'
      refine .kept (same.trans same') ?_
      intro source brings
      rcases brings.turn found work with here | ⟨_, _, _, leads', later⟩
      · exact none' source here
      · cases leads.symm.trans leads'
        exact none source later

/-- After a call a variable is as it was, and then nothing was brought unless the call sets the
variable; or else it is as it was brought. -/
theorem Leaves.callEnd {target : Flow} {st st' : Standing} {properties : Variables}
    (walk : Leaves site registry key (.walk target) (Turn.callStart target properties st) st') :
    ((Turn.callEnd target properties st st').context.vars.get? key = st.context.vars.get? key ∧
        (Turn.sets target properties key = false → ∀ source,
          ¬ Brings site registry key (.walk target) (Turn.callStart target properties st) source)) ∨
      Turn.sets target properties key = false ∧ ∃ source,
        Brings site registry key (.walk target) (Turn.callStart target properties st) source ∧
        (Turn.callEnd target properties st st').context.vars.get? key = source.vars.get? key := by
  -- The call saves the keys that it sets, and those only; what is brought is not among them.
  have after : (Turn.callEnd target properties st st').context.vars.get? key = _ :=
    Turn.get?_returnContext st.context st'.context target properties key
  have before : (Turn.callStart target properties st).context.vars.get? key = _ :=
    Turn.get?_callVariables st.context.vars target properties key
  cases sets : Turn.sets target properties key with
  | true =>
    rw [sets, if_pos rfl] at after
    exact .inl ⟨after, nofun⟩
  | false =>
    rw [sets, if_neg Bool.false_ne_true] at after
    cases walk with
    | brought brings declared => exact .inr ⟨rfl, _, brings, after.trans declared⟩
    | kept same none =>
      refine .inl ⟨?_, fun _ => none⟩
      simp only [Turn.sets, Dict.contains, Bool.or_eq_false_iff, Option.isSome_eq_false_iff,
        Option.isNone_iff_eq_none] at sets
      rw [after, same, before, sets.1, sets.2]
      rfl

/-- What a part leaves that calls a flow. -/
theorem Leaves.call {flow target : Flow} {part : Part} {st st' : Standing} {properties : Variables}
    (task : Task.ofPart registry st.context.vars part = .ok (.subFlow target properties))
    (walk : Leaves site registry key (.walk target) (Turn.callStart target properties st) st') :
    Leaves site registry key (.attempt flow part) st (Turn.callEnd target properties st st') := by
  rcases walk.callEnd with ⟨same, none⟩ | ⟨unset, source, brings, declared⟩
  · refine .kept same ?_
    intro source brings
    cases brings with
    | switch task' => cases task.symm.trans task'
    | call task' unset inner =>
      cases task.symm.trans task'
      exact none unset source inner
  · exact .brought (.call task unset brings) declared

/-- A switch leaves what the flow declares, and every other variable as it was. -/
theorem Leaves.switch {flow target : Flow} {part entry : Part} {st : Standing}
    (task : Task.ofPart registry st.context.vars part = .ok (.gotoFlow target))
    (found : target.entryPart = .ok entry) :
    Leaves site registry key (.attempt flow part) st
      (st.inContext fun c => c.withVariables (c.vars.overlay target.vars)) := by
  have after := Dict.get?_overlay st.context.vars target.vars key
  cases declared : target.vars.get? key with
  | some value =>
    have declares : target.vars.contains key = true := by
      rw [Dict.contains, declared]
      rfl
    rw [declared] at after
    exact .brought (.switch task found declares) (after.trans declared.symm)
  | none =>
    rw [declared] at after
    refine .kept after ?_
    intro source brings
    cases brings with
    | switch task' found' declares =>
      cases task.symm.trans task'
      rw [Dict.contains, declared] at declares
      cases declares
    | call task' => cases task.symm.trans task'

/-- **A variable that no step writes changes by switches only**: it is as it was, or as one of the
flows declares it that the work brings. -/
theorem ComesTo.leaves {work : Work} {st st' : Standing} {reply : Reply}
    (h : ComesTo site registry work st reply st') (unwritten : work.Unwritten site registry key st)
    (keeps : st.ledger.Throughout (Event.Keeps site registry key) (st'.ledger.since st.ledger)) :
    Leaves site registry key work st st' := by
  induction h with
  | tooDeep deep =>
    refine .kept rfl ?_
    intro source brings
    cases brings with
    | enter shallow => exact absurd deep (Nat.not_lt.2 shallow)
  | noEntry shallow none =>
    refine .kept rfl ?_
    intro source brings
    cases brings with
    | enter shallow found => cases none.symm.trans found
  | enter shallow found rest ih =>
    cases ih trivial keeps with
    | brought brings declared => exact .brought (.enter shallow found brings) declared
    | kept same none =>
      refine .kept same ?_
      intro source brings
      cases brings with
      | enter shallow' found' rest' =>
        cases found.symm.trans found'
        exact none source rest'
  | canceled stopped =>
    refine .kept rfl ?_
    intro source brings
    cases brings with
    | here live | later live =>
      rw [stopped] at live
      cases live
  | missing live none =>
    refine .kept rfl ?_
    intro source brings
    cases brings with
    | here _ found | later _ found => cases none.symm.trans found
  | refused live found full =>
    refine .kept rfl ?_
    intro source brings
    cases brings with
    | here _ _ room | later _ _ room => exact absurd room (Nat.not_lt.2 full)
  | last live found room work leads ih =>
    obtain ⟨start, inner⟩ := work.throughout_turn room leads keeps
    exact .last live found room work leads (ih start inner)
  | next live found room work leads rest ih ih' =>
    have turn := Ledger.Books.lawful.turn room (work.account Ledger.Books.lawful) leads
    obtain ⟨first, later⟩ := keeps.split turn (rest.account Ledger.Books.lawful)
    obtain ⟨start, inner⟩ := work.throughout_turn room leads first
    exact .next live found room work leads (ih start inner) (ih' trivial later)
  | unresolved task | marker task | input task =>
    refine .kept rfl ?_
    intro source brings
    cases brings with
    | switch task' | call task' => cases task.symm.trans task'
  | lost task none =>
    refine .kept rfl ?_
    intro source brings
    cases brings with
    | switch task' found =>
      cases task.symm.trans task'
      cases none.symm.trans found
    | call task' => cases task.symm.trans task'
  | switch task found => exact .switch task found
  | call task walk ih => exact .call task (ih trivial keeps)
  | barred executes bars =>
    exact .kept (checked_vars executes unwritten) fun _ => not_brings_of_step? executes
  | @plain flow part st actions executes admits =>
    have ran := (unwritten actions executes).run admits
    exact .kept ran fun _ => not_brings_of_step? executes
  | unplanned executes admits plan | nothing executes admits plan =>
    exact .kept (checked_vars executes unwritten) fun _ => not_brings_of_step? executes
  | @iterate flow target part st st' e file files result executes admits plan visits ih =>
    have checked := Ledger.Books.lawful.tell st.ledger (e.check st.context.toScope).notices
    obtain ⟨-, inner⟩ := keeps.split checked (visits.account Ledger.Books.lawful)
    cases ih trivial inner with
    | kept same none =>
      rw [checked_eachFile_vars] at same
      exact .kept same fun _ => not_brings_of_step? executes
    | brought brings => cases brings
  -- The files are walked in forks of the context, so nothing that they bring comes back.
  | visitedAll | visitCanceled stopped => exact .kept rfl nofun
  | visitNext live walk graded rest ih ih' =>
    cases ih' trivial (walk.throughout_visit rest keeps).2 with
    | kept same none => exact .kept same nofun
    | brought brings => cases brings
  | fileCanceled live walk graded ih | fileTerminal live walk graded ih
  | fileFailed live walk graded ih => exact .kept rfl nofun

/-- A flow that is brought declares the variable. -/
theorem Brings.declares {work : Work} {st : Standing} {source : Flow}
    (h : Brings site registry key work st source) : ∃ value, source.vars.get? key = some value := by
  induction h with
  | switch task found declares => exact Option.isSome_iff_exists.1 declares
  | call task unset inner ih => exact ih
  | enter shallow found rest ih => exact ih
  | here live found room work ih => exact ih
  | later live found room work leads rest ih => exact ih

end

/-- **What a call does to a variable that no step writes in it.** One that the call sets is as
before, and so is every other one, unless a flow that is switched to declares it and no call in
between sets it: then the variable is left as one of these flows declares it. -/
theorem call_leaves_unwritten_variable (site : Site) (registry : Registry) (flow : Flow)
    (properties : Variables) (st : Standing) (key : String)
    (unwritten : st.ledger.Throughout (Event.Keeps site registry key)
      ((Turn.callFlow (nestedWalk site registry st) flow properties st).2.ledger.since
        st.ledger)) :
    let called := Turn.callFlow (nestedWalk site registry st) flow properties st
    let Brought := Brings site registry key (.walk flow) (Turn.callStart flow properties st)
    (Turn.sets flow properties key = true →
        called.2.context.vars.get? key = st.context.vars.get? key) ∧
      ((∀ source, ¬ Brought source) →
        called.2.context.vars.get? key = st.context.vars.get? key) ∧
      (Turn.sets flow properties key = false → (∃ source, Brought source) →
        ∃ source value, Brought source ∧ source.vars.get? key = some value ∧
          called.2.context.vars.get? key = some value) := by
  intro called Brought
  let start := Turn.callStart flow properties st
  let walked := walkFlow site registry flow start
  have walk : ComesTo site registry (.walk flow) start (.leave walked.1) walked.2 :=
    comesTo_walk_iff.2 rfl
  have leaves := walk.leaves trivial unwritten
  rcases leaves.callEnd with ⟨same, none⟩ | ⟨unset, source, brings, declared⟩
  · refine ⟨fun _ => same, fun _ => same, ?_⟩
    rintro unset ⟨source, brings⟩
    exact absurd brings (none unset source)
  · refine ⟨?_, ?_, ?_⟩
    · intro sets
      rw [unset] at sets
      cases sets
    · intro none
      exact absurd brings (none source)
    · rintro - -
      obtain ⟨value, declares⟩ := brings.declares
      exact ⟨source, value, brings, declares, declared.trans declares⟩

namespace Sample

/-- A part that switches to a flow. -/
def switching : Part :=
  (Part.new "GotoFlow:00000000-0000-0000-0000-000000000000" (uid 1)).entry

/-- A part at which that flow rests. -/
def arriving : Part := (Part.new "SubFlowInput" default).entry

/-- A flow that declares a variable. -/
def leaking : Flow :=
  { Flow.new "leaking" .subFlow default with
    vars := .ofList [("leaked", .bool true)], parts := [arriving] }

/-- A flow that switches to that one. -/
def leading : Flow := { Flow.new "leading" .subFlow (uid 4) with parts := [switching] }

/-- A worker with the flow that declares the variable. -/
def switchable : Registry := Registry.empty.withFlow leaking

/-- What a call of the flow that switches comes to. -/
def leadingCall : StepResult × Standing :=
  Turn.callFlow (nestedWalk site switchable start) leading .empty start

theorem ofPart_switching (vars : Variables) :
    Task.ofPart switchable vars switching = .ok (.gotoFlow leaking) := by
  have ref : switching.stepRef = .ok (.gotoFlow default) := by rfl
  exact Task.ofPart_of_stepRef ref vars

theorem ofPart_arriving (vars : Variables) :
    Task.ofPart switchable vars arriving = .ok .subFlowInput := by
  have ref : arriving.stepRef = .ok .subFlowInput := by rfl
  exact Task.ofPart_of_stepRef ref vars

/-- The parts of the two flows write nothing. -/
theorem keeps_started {flow : Flow} {part : Part} (key : String) (c : Context) (l : Ledger)
    (or : part = switching ∨ part = arriving) :
    (Event.started flow part c).Keeps site switchable key l := by
  intro a executes
  unfold Part.step? at executes
  rcases or with rfl | rfl
  · rw [ofPart_switching] at executes
    cases executes
  · rw [ofPart_arriving] at executes
    cases executes

/-- The call starts both parts and leaves what the other flow declares. -/
theorem leadingCall_leaks :
    (∀ key, start.ledger.Throughout (Event.Keeps site switchable key)
      (leadingCall.2.ledger.since start.ledger)) ∧
      Brings site switchable "leaked" (.walk leading) (Turn.callStart leading .empty start)
        leaking ∧
      leadingCall.2.context.vars.get? "leaked" = some (.bool true) := by
  have switched (st : Standing) : ComesTo site switchable (.attempt leading switching) st _ _ :=
    .switch (ofPart_switching _) rfl
  have walk : ComesTo site switchable (.walk leading) (Turn.callStart leading .empty start)
      (.leave .completed) _ :=
    .enter (by decide) rfl
      (.next rfl rfl (by decide) (switched _) rfl
        (.last rfl rfl (by decide) (.input (ofPart_arriving _)) rfl))
  rw [leadingCall, Turn.callFlow, nestedWalk_callStart, comesTo_walk_iff.1 walk]
  refine ⟨?_, ?_, by rfl⟩
  · intro key
    exact ⟨trivial, keeps_started key _ _ (.inr rfl), keeps_started key _ _ (.inl rfl), trivial⟩
  · exact .enter (by decide) rfl
      (.here rfl rfl (by decide) (.switch (ofPart_switching _) rfl (by decide)))

end Sample

/-- After the call the variable is there as the flow declares it that was switched to. -/
theorem variable_of_switched_flow_stays : ∃ source value,
    Brings Sample.site Sample.switchable "leaked" (.walk Sample.leading)
      (Turn.callStart Sample.leading .empty Sample.start) source ∧
    source.vars.get? "leaked" = some value ∧
    Sample.leadingCall.2.context.vars.get? "leaked" = some value := by
  obtain ⟨keeps, brings, -⟩ := Sample.leadingCall_leaks
  obtain ⟨-, -, brought⟩ := call_leaves_unwritten_variable Sample.site Sample.switchable
    Sample.leading .empty Sample.start "leaked" (keeps "leaked")
  exact brought (by decide) ⟨_, brings⟩

/-- A variable leaks that a nested flow declares and no step writes: the caller did not have it. -/
theorem declared_variable_leaks :
    Sample.start.ledger.Throughout (Event.Keeps Sample.site Sample.switchable "leaked")
      (Sample.leadingCall.2.ledger.since Sample.start.ledger) ∧
      Brings Sample.site Sample.switchable "leaked" (.walk Sample.leading)
        (Turn.callStart Sample.leading .empty Sample.start) Sample.leaking ∧
      Sample.start.context.vars.get? "leaked" = none ∧
      Sample.leadingCall.2.context.vars.get? "leaked" = some (.bool true) := by
  obtain ⟨keeps, brings, leaked⟩ := Sample.leadingCall_leaks
  exact ⟨keeps "leaked", brings, by decide, leaked⟩

end FlowGraph
