import FlowGraph.Proofs.Journals
import FlowGraph.Proofs.Scoping

/-!
# Switching is a tail call

A part that switches to another flow is counted, and the walk goes on at the entry of that flow
with its variables. Nothing of the flow that the walk leaves is kept for later: from there it is
the walk of the other flow from where the part hands the run over (`Standing.handOver`). By
induction this holds along any number of switches, also when they lead in a circle
(`switching_is_tail_call`).
-/

namespace FlowGraph

/-- Where a part of a flow hands a run over to another flow: the part is counted, a failure is
forgotten unless the flow handles failures, and the variables of the other flow are put over those
of the run. -/
def Standing.handOver (flow target : Flow) (st : Standing) : Standing where
  context :=
    (if flow.kind = .failure then st.context else st.context.clearFailure).withVariables
      (st.context.vars.overlay target.vars)
  ledger := st.ledger.count

/-- A walk that is at a part of a flow switches to another flow: the run goes on and has room for
the part, which is there and designates that flow, and the flow has one entry. -/
structure SwitchesAt (registry : Registry) (flow : Flow) (uid : Uuid) (st : Standing)
    (target : Flow) : Prop where
  live : st.ledger.canceled = false
  room : st.ledger.executed < st.ledger.ceiling
  part : ∃ part id, flow.part? uid = some part ∧ part.stepRef = .ok (.gotoFlow id) ∧
    registry.flow? id = some target
  entry : ∃ entry, target.entryPart = .ok entry

section
variable (site : Site) (registry : Registry)

/-- A walk gets from one part to another, turn by turn. -/
inductive Arrives : Flow → Uuid → Standing → Flow → Uuid → Standing → Prop where
  | here (flow : Flow) (uid : Uuid) (st : Standing) : Arrives flow uid st flow uid st
  | turn {flow flow' last : Flow} {uid uid' lastUid : Uuid} {st st' final : Standing}
      (takes : Turn.take site registry (nestedWalk site registry st) flow uid st =
        (.goOn flow' uid', st'))
      (rest : Arrives flow' uid' st' last lastUid final) : Arrives flow uid st last lastUid final

/-- A walk of a flow gets to a part that hands over to another flow, a walk of which from there
gets to a part that hands over to another flow, and so on. -/
inductive Switches : Flow → Standing → Flow → Standing → Prop where
  | stay (flow : Flow) (st : Standing) : Switches flow st flow st
  | switch {flow leaving target last : Flow} {entry : Part} {uid : Uuid}
      {st there final : Standing} (shallow : st.context.depth ≤ maxFlowDepth)
      (enters : flow.entryPart = .ok entry)
      (arrives : Arrives site registry flow entry.uid st leaving uid there)
      (goes : SwitchesAt registry leaving uid there target)
      (rest : Switches target (there.handOver leaving target) last final) :
      Switches flow st last final

variable {site registry} {flow flow' target : Flow} {uid uid' : Uuid} {st st' : Standing}

/-- A walk goes on from where it gets to. -/
theorem Arrives.value (h : Arrives site registry flow uid st flow' uid' st') :
    (Work.goOn flow uid).value site registry st =
      (Work.goOn flow' uid').value site registry st' := by
  induction h with
  | here flow uid st => rfl
  | turn takes rest ih => rw [value_of_goOn takes, ih]

/-- The walk stays as deeply nested as it is. -/
theorem Arrives.depth (h : Arrives site registry flow uid st flow' uid' st') :
    st'.context.depth = st.context.depth := by
  induction h with
  | here flow uid st => rfl
  | @turn flow flow' last uid uid' lastUid st st' final takes rest ih =>
    have onward := Turn.onward_take site registry (nestedWalk site registry st) flow uid st
    rw [takes] at onward
    exact ih.trans onward.depth

/-- From where a part has started it hands the run over, up to the journal, in which it stands. -/
theorem agrees_handOver (flow target : Flow) (part : Part) (st : Standing) :
    ((Turn.start flow part st.count).inContext fun c =>
      c.withVariables (c.vars.overlay target.vars)).Agrees (st.handOver flow target) := by
  have told (c : Context) : (st.ledger.count.enter (.started flow part c)).notices =
      st.ledger.count.notices :=
    (Ledger.notices_enter _ _).trans (List.append_nil _)
  unfold Turn.start Standing.handOver
  split
  · exact ⟨rfl, rfl, rfl, rfl, rfl, rfl, rfl, told _⟩
  · exact ⟨rfl, rfl, rfl, rfl, rfl, rfl, rfl, told _⟩

/-- **The turn that switches** leads to the entry of the other flow. -/
theorem SwitchesAt.take (goes : SwitchesAt registry flow uid st target) (site : Site)
    (nested : Walk) :
    ∃ entry after, target.entryPart = .ok entry ∧
      Turn.take site registry nested flow uid st = (.goOn target entry.uid, after) ∧
      after.Agrees (st.handOver flow target) := by
  obtain ⟨part, id, found, designates, registered⟩ := goes.part
  obtain ⟨entry, enters⟩ := goes.entry
  have task : Task.ofPart registry (Turn.start flow part st.count).context.vars part =
      .ok (.gotoFlow target) := by
    rw [Task.ofPart, designates]
    show Task.withFlow registry id .gotoFlow = _
    rw [Task.withFlow, registered]
  have within : st.count.ledger.isExceeded = false := Ledger.isExceeded_eq_false.2 goes.room
  have attempt : Turn.attempt site registry nested flow part (Turn.start flow part st.count) =
      (.goOn target entry.uid, (Turn.start flow part st.count).inContext fun c =>
        c.withVariables (c.vars.overlay target.vars)) := by
    rw [Turn.attempt, task]
    show Turn.switchTo flow part target _ = _
    rw [Turn.switchTo, enters]
  refine ⟨entry, _, enters, ?_, agrees_handOver flow target part st⟩
  simp only [Turn.take, goes.live, found, within, Bool.false_eq_true, if_false, Turn.execute,
    attempt, Turn.follow]

/-- The walk of a flow is what goes on from its entry. -/
theorem value_walk {entry : Part} (shallow : st.context.depth ≤ maxFlowDepth)
    (enters : flow.entryPart = .ok entry) :
    (Work.goOn flow entry.uid).value site registry st =
      (.leave (walkFlow site registry flow st).1, (walkFlow site registry flow st).2) := by
  rw [walkFlow_of_le shallow, Walk.fromEntry, enters]
  rfl

/-- **One switch is a tail call**: the walk of a flow that gets to a part that switches is the walk
of the other flow from where the part hands over. -/
theorem Arrives.walkFlow {entry : Part} (shallow : st.context.depth ≤ maxFlowDepth)
    (enters : flow.entryPart = .ok entry)
    (arrives : Arrives site registry flow entry.uid st flow' uid st')
    (goes : SwitchesAt registry flow' uid st' target) :
    (FlowGraph.walkFlow site registry flow st).1 =
        (FlowGraph.walkFlow site registry target (st'.handOver flow' target)).1 ∧
      (FlowGraph.walkFlow site registry flow st).2.Agrees
        (FlowGraph.walkFlow site registry target (st'.handOver flow' target)).2 := by
  obtain ⟨entry', after, enters', takes, agrees⟩ :=
    goes.take site (nestedWalk site registry st')
  have deep : after.context.depth = st.context.depth := by
    have onward := Turn.onward_take site registry (nestedWalk site registry st') flow' uid st'
    rw [takes] at onward
    exact onward.depth.trans arrives.depth
  have rest := arrives.value.trans (value_of_goOn takes)
  rw [value_walk shallow enters, value_walk (deep ▸ shallow) enters'] at rest
  obtain ⟨exit, final⟩ := Prod.mk.inj rest
  rw [Reply.leave.inj exit, final]
  exact agrees.walkFlow target

end

/-- **Switching is a tail call.** A walk that gets to a part that switches ends in the same way as
the walk of the other flow from where the part hands over, with the same context and with a ledger
that counts, records and tells the same, and so on along any number of switches. No part is recorded
for switching. -/
theorem switching_is_tail_call (site : Site) (registry : Registry) :
    (∀ flow st last final, Switches site registry flow st last final →
      (walkFlow site registry flow st).1 = (walkFlow site registry last final).1 ∧
        (walkFlow site registry flow st).2.Agrees (walkFlow site registry last final).2) ∧
    ∀ flow uid st target, SwitchesAt registry flow uid st target →
      (Turn.take site registry (nestedWalk site registry st) flow uid st).2.ledger.records =
        st.ledger.records := by
  constructor
  · intro flow st last final switches
    induction switches with
    | stay flow st => exact ⟨rfl, .refl _⟩
    | switch shallow enters arrives goes rest ih =>
      obtain ⟨exit, agrees⟩ := arrives.walkFlow shallow enters goes
      exact ⟨exit.trans ih.1, agrees.trans ih.2⟩
  · intro flow uid st target goes
    obtain ⟨entry, after, -, takes, agrees⟩ := goes.take site (nestedWalk site registry st)
    rw [takes]
    exact agrees.ledger.records

namespace Sample

/-- A flow that switches to itself. -/
def turning : Flow := { Flow.new "turning" .normal default with parts := [switching] }

/-- A worker with that flow. -/
def turnable : Registry := Registry.empty.withFlow turning

theorem switchesAt_turning {st : Standing} (live : st.ledger.canceled = false)
    (room : st.ledger.executed < st.ledger.ceiling) :
    SwitchesAt turnable turning (uid 1) st turning where
  live := live
  room := room
  part := ⟨switching, default, by rfl, by rfl, by rfl⟩
  entry := ⟨switching, by rfl⟩

end Sample

/-- After two turns of a circle the walk is one that has counted two parts, and the first turn
records nothing. -/
theorem turning_twice_is_tail_call :
    (walkFlow Sample.site Sample.turnable Sample.turning Sample.start).1 =
      (walkFlow Sample.site Sample.turnable Sample.turning
        ((Sample.start.handOver Sample.turning Sample.turning).handOver
          Sample.turning Sample.turning)).1 ∧
      (Turn.take Sample.site Sample.turnable
        (nestedWalk Sample.site Sample.turnable Sample.start) Sample.turning (Sample.uid 1)
          Sample.start).2.ledger.records = [] := by
  obtain ⟨tailCall, unrecorded⟩ := switching_is_tail_call Sample.site Sample.turnable
  have twice : Switches Sample.site Sample.turnable Sample.turning Sample.start _ _ :=
    .switch (by decide) rfl (.here _ _ _) (Sample.switchesAt_turning rfl (by decide))
      (.switch (by decide) rfl (.here _ _ _) (Sample.switchesAt_turning rfl (by decide))
        (.stay _ _))
  exact ⟨(tailCall _ _ _ _ twice).1,
    unrecorded _ _ _ _ (Sample.switchesAt_turning rfl (by decide))⟩

end FlowGraph
