import FlowGraph.Proofs.Scoping
import FlowGraph.Proofs.WellFormed

/-!
# What a run reaches

A walk keeps a flow and the uid of a part, and changes the pair at three places: at the
entry, along a connection and where a part switches to another flow. Each of them looks
before it leaps, so a part is there wherever a walk goes on, however ill-formed the flows
are. `Involves` tells which work a piece of work leads to and from where, `Reaches` is any
number of such steps, and what one step preserves holds of everything reached.

In flows without problems there is more to find: an entry at the beginning and at the
switches, and a part at the end of every connection.
-/

namespace FlowGraph

section
variable (site : Site) (registry : Registry)

/-- Work from one standing has to do other work, from another one. -/
inductive Involves : Work → Standing → Work → Standing → Prop where
  | entry {flow : Flow} {st : Standing} {entry : Part}
      (shallow : st.context.depth ≤ maxFlowDepth) (found : flow.entryPart = .ok entry) :
      Involves (.walk flow) st (.goOn flow entry.uid) st
  | turn {flow : Flow} {uid : Uuid} {part : Part} {st : Standing}
      (live : st.ledger.canceled = false) (found : flow.part? uid = some part)
      (room : st.ledger.executed < st.ledger.ceiling) :
      Involves (.goOn flow uid) st (.attempt flow part) (Turn.start flow part st.count)
  | next {flow flow' : Flow} {uid uid' : Uuid} {st st' : Standing}
      (leads : Turn.take site registry (nestedWalk site registry st) flow uid st =
        (.goOn flow' uid', st')) :
      Involves (.goOn flow uid) st (.goOn flow' uid') st'
  | call {flow target : Flow} {part : Part} {st : Standing} {properties : Variables}
      (task : Task.ofPart registry st.context.vars part = .ok (.subFlow target properties)) :
      Involves (.attempt flow part) st (.walk target) (Turn.callStart target properties st)
  | iterate {flow target : Flow} {part : Part} {st : Standing} {e : EachFile} {file : Path}
      {files : List Path} (executes : part.step? registry st.context.vars = some (.eachFile e))
      (admits : (e.check st.context.toScope).admitted = true)
      (plan : Iteration.plan site registry e (Turn.checked (.eachFile e) st) =
        .ok (target, file :: files)) :
      Involves (.attempt flow part) st (.visit target (files.length + 1) 0 (file :: files))
        (Turn.checked (.eachFile e) st)
  | file {flow : Flow} {total done : Nat} {file : Path} {files : List Path} {st : Standing}
      (live : st.ledger.canceled = false) :
      Involves (.visit flow total done (file :: files)) st (.walk flow)
        (Iteration.fileStart flow file st)
  | nextFile {flow : Flow} {total done : Nat} {file : Path} {files : List Path}
      {st st' : Standing} {exit : Exit} (live : st.ledger.canceled = false)
      (walked : walkFlow site registry flow (Iteration.fileStart flow file st) = (exit, st'))
      (graded : Iteration.grade exit = .acceptable) :
      Involves (.visit flow total done (file :: files)) st
        (.visit flow total (done + 1) files)
        ((st.withLedger st'.ledger).tell [.progress (.share (done + 1) total)])

/-- Work from one standing leads to other work from another one. -/
inductive Reaches : Work → Standing → Work → Standing → Prop where
  | refl (work : Work) (st : Standing) : Reaches work st work st
  | step {work work' work'' : Work} {st st' st'' : Standing}
      (first : Involves site registry work st work' st') (rest : Reaches work' st' work'' st'') :
      Reaches work st work'' st''

/-! ## Walks that do otherwise at a missing part -/

/-- A turn that does something else if its part is missing. -/
def Turn.takeOr (lost nested : Walk) (flow : Flow) (uid : Uuid) (st : Standing) :
    Turn × Standing :=
  if st.ledger.canceled = false ∧ flow.part? uid = none then
    let ended := lost.go flow st
    (.leave ended.1, ended.2)
  else take site registry nested flow uid st

/-- A turn that leads on is an ordinary one. -/
theorem Turn.takeOr_goOn {lost nested : Walk} {flow flow' : Flow} {uid uid' : Uuid}
    {st st' : Standing}
    (h : takeOr site registry lost nested flow uid st = (.goOn flow' uid', st')) :
    take site registry nested flow uid st = (.goOn flow' uid', st') := by
  rw [takeOr] at h
  split at h
  · cases h
  · exact h

theorem Turn.onward_takeOr (lost nested : Walk) (flow : Flow) (uid : Uuid) (st : Standing) :
    st.Onward (takeOr site registry lost nested flow uid st).2 := by
  rw [takeOr]
  split
  · exact lost.onward flow st
  · exact onward_take site registry nested flow uid st

namespace Walk

/-- Takes such turns from a part of a flow. -/
def turnsOr (lost nested : Walk) (flow : Flow) (uid : Uuid) (st : Standing) : Exit × Standing :=
  match _h : Turn.takeOr site registry lost nested flow uid st with
  | (.leave exit, st') => (exit, st')
  | (.goOn flow' uid', st') => turnsOr lost nested flow' uid' st'
termination_by st.ledger.ceiling - st.ledger.executed
decreasing_by exact Turn.room_take site registry nested (Turn.takeOr_goOn site registry _h)

theorem onward_turnsOr (lost nested : Walk) (flow : Flow) (uid : Uuid) (st : Standing) :
    st.Onward (turnsOr site registry lost nested flow uid st).2 := by
  fun_induction turnsOr site registry lost nested flow uid st with
  | case1 flow uid st exit st' h =>
    have onward := Turn.onward_takeOr site registry lost nested flow uid st
    rwa [h] at onward
  | case2 flow uid st flow' uid' st' h ih =>
    have onward := Turn.onward_takeOr site registry lost nested flow uid st
    rw [h] at onward
    exact onward.trans ih

/-- Walks a flow from its entry by such turns. -/
def fromEntryOr (lost nested : Walk) (flow : Flow) (st : Standing) : Exit × Standing :=
  match flow.entryPart with
  | .error e => (.failed, st.failAt flow "entry" e.message)
  | .ok entry => turnsOr site registry lost nested flow entry.uid st

theorem onward_fromEntryOr (lost nested : Walk) (flow : Flow) (st : Standing) :
    st.Onward (fromEntryOr site registry lost nested flow st).2 := by
  simp only [fromEntryOr]
  split
  · exact .failAt _ _ _ _
  · exact onward_turnsOr site registry lost nested _ _ _

/-- The walk by such turns that has room for so many levels. -/
def withLevelsOr (lost : Walk) : Nat → Walk
  | 0 => tooDeep
  | levels + 1 =>
    { go := fromEntryOr site registry lost (withLevelsOr lost levels)
      onward := onward_fromEntryOr site registry lost (withLevelsOr lost levels) }

end Walk

/-- Walks a flow from where a run stands, doing something else wherever a part is missing. -/
def walkFlowOr (lost : Walk) (flow : Flow) (st : Standing) : Exit × Standing :=
  (Walk.withLevelsOr site registry lost (maxFlowDepth + 1 - st.context.depth)).go flow st

end

section
variable {site : Site} {registry : Registry}

/-! ## What a step leads to -/

/-- The flow that the work is about. -/
def Work.flow : Work → Flow
  | .walk flow | .goOn flow _ | .attempt flow _ | .visit flow _ _ _ => flow

/-- The work is at a part of its flow, if it is at one at all. -/
def Work.IsPlaced : Work → Prop
  | .goOn flow uid => ∃ part, flow.part? uid = some part
  | .attempt flow part => part ∈ flow.parts
  | .walk _ | .visit _ _ _ _ => True

theorem Task.mem_of_withFlow {uid : Uuid} {use : Flow → Task} {task : Task}
    (h : Task.withFlow registry uid use = .ok task) :
    ∃ flow ∈ registry.flows, task = use flow := by
  rw [Task.withFlow] at h
  split at h
  · cases h
    exact ⟨_, Registry.mem_of_flow? ‹_›, rfl⟩
  · cases h

/-- The flow of a task, if it hands over to one. -/
def Task.flow? : Task → Option Flow
  | .subFlow flow _ | .gotoFlow flow => some flow
  | _ => none

/-- A part hands over to registered flows only. -/
theorem Task.mem_of_ofPart {vars : Variables} {part : Part} {task : Task} {flow : Flow}
    (asks : Task.ofPart registry vars part = .ok task) (hands : task.flow? = some flow) :
    flow ∈ registry.flows := by
  simp only [Task.ofPart] at asks
  split at asks
  · rename_i ref designated
    cases ref with
    | subFlow uid | gotoFlow uid =>
      obtain ⟨target, mem, rfl⟩ := Task.mem_of_withFlow asks
      cases hands
      exact mem
    | subFlowInput =>
      cases asks
      cases hands
    | script name | native name | subFlowOutput suffix =>
      simp only [Task.ofRef] at asks
      split at asks
      · cases asks
        cases hands
      · cases asks
  · cases asks

/-- An iteration walks a registered flow. -/
theorem Iteration.mem_of_plan {e : EachFile} {st : Standing} {target : Flow} {files : List Path}
    (plan : Iteration.plan site registry e st = .ok (target, files)) :
    target ∈ registry.flows := by
  simp only [Iteration.plan] at plan
  split at plan
  · cases plan
  split at plan
  · cases plan
  split at plan
  · cases plan
  split at plan
  · cases plan
  · rename_i flow registered
    have mem := Registry.mem_of_flow? registered
    split at plan
    · cases plan
    · cases plan
      exact mem

/-- What a part asks for leads on by itself only at the entry of a flow that the part switches
to. -/
theorem goOn_of_attempt {nested : Walk} {flow target : Flow} {part : Part} {uid : Uuid}
    {st st' : Standing}
    (h : Turn.attempt site registry nested flow part st = (.goOn target uid, st')) :
    Task.ofPart registry st.context.vars part = .ok (.gotoFlow target) ∧
      ∃ entry, target.entryPart = .ok entry ∧ uid = entry.uid := by
  simp only [Turn.attempt] at h
  split at h
  case h_3 task =>
    simp only [Turn.switchTo] at h
    split at h
    · cases h
    · cases h
      exact ⟨task, _, ‹_›, rfl⟩
  case h_6 | h_7 =>
    simp only [Turn.checkAndPerform] at h
    split at h <;> cases h
  all_goals cases h

/-- A turn leads on from a part that it has found, along a connection or to the entry of
another flow. -/
theorem goOn_of_take {nested : Walk} {flow flow' : Flow} {uid uid' : Uuid} {st st' : Standing}
    (h : Turn.take site registry nested flow uid st = (.goOn flow' uid', st')) :
    ∃ part, flow.part? uid = some part ∧
      ((flow' = flow ∧ ∃ result, Turn.next? flow part result = some uid') ∨
        ∃ vars entry, Task.ofPart registry vars part = .ok (.gotoFlow flow') ∧
          flow'.entryPart = .ok entry ∧ uid' = entry.uid) := by
  simp only [Turn.take] at h
  split at h
  · cases h
  split at h
  · cases h
  · rename_i part found
    refine ⟨part, found, ?_⟩
    split at h
    · cases h
    simp only [Turn.execute] at h
    cases work : Turn.attempt site registry nested flow part (Turn.start flow part st.count) with
    | mk reply st₁ =>
    rw [work] at h
    cases reply with
    | done result =>
      simp only [Turn.follow, Turn.route] at h
      split at h
      · cases h
        exact .inl ⟨rfl, result, ‹_›⟩
      · cases h
    | leave exit => cases h
    | goOn target uid =>
      cases h
      obtain ⟨task, entry, found, rfl⟩ := goOn_of_attempt work
      exact .inr ⟨_, entry, task, found, rfl⟩

/-- **A turn leads on to a part** of the flow that it leads to. -/
theorem placed_of_take {nested : Walk} {flow flow' : Flow} {uid uid' : Uuid} {st st' : Standing}
    (h : Turn.take site registry nested flow uid st = (.goOn flow' uid', st')) :
    (Work.goOn flow' uid').IsPlaced := by
  obtain ⟨part, -, ⟨rfl, result, follows⟩ | ⟨vars, entry, -, found, rfl⟩⟩ := goOn_of_take h
  · obtain ⟨next, -, found⟩ := leads_of_next? follows
    exact ⟨next, found⟩
  · exact Flow.exists_part? (Flow.mem_of_entryPart found)

/-- Every step leads to work that is at a part. -/
theorem Involves.isPlaced {work work' : Work} {st st' : Standing}
    (h : Involves site registry work st work' st') : work'.IsPlaced := by
  cases h with
  | entry shallow found => exact Flow.exists_part? (Flow.mem_of_entryPart found)
  | turn live found room => exact (Flow.part?_eq_some found).1
  | next leads => exact placed_of_take leads
  | call | iterate | file | nextFile => trivial

/-- A step stays in its flow or leads to a registered one. -/
theorem Involves.flow_mem {work work' : Work} {st st' : Standing}
    (h : Involves site registry work st work' st') :
    work'.flow = work.flow ∨ work'.flow ∈ registry.flows := by
  cases h with
  | entry | turn | file | nextFile => exact .inl rfl
  | next leads =>
    obtain ⟨part, -, ⟨rfl, -⟩ | ⟨vars, entry, task, -⟩⟩ := goOn_of_take leads
    · exact .inl rfl
    · exact .inr (Task.mem_of_ofPart task rfl)
  | call task => exact .inr (Task.mem_of_ofPart task rfl)
  | iterate executes admits plan => exact .inr (Iteration.mem_of_plan plan)

/-! ## What a walk does at a missing part does not matter -/

theorem Turn.takeOr_of_placed {lost nested : Walk} {flow : Flow} {uid : Uuid} {st : Standing}
    (placed : (Work.goOn flow uid).IsPlaced) :
    takeOr site registry lost nested flow uid st = take site registry nested flow uid st := by
  obtain ⟨part, found⟩ := placed
  exact if_neg (by simp [found])

namespace Walk

theorem turnsOr_of_leave {lost nested : Walk} {flow : Flow} {uid : Uuid} {st st' : Standing}
    {exit : Exit} (h : Turn.takeOr site registry lost nested flow uid st = (.leave exit, st')) :
    turnsOr site registry lost nested flow uid st = (exit, st') := by
  rw [turnsOr]
  split <;> simp_all

theorem turnsOr_of_goOn {lost nested : Walk} {flow flow' : Flow} {uid uid' : Uuid}
    {st st' : Standing}
    (h : Turn.takeOr site registry lost nested flow uid st = (.goOn flow' uid', st')) :
    turnsOr site registry lost nested flow uid st =
      turnsOr site registry lost nested flow' uid' st' := by
  rw [turnsOr]
  split <;> simp_all

/-- Where a part is there, a walk goes on the same. -/
theorem turnsOr_eq {lost nested : Walk} {flow : Flow} {uid : Uuid} {st : Standing}
    (placed : (Work.goOn flow uid).IsPlaced) :
    turnsOr site registry lost nested flow uid st = turns site registry nested flow uid st := by
  fun_induction turns site registry nested flow uid st with
  | case1 flow uid st exit st' h =>
    exact turnsOr_of_leave ((Turn.takeOr_of_placed placed).trans h)
  | case2 flow uid st flow' uid' st' h ih =>
    rw [turnsOr_of_goOn ((Turn.takeOr_of_placed placed).trans h)]
    exact ih (placed_of_take h)

theorem eq_of_go {a b : Walk} (h : ∀ flow st, a.go flow st = b.go flow st) : a = b := by
  obtain ⟨go, onward⟩ := a
  obtain ⟨go', onward'⟩ := b
  obtain rfl : go = go' := funext fun flow => funext (h flow)
  rfl

/-- However many levels there are, walks are the same at all of them. -/
theorem withLevelsOr_eq (lost : Walk) (levels : Nat) :
    withLevelsOr site registry lost levels = withLevels site registry levels := by
  induction levels with
  | zero => rfl
  | succ levels ih =>
    refine eq_of_go fun flow st => ?_
    show fromEntryOr site registry lost (withLevelsOr site registry lost levels) flow st =
      fromEntry site registry (withLevels site registry levels) flow st
    rw [ih, fromEntryOr, fromEntry]
    cases entry : flow.entryPart with
    | error e => rfl
    | ok part => exact turnsOr_eq (Flow.exists_part? (Flow.mem_of_entryPart entry))

end Walk

/-- **No walk comes to a missing part**: what it would do there does not matter. -/
theorem walkFlowOr_eq (lost : Walk) (flow : Flow) (st : Standing) :
    walkFlowOr site registry lost flow st = walkFlow site registry flow st := by
  rw [walkFlowOr, Walk.withLevelsOr_eq, walkFlow, Walk.atDepth]

/-! ## What is reached -/

/-- What holds at first and is preserved by each step holds of everything that is reached. -/
theorem Reaches.invariant {P : Work → Prop}
    (preserved : ∀ {work work' : Work} {st st' : Standing},
      Involves site registry work st work' st' → P work → P work')
    {work work' : Work} {st st' : Standing} (h : Reaches site registry work st work' st')
    (begins : P work) : P work' := by
  induction h with
  | refl => exact begins
  | step first rest ih => exact ih (preserved first begins)

theorem Reaches.isPlaced {flow : Flow} {work : Work} {st st' : Standing}
    (h : Reaches site registry (.walk flow) st work st') : work.IsPlaced :=
  h.invariant (fun step _ => step.isPlaced) trivial

/-- Of well-formed flows alone well-formed ones are reached. -/
theorem Reaches.isSound {flow : Flow} {work : Work} {st st' : Standing}
    (h : Reaches site registry (.walk flow) st work st') (own : flow.IsSound)
    (registered : ∀ g ∈ registry.flows, g.IsSound) : work.flow.IsSound := by
  refine h.invariant ?_ own (P := fun work => work.flow.IsSound)
  intro work work' st st' step sound
  rcases step.flow_mem with same | mem
  · rw [same]
    exact sound
  · exact registered _ mem

/-! ## Nothing starts that is not reached -/

variable (site registry) in
/-- If the event starts a part, the work has led there. -/
def Event.IsReached (work : Work) (st : Standing) (e : Event) : Prop :=
  ∀ flow part c, e = .started flow part c →
    ∃ st', Reaches site registry work st (.attempt flow part) st' ∧ st'.context = c

theorem Event.isReached_of_isStart {work : Work} {st : Standing} {e : Event}
    (h : e.isStart = false) : e.IsReached site registry work st := by
  rintro flow part c rfl
  cases h

theorem Event.IsReached.step {work work' : Work} {st st' : Standing} {e : Event}
    (h : e.IsReached site registry work' st') (first : Involves site registry work st work' st') :
    e.IsReached site registry work st := by
  intro flow part c start
  obtain ⟨st'', rest, context⟩ := h flow part c start
  exact ⟨st'', .step first rest, context⟩

theorem Ledger.Tells.reached_notices {work : Work} {st : Standing} (l : Ledger) (ns : List Notice) :
    l.Tells (Event.IsReached site registry work st) (l.tell ns) :=
  .tell l ns fun _ => Event.isReached_of_isStart rfl

/-- A turn reaches the part that it starts, and all that the part starts. -/
theorem Ledger.Tells.reached_turn {flow : Flow} {uid : Uuid} {part : Part} {st st₁ st₂ : Standing}
    {reply : Reply} {turn : Turn}
    (inner : (Turn.start flow part st.count).ledger.Tells
      (Event.IsReached site registry (.attempt flow part) (Turn.start flow part st.count))
      st₁.ledger)
    (first : Involves site registry (.goOn flow uid) st (.attempt flow part)
      (Turn.start flow part st.count))
    (leads : Turn.follow flow part (reply, st₁) = (turn, st₂)) :
    st.ledger.Tells (Event.IsReached site registry (.goOn flow uid) st) st₂.ledger := by
  have start : st.ledger.Tells (Event.IsReached site registry (.goOn flow uid) st)
      (Turn.start flow part st.count).ledger := by
    rw [Turn.start_ledger]
    refine .enter st.ledger.count ?_
    rintro _ _ _ ⟨⟩
    exact ⟨_, .step first (.refl _ _), rfl⟩
  refine (start.trans (inner.imp fun _ h => h.step first)).trans ?_
  obtain ⟨result, -, ledger⟩ | ledger := follow_ledger leads
  · rw [ledger]
    exact .enter _ (Event.isReached_of_isStart rfl)
  · rw [ledger]
    exact .refl _

/-- **Nothing starts that is not reached.** -/
theorem ComesTo.reached {work : Work} {st st' : Standing} {reply : Reply}
    (h : ComesTo site registry work st reply st') :
    st.ledger.Tells (Event.IsReached site registry work st) st'.ledger := by
  induction h with
  | tooDeep deep => exact .enter _ (Event.isReached_of_isStart rfl)
  | noEntry | canceled | missing | unresolved | lost | switch | input | visitedAll
  | visitCanceled => exact .refl _
  | enter shallow found rest ih => exact ih.imp fun _ h => h.step (.entry shallow found)
  | refused live found full => exact .enter _ (Event.isReached_of_isStart rfl)
  | last live found room work leads ih => exact ih.reached_turn (.turn live found room) leads
  | next live found room work leads rest ih ih' =>
    refine (ih.reached_turn (.turn live found room) leads).trans
      (ih'.imp fun _ h => h.step (.next ?_))
    rw [take_of_room live found room, work.value, leads]
  | marker task => exact .enter _ (Event.isReached_of_isStart rfl)
  | call task walk ih => exact ih.imp fun _ h => h.step (.call task)
  | barred executes bars =>
    exact (Ledger.Tells.reached_notices _ _).trans (.enter _ (Event.isReached_of_isStart rfl))
  | plain executes admits =>
    exact (Ledger.Tells.reached_notices _ _).trans (.reached_notices _ _)
  | unplanned executes admits plan | nothing executes admits plan => exact .reached_notices _ _
  | iterate executes admits plan visits ih =>
    exact (Ledger.Tells.reached_notices _ _).trans
      (ih.imp fun _ h => h.step (.iterate executes admits plan))
  | visitNext live walk graded rest ih ih' =>
    exact (ih.imp fun _ h => h.step (.file live)).trans
      ((Ledger.Tells.reached_notices _ _).trans
        (ih'.imp fun _ h => h.step (.nextFile live (comesTo_walk_iff.1 walk) graded)))
  | fileCanceled live walk graded ih | fileTerminal live walk graded ih
  | fileFailed live walk graded ih => exact ih.imp fun _ h => h.step (.file live)

/-! ## The first part of a walk -/

/-- Of what has happened since a part was due, its start comes first. -/
theorem find?_start {flow : Flow} {part : Part} {st : Standing} {l : Ledger}
    (onward : (Turn.start flow part st.count).ledger.Onward l) :
    (l.since st.ledger).reverse.find? Event.isStart =
      some (.started flow part (Turn.start flow part st.count).context) := by
  obtain ⟨later, journal⟩ := onward.journal
  rw [Turn.start_ledger, Ledger.enter_journal, Standing.count_ledger, Ledger.count_journal,
    List.append_cons] at journal
  rw [Ledger.since_eq journal.symm, List.reverse_append]
  rfl

/-- A walk starts nothing before the part that is found under the uid of its entry. -/
theorem ComesTo.first_start {flow : Flow} {entry part : Part} {st st' : Standing} {reply : Reply}
    (h : ComesTo site registry (.walk flow) st reply st') (found : flow.entryPart = .ok entry)
    (there : flow.part? entry.uid = some part) {event : Event}
    (first : (st'.ledger.since st.ledger).reverse.find? Event.isStart = some event) :
    ∃ c, event = .started flow part c := by
  cases h with
  | tooDeep deep =>
    rw [Ledger.since_eq (show _ = [.tooDeep flow] ++ st.ledger.journal from rfl)] at first
    cases first
  | noEntry shallow none =>
    rw [none] at found
    cases found
  | enter shallow found' rest =>
    cases found.symm.trans found'
    cases rest with
    | canceled stopped =>
      rw [Ledger.since_eq (List.nil_append _).symm] at first
      cases first
    | missing live none =>
      rw [none] at there
      cases there
    | refused live found full =>
      rw [Ledger.since_eq (show _ = [.refused flow _] ++ st.ledger.journal from rfl)] at first
      cases first
    | last live found room work leads =>
      cases there.symm.trans found
      rw [find?_start (work.onward_start leads).ledger] at first
      cases first
      exact ⟨_, rfl⟩
    | next live found room work leads rest =>
      cases there.symm.trans found
      rw [find?_start ((work.onward_start leads).trans rest.onward).ledger] at first
      cases first
      exact ⟨_, rfl⟩

/-- A walk of a well-formed flow starts nothing before the only part without inputs. -/
theorem Flow.IsSound.first_start {flow : Flow} (sound : flow.IsSound) (st : Standing) :
    ∃ entry, flow.parts.filter Part.isEntry = [entry] ∧ flow.entryPart = .ok entry ∧
      ∀ event, ((walkFlow site registry flow st).2.ledger.since st.ledger).reverse.find?
        Event.isStart = some event → ∃ c, event = .started flow entry c := by
  obtain ⟨entry, found, there⟩ := sound.entryPart
  have walk : ComesTo site registry (.walk flow) st (.leave (walkFlow site registry flow st).1)
      (walkFlow site registry flow st).2 := comesTo_walk_iff.2 rfl
  exact ⟨entry, Flow.entryPart_eq_ok.1 found, found, fun event first =>
    walk.first_start found there first⟩

end

/-- **Wherever a walk goes on there is a part**, in flows with problems as well: what a walk would
do at a missing part does not matter, and the uid that it goes on with is that of a part of the
flow that it has come to. Every part that starts is among what is reached in this way. If neither
the flow nor a registered one has problems, then moreover every walk that is reached finds the
only part without inputs and starts it first, a part that switches to a flow finds that flow's
entry, and no connection that a result follows leads to a missing part. -/
theorem every_walk_goes_on_at_a_part (site : Site) (registry : Registry) (flow : Flow)
    (st : Standing) :
    (∀ lost : Walk,
      walkFlowOr site registry lost flow st = walkFlow site registry flow st) ∧
    (∀ f uid st', Reaches site registry (.walk flow) st (.goOn f uid) st' →
      ∃ part ∈ f.parts, part.uid = uid ∧ f.part? uid = some part) ∧
    (∀ e ∈ (walkFlow site registry flow st).2.ledger.since st.ledger,
      e.IsReached site registry (.walk flow) st) ∧
    (flow.problems = [] → (∀ g ∈ registry.flows, g.problems = []) →
      (∀ f st', Reaches site registry (.walk flow) st (.walk f) st' →
        ∃ entry, f.parts.filter Part.isEntry = [entry] ∧ f.entryPart = .ok entry ∧
          ∀ event, ((walkFlow site registry f st').2.ledger.since st'.ledger).reverse.find?
            Event.isStart = some event → ∃ c, event = .started f entry c) ∧
      ∀ f part st', Reaches site registry (.walk flow) st (.attempt f part) st' →
        (∀ target, Task.ofPart registry st'.context.vars part = .ok (.gotoFlow target) →
          ∃ entry, target.entryPart = .ok entry ∧ target.part? entry.uid = some entry) ∧
        ∀ result c, Turn.connection? part result = some c →
          (∃ next, f.part? c.target = some next) ∧
            Turn.next? f part result = some c.target) := by
  refine ⟨fun lost => walkFlowOr_eq lost flow st, ?_, ?_, ?_⟩
  · intro f uid st' reached
    obtain ⟨part, found⟩ := reached.isPlaced
    obtain ⟨there, same⟩ := Flow.part?_eq_some found
    exact ⟨part, there, same, found⟩
  · have walk : ComesTo site registry (.walk flow) st _ _ := comesTo_walk_iff.2 rfl
    exact walk.reached.since
  · intro own registered
    have sound : flow.IsSound := Flow.isSound_of_problems own
    have others : ∀ g ∈ registry.flows, g.IsSound := fun g mem =>
      Flow.isSound_of_problems (registered g mem)
    constructor
    · intro f st' reached
      have here : f.IsSound := reached.isSound sound others
      exact here.first_start st'
    · intro f part st' reached
      have here : f.IsSound := reached.isSound sound others
      have there : part ∈ f.parts := reached.isPlaced
      constructor
      · intro target task
        exact (others target (Task.mem_of_ofPart task rfl)).entryPart
      · intro result c follows
        exact ⟨here.exists_target there follows, here.next? there follows⟩

namespace Sample

theorem problems_leading : leading.problems = [] := by rfl

theorem problems_switchable : ∀ g ∈ switchable.flows, g.problems = [] := by
  intro g mem
  obtain rfl : g = leaking := List.mem_singleton.1 mem
  rfl

/-- The walk of the flow that switches goes on at the part where the other flow rests. -/
theorem reaches_arriving : ∃ st',
    Reaches site switchable (.walk leading) start (.goOn leaking arriving.uid) st' := by
  have there : leading.part? switching.uid = some switching := by rfl
  have switched : ComesTo site switchable (.attempt leading switching)
      (Turn.start leading switching start.count) (.goOn leaking arriving.uid) _ :=
    .switch (ofPart_switching _) rfl
  have leads : Turn.take site switchable (nestedWalk site switchable start) leading switching.uid
      start = (.goOn leaking arriving.uid, _) :=
    (take_of_room rfl there (by decide)).trans
      (congrArg (Turn.follow leading switching) switched.value)
  exact ⟨_, .step (.entry (by decide) rfl) (.step (.next leads) (.refl _ _))⟩

end Sample

/-- In the flow that is switched to, the walk goes on at a part; and the flow that it began with
has one entry. -/
theorem switching_walk_goes_on_at_a_part :
    (∃ st', Reaches Sample.site Sample.switchable (.walk Sample.leading) Sample.start
      (.goOn Sample.leaking Sample.arriving.uid) st') ∧
    (∃ part ∈ Sample.leaking.parts, part.uid = Sample.arriving.uid) ∧
    ∃ entry, Sample.leading.parts.filter Part.isEntry = [entry] := by
  obtain ⟨-, placed, -, sound⟩ := every_walk_goes_on_at_a_part Sample.site Sample.switchable
    Sample.leading Sample.start
  obtain ⟨st', reached⟩ := Sample.reaches_arriving
  obtain ⟨part, there, same, -⟩ := placed _ _ _ reached
  obtain ⟨walks, -⟩ := sound Sample.problems_leading Sample.problems_switchable
  obtain ⟨entry, only, -⟩ := walks _ _ (.refl _ _)
  exact ⟨⟨st', reached⟩, ⟨part, there, same⟩, entry, only⟩

end FlowGraph
