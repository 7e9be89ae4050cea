import FlowGraph.Proofs.Records
import Mathlib.Data.List.Forall2

/-!
# Flows, ledgers and tasks that a run cannot tell apart

A run sees the lists of a flow and of a part only by what it looks up in them: the entry, a part
by its uid, a connection by its output. Flows and parts with the same answers are alike, and so
are registries whose flows are. The ledgers of two runs are alike if they count and tell the same,
up to parts and flows that are alike and a ceiling that is higher by a slack.
-/

namespace FlowGraph

/-- Two outcomes agree: both are related values, or both are the same error. -/
inductive Agree {ε α β : Type} (R : α → β → Prop) : Except ε α → Except ε β → Prop where
  | ok {a : α} {b : β} (related : R a b) : Agree R (.ok a) (.ok b)
  | error (e : ε) : Agree R (.error e) (.error e)

theorem Agree.of_ok {ε α β : Type} {R : α → β → Prop} {x : Except ε α} {y : Except ε β} {a : α}
    (h : Agree R x y) (value : x = .ok a) : ∃ b, y = .ok b ∧ R a b := by
  subst value
  cases h with
  | ok related => exact ⟨_, rfl, related⟩

theorem Agree.of_error {ε α β : Type} {R : α → β → Prop} {x : Except ε α} {y : Except ε β} {e : ε}
    (h : Agree R x y) (value : x = .error e) : y = .error e := by
  subst value
  cases h with
  | error => rfl

theorem rel_of_some {α β : Type} {R : α → β → Prop} {x : Option α} {y : Option β} {a : α}
    (h : Option.Rel R x y) (value : x = some a) : ∃ b, y = some b ∧ R a b := by
  subst value
  cases h with
  | some related => exact ⟨_, rfl, related⟩

theorem rel_of_none {α β : Type} {R : α → β → Prop} {x : Option α} {y : Option β}
    (h : Option.Rel R x y) (value : x = none) : y = none := by
  subst value
  cases h with
  | none => rfl

/-! ## Flows -/

/-- The parts are the same, up to the order of connections in which none is looked up. -/
structure Part.Alike (p q : Part) : Prop where
  same : q = { p with outputConnections := q.outputConnections }
  leads : ∀ n, q.connectionFor? n = p.connectionFor? n

/-- The flows are the same, up to lists in which the same parts are looked up. -/
structure Flow.Alike (f g : Flow) : Prop where
  same : g = { f with parts := g.parts }
  part : ∀ uid, Option.Rel Part.Alike (f.part? uid) (g.part? uid)
  entry : Agree Part.Alike f.entryPart g.entryPart

/-- The same steps and scripts, and flows that are alike. -/
structure Registry.Alike (r s : Registry) : Prop where
  steps : s.steps = r.steps
  scripts : s.scripts = r.scripts
  flow : ∀ uid, Option.Rel Flow.Alike (r.flow? uid) (s.flow? uid)

/-- The same files at all times, and scripts and the steps of a registry that run the same. -/
structure Site.Alike (registry : Registry) (a b : Site) : Prop where
  files : b.files = a.files
  changes : b.changes = a.changes
  scripts : b.scripts = a.scripts
  steps : ∀ name make m actions, registry.steps.get? name = some make →
    make m = .acting actions → ∀ moment, (actions moment).run b = (actions moment).run a

/-- The same task, with a flow that is alike. -/
inductive Task.Alike : Task → Task → Prop where
  | native (step : Step) : Alike (.native step) (.native step)
  | script (step : ScriptStep) : Alike (.script step) (.script step)
  | subFlow {f g : Flow} (flows : f.Alike g) (properties : Variables) :
      Alike (.subFlow f properties) (.subFlow g properties)
  | gotoFlow {f g : Flow} (flows : f.Alike g) : Alike (.gotoFlow f) (.gotoFlow g)
  | subFlowInput : Alike .subFlowInput .subFlowInput
  | subFlowOutput (result : StepResult) : Alike (.subFlowOutput result) (.subFlowOutput result)

theorem Site.Alike.filesAt {registry : Registry} {a b : Site} (h : a.Alike registry b)
    (time : Nat) : b.filesAt time = a.filesAt time := by
  induction time with
  | zero => exact h.files
  | succ time ih => rw [Site.filesAt, Site.filesAt, h.changes, ih]

/-- What does not look at the connections of a part is the same for parts that are alike. -/
theorem Part.Alike.congr {α : Sort _} {p q : Part} (h : p.Alike q) (f : Part → α)
    (blind : ∀ connections, f { p with outputConnections := connections } = f p) : f q = f p := by
  rw [h.same, blind]

theorem Part.Alike.refl (p : Part) : p.Alike p := ⟨rfl, fun _ => rfl⟩

theorem Flow.Alike.refl (f : Flow) : f.Alike f where
  same := rfl
  part uid := by
    cases f.part? uid with
    | none => exact .none
    | some p => exact .some (.refl p)
  entry := by
    cases f.entryPart with
    | error e => exact .error e
    | ok p => exact .ok (.refl p)

theorem Registry.Alike.refl (r : Registry) : r.Alike r where
  steps := rfl
  scripts := rfl
  flow uid := by
    cases r.flow? uid with
    | none => exact .none
    | some f => exact .some (.refl f)

section
variable {f g : Flow} {p q : Part}

theorem Flow.Alike.name (h : f.Alike g) : g.name = f.name := by rw [h.same]

theorem Flow.Alike.kind (h : f.Alike g) : g.kind = f.kind := by rw [h.same]

theorem Flow.Alike.vars (h : f.Alike g) : g.vars = f.vars := by rw [h.same]

theorem Part.Alike.uid (h : p.Alike q) : q.uid = p.uid := by rw [h.same]

theorem Part.Alike.displayName (h : p.Alike q) : q.displayName = p.displayName :=
  h.congr Part.displayName fun _ => rfl

/-- A result leads on by the same connection. -/
theorem Part.Alike.connection? (h : p.Alike q) (result : StepResult) :
    Turn.connection? q result = Turn.connection? p result := by
  cases result with
  | output n => exact h.leads n
  | failure => exact h.congr Part.errorConnection fun _ => rfl
  | completed | canceled | terminalExit => rfl

/-- A result leads on to the same uid. -/
theorem Flow.Alike.next? (flows : f.Alike g) (parts : p.Alike q) (result : StepResult) :
    Turn.next? g q result = Turn.next? f p result := by
  have found (uid : Uuid) : (g.part? uid).isSome = (f.part? uid).isSome := by
    cases h : f.part? uid with
    | none => rw [rel_of_none (flows.part uid) h]
    | some p =>
      obtain ⟨q, found, -⟩ := rel_of_some (flows.part uid) h
      rw [found]
      rfl
  unfold Turn.next?
  rw [parts.connection? result]
  simp only [found]

end

section
variable {r s : Registry} {p q : Part}

/-- Parts that are alike ask for tasks that are alike. -/
theorem Registry.Alike.ofPart (h : r.Alike s) (parts : p.Alike q) (vars : Variables) :
    Agree Task.Alike (Task.ofPart r vars p) (Task.ofPart s vars q) := by
  have withFlow {use : Flow → Task} (uid : Uuid)
      (uses : ∀ {f g : Flow}, f.Alike g → (use f).Alike (use g)) :
      Agree Task.Alike (Task.withFlow r uid use) (Task.withFlow s uid use) := by
    unfold Task.withFlow
    cases found : r.flow? uid with
    | none =>
      rw [rel_of_none (h.flow uid) found]
      exact .error _
    | some f =>
      obtain ⟨g, found', flows⟩ := rel_of_some (h.flow uid) found
      rw [found']
      exact .ok (uses flows)
  have stepRef : q.stepRef = p.stepRef := parts.congr Part.stepRef fun _ => rfl
  have model : q.effectiveModel vars = p.effectiveModel vars :=
    parts.congr (Part.effectiveModel · vars) fun _ => rfl
  unfold Task.ofPart
  rw [stepRef, model]
  cases p.stepRef with
  | error e => exact .error _
  | ok ref =>
    show Agree Task.Alike (Task.ofRef r (p.effectiveModel vars) vars ref)
      (Task.ofRef s (p.effectiveModel vars) vars ref)
    cases ref with
    | script name =>
      rw [Task.ofRef, Task.ofRef, h.scripts]
      cases r.scripts.get? name with
      | none => exact .error _
      | some source => exact .ok (.script _)
    | subFlow uid => exact withFlow uid fun flows => .subFlow flows _
    | gotoFlow uid => exact withFlow uid .gotoFlow
    | subFlowInput => exact .ok .subFlowInput
    | subFlowOutput suffix =>
      rw [Task.ofRef, Task.ofRef]
      cases StepResult.ofCode? (Task.outputCode (p.effectiveModel vars) suffix) with
      | none => exact .error _
      | some result => exact .ok (.subFlowOutput result)
    | native name =>
      rw [Task.ofRef, Task.ofRef, Registry.create?, Registry.create?, h.steps]
      cases r.steps.get? name with
      | none => exact .error _
      | some make => exact .ok (.native _)

/-- Parts that are alike execute the same step. -/
theorem Registry.Alike.step? (h : r.Alike s) (parts : p.Alike q) (vars : Variables) :
    q.step? s vars = p.step? r vars := by
  unfold Part.step?
  cases task : Task.ofPart r vars p with
  | error e => rw [(h.ofPart parts vars).of_error task]
  | ok t =>
    obtain ⟨t', task', tasks⟩ := (h.ofPart parts vars).of_ok task
    rw [task']
    cases tasks <;> rfl

/-- An iteration walks flows that are alike for the same files. -/
theorem Registry.Alike.plan {a b : Site} (h : r.Alike s) (sites : a.Alike r b) (e : EachFile)
    (st : Standing) :
    Agree (fun planned planned' => planned.1.Alike planned'.1 ∧ planned'.2 = planned.2)
      (Iteration.plan a r e st) (Iteration.plan b s e st) := by
  unfold Iteration.plan
  rw [sites.filesAt]
  show Agree _ (if _ then _ else _) (if _ then _ else _)
  split
  · exact .error _
  · cases FilePattern.parse? e.pattern with
    | none => exact .error _
    | some pattern =>
      cases e.flow with
      | none => exact .error _
      | some uid =>
        cases found : r.flow? uid with
        | none =>
          simp only [found, rel_of_none (h.flow uid) found]
          exact .error _
        | some f =>
          obtain ⟨g, found', flows⟩ := rel_of_some (h.flow uid) found
          simp only [found, found']
          cases (a.filesAt st.ledger.clock).matchingFiles (e.folder st.context.vars) pattern
              e.recursive with
          | error err => exact .error _
          | ok files => exact .ok ⟨flows, rfl⟩

/-- A plain step that a part executes runs the same on sites that are alike. -/
theorem Site.Alike.run {a b : Site} (sites : a.Alike r b) {vars : Variables}
    {actions : Moment → Action} (executes : p.step? r vars = some (.acting actions))
    (moment : Moment) : (actions moment).run b = (actions moment).run a := by
  unfold Part.step? at executes
  cases task : Task.ofPart r vars p with
  | error e =>
    rw [task] at executes
    cases executes
  | ok t =>
    rw [task] at executes
    cases t with
    | native step =>
      cases executes
      obtain ⟨name, make, found, made⟩ := Task.eq_native task
      exact sites.steps name make _ actions found made.symm moment
    | script step =>
      cases executes
      show (fun canceled s => ScriptStep.conclude _ _ (b.scripts _ _)) = _
      rw [sites.scripts]
      rfl
    | subFlow | gotoFlow | subFlowInput | subFlowOutput => cases executes

end

/-! ## Ledgers and standings -/

/-- The same event, of parts and flows that are alike. -/
inductive Event.Alike : Event → Event → Prop where
  | started {f g : Flow} {p q : Part} (flows : f.Alike g) (parts : p.Alike q) (c : Context) :
      Alike (.started f p c) (.started g q c)
  | refused {f g : Flow} {p q : Part} (flows : f.Alike g) (parts : p.Alike q) :
      Alike (.refused f p) (.refused g q)
  | barred {f g : Flow} {p q : Part} (flows : f.Alike g) (parts : p.Alike q) :
      Alike (.barred f p) (.barred g q)
  | finished {f g : Flow} {p q : Part} (flows : f.Alike g) (parts : p.Alike q)
      (result : StepResult) (depth : Nat) :
      Alike (.finished f p result depth) (.finished g q result depth)
  | tooDeep {f g : Flow} (flows : f.Alike g) : Alike (.tooDeep f) (.tooDeep g)
  | notice (n : Notice) : Alike (.notice n) (.notice n)

/-- The ledgers hold the same, up to events that are alike and a ceiling that is higher by a
slack. -/
structure Ledger.Alike (slack : Nat) (a b : Ledger) : Prop where
  clock : b.clock = a.clock
  ceiling : b.ceiling = a.ceiling + slack
  executed : b.executed = a.executed
  canceled : b.canceled = a.canceled
  lastNumber : b.lastNumber = a.lastNumber
  records : b.records = a.records
  journal : List.Forall₂ Event.Alike a.journal b.journal

/-- The contexts are equal and the ledgers alike. -/
structure Standing.Alike (slack : Nat) (st t : Standing) : Prop where
  context : t.context = st.context
  ledger : st.ledger.Alike slack t.ledger

theorem Event.Alike.refl (e : Event) : e.Alike e := by
  cases e with
  | started f p c => exact .started (.refl f) (.refl p) c
  | refused f p => exact .refused (.refl f) (.refl p)
  | barred f p => exact .barred (.refl f) (.refl p)
  | finished f p result depth => exact .finished (.refl f) (.refl p) result depth
  | tooDeep f => exact .tooDeep (.refl f)
  | notice n => exact .notice n

/-- Events that are alike show the same step. -/
theorem Event.Alike.record? {e e' : Event} (h : e.Alike e') (number : UInt32) :
    e'.record? number = e.record? number := by
  cases h with
  | @finished f g p q flows parts result depth =>
    have exempt : q.isExempt = p.isExempt := by
      have stepRef : q.stepRef = p.stepRef := parts.congr Part.stepRef fun _ => rfl
      unfold Part.isExempt
      rw [stepRef]
    have element : q.element = p.element := parts.congr Part.element fun _ => rfl
    rw [Event.record?, Event.record?, exempt, parts.displayName, element]
  | _ => rfl

namespace Ledger.Alike

variable {slack : Nat} {a b : Ledger}

theorem refl (l : Ledger) : l.Alike 0 l :=
  ⟨rfl, rfl, rfl, rfl, rfl, rfl, List.forall₂_same.2 fun e _ => .refl e⟩

theorem count (h : a.Alike slack b) : a.count.Alike slack b.count :=
  ⟨congrArg (· + 1) h.clock, h.ceiling, congrArg (· + 1) h.executed, h.canceled, h.lastNumber,
    h.records, h.journal⟩

theorem tell (h : a.Alike slack b) (ns : List Notice) : (a.tell ns).Alike slack (b.tell ns) where
  clock := h.clock
  ceiling := h.ceiling
  executed := h.executed
  canceled := by rw [tell_canceled, tell_canceled, h.canceled]
  lastNumber := h.lastNumber
  records := h.records
  journal := by
    have told : List.Forall₂ Event.Alike (ns.map Event.notice).reverse
        (ns.map Event.notice).reverse := List.forall₂_same.2 fun e _ => .refl e
    exact List.rel_append told h.journal

theorem enter (h : a.Alike slack b) {e e' : Event} (events : e.Alike e') :
    (a.enter e).Alike slack (b.enter e') := by
  have number : b.nextNumber = a.nextNumber := congrArg (· + 1) h.lastNumber
  have record : e'.record? b.nextNumber = e.record? a.nextNumber := by
    rw [number, events.record?]
  constructor
  case lastNumber =>
    show (if _ then _ else _) = (if _ then _ else _)
    rw [record, number, h.lastNumber]
  case records =>
    show _ ++ _ = _ ++ _
    rw [record, h.records]
  case journal => exact .cons events h.journal
  case clock => exact h.clock
  case ceiling => exact h.ceiling
  case executed => exact h.executed
  case canceled => exact h.canceled

/-- The same notices were told since states that are alike. -/
theorem noticesSince {slack' : Nat} {a' b' : Ledger} (h : a.Alike slack b)
    (h' : a'.Alike slack' b') : b'.noticesSince b = a'.noticesSince a := by
  have since : List.Forall₂ Event.Alike (a'.since a).reverse (b'.since b).reverse := by
    unfold Ledger.since
    rw [← h.journal.length_eq, ← h'.journal.length_eq]
    exact List.rel_reverse (List.forall₂_take _ h'.journal)
  have notice : Relator.LiftFun Event.Alike (Option.Rel (· = ·)) notice? notice? := by
    intro e e' events
    cases events with
    | notice n => exact .some rfl
    | _ => exact .none
  have same : List.Forall₂ (· = ·) (a'.noticesSince a) (b'.noticesSince b) :=
    List.rel_filterMap notice since
  rw [List.forall₂_eq_eq_eq] at same
  exact same.symm

/-- Where a part may start within the lower ceiling, it may start within the higher one. -/
theorem room (h : a.Alike slack b) (room : a.executed < a.ceiling) : b.executed < b.ceiling := by
  have ceiling := h.ceiling
  have executed := h.executed
  omega

end Ledger.Alike

namespace Standing.Alike

variable {slack : Nat} {st t : Standing} {f g : Flow} {p q : Part}

theorem inContext (h : st.Alike slack t) {change change' : Context → Context}
    (same : change' st.context = change st.context) :
    (st.inContext change).Alike slack (t.inContext change') := by
  refine ⟨?_, h.ledger⟩
  show change' t.context = change st.context
  rw [h.context, same]

theorem enter (h : st.Alike slack t) {e e' : Event} (events : e.Alike e') :
    (st.enter e).Alike slack (t.enter e') := ⟨h.context, h.ledger.enter events⟩

theorem count (h : st.Alike slack t) : st.count.Alike slack t.count := ⟨h.context, h.ledger.count⟩

theorem tell (h : st.Alike slack t) (ns : List Notice) : (st.tell ns).Alike slack (t.tell ns) :=
  ⟨h.context, h.ledger.tell ns⟩

theorem failAt (h : st.Alike slack t) (flows : f.Alike g) (step reason : String) :
    (st.failAt f step reason).Alike slack (t.failAt g step reason) := by
  refine h.inContext ?_
  rw [flows.name]

theorem tooDeep (h : st.Alike slack t) (flows : f.Alike g) :
    (Walk.tooDeep.go f st).2.Alike slack (Walk.tooDeep.go g t).2 := by
  have message :
      Walk.tooDeepMessage t.context.depth g = Walk.tooDeepMessage st.context.depth f := by
    unfold Walk.tooDeepMessage
    rw [h.context, flows.name]
  show ((st.enter (.tooDeep f)).failAt f "entry"
      (Walk.tooDeepMessage st.context.depth f)).Alike slack
    ((t.enter (.tooDeep g)).failAt g "entry" (Walk.tooDeepMessage t.context.depth g))
  rw [message]
  exact (h.enter (.tooDeep flows)).failAt flows _ _

theorem start (h : st.Alike slack t) (flows : f.Alike g) (parts : p.Alike q) :
    (Turn.start f p st).Alike slack (Turn.start g q t) := by
  have cleared : (if f.kind = .failure then st else st.inContext Context.clearFailure).Alike slack
      (if g.kind = .failure then t else t.inContext Context.clearFailure) := by
    rw [flows.kind]
    split
    · exact h
    · exact h.inContext rfl
  unfold Turn.start
  refine cleared.enter ?_
  rw [cleared.context]
  exact .started flows parts _

theorem note (h : st.Alike slack t) (flows : f.Alike g) (parts : p.Alike q) (result : StepResult) :
    (Turn.note f p result st).Alike slack (Turn.note g q result t) := by
  have noted : (st.inContext fun c => { c with lastCode := some result.code }).Alike slack
      (t.inContext fun c => { c with lastCode := some result.code }) := h.inContext rfl
  unfold Turn.note
  refine noted.enter ?_
  rw [h.context]
  exact .finished flows parts result _

theorem bar (h : st.Alike slack t) (flows : f.Alike g) (parts : p.Alike q) :
    (Turn.bar f p st).Alike slack (Turn.bar g q t) := by
  unfold Turn.bar
  rw [parts.displayName]
  exact (h.enter (.barred flows parts)).failAt flows _ _

theorem refuse (h : st.Alike 0 t) (flows : f.Alike g) (parts : p.Alike q) :
    (Turn.refuse f p st).Alike 0 (Turn.refuse g q t) := by
  have ceiling : t.ledger.ceiling = st.ledger.ceiling := h.ledger.ceiling
  unfold Turn.refuse Turn.ceilingMessage
  rw [ceiling, parts.displayName, flows.name]
  exact (h.enter (.refused flows parts)).inContext rfl

/-- Steps are taken at the same moment. -/
theorem moment (h : st.Alike slack t) : t.moment = st.moment := by
  unfold Standing.moment Ledger.executedSteps
  rw [h.context, h.ledger.clock, h.ledger.canceled, h.ledger.executed, h.ledger.records]

theorem checked (h : st.Alike slack t) (step : Step) :
    (Turn.checked step st).Alike slack (Turn.checked step t) := by
  unfold Turn.checked Standing.absorb
  rw [h.context, h.moment]
  exact (h.inContext rfl).tell _

theorem callStart (h : st.Alike slack t) (flows : f.Alike g) (properties : Variables) :
    (Turn.callStart f properties st).Alike slack (Turn.callStart g properties t) := by
  refine ⟨?_, h.ledger⟩
  show Turn.callContext t.context g properties = Turn.callContext st.context f properties
  rw [h.context, Turn.callContext, Turn.callContext, Turn.callVariables, Turn.callVariables,
    flows.vars]

theorem callEnd (h : st.Alike slack t) {st' t' : Standing} (h' : st'.Alike slack t')
    (flows : f.Alike g) (properties : Variables) :
    (Turn.callEnd f properties st st').Alike slack (Turn.callEnd g properties t t') := by
  refine ⟨?_, h'.ledger⟩
  show Turn.returnContext t.context t'.context g properties =
    Turn.returnContext st.context st'.context f properties
  rw [h.context, h'.context, Turn.returnContext, Turn.returnContext, Turn.savedVariables,
    Turn.savedVariables, flows.vars]

theorem fileStart (h : st.Alike slack t) (flows : f.Alike g) (file : Path) :
    (Iteration.fileStart f file st).Alike slack (Iteration.fileStart g file t) := by
  refine ⟨?_, h.ledger⟩
  show Iteration.childContext t.context g file = Iteration.childContext st.context f file
  rw [h.context, Iteration.childContext, Iteration.childContext, flows.vars]

/-- The walk for a file hands its ledger back. -/
theorem back (h : st.Alike slack t) {st' t' : Standing} (h' : st'.Alike slack t') :
    (st.withLedger st'.ledger).Alike slack (t.withLedger t'.ledger) := ⟨h.context, h'.ledger⟩

/-- The failure of the walk for a file is taken over. -/
theorem adopt (h : st.Alike slack t) {st' t' : Standing} (h' : st'.Alike slack t') :
    (Iteration.adopt st'.context st).Alike slack (Iteration.adopt t'.context t) := by
  rw [h'.context]
  exact h.inContext rfl

/-- A plain step that runs the same on both sites comes to the same. -/
theorem act {a b : Site} {actions : Moment → Action} (h : st.Alike slack t)
    (same : ∀ moment, (actions moment).run b = (actions moment).run a) :
    (Turn.act b actions t).1 = (Turn.act a actions st).1 ∧
      (Turn.act a actions st).2.Alike slack (Turn.act b actions t).2 := by
  unfold Turn.act
  rw [same, h.moment, h.context, h.ledger.canceled]
  exact ⟨rfl, (h.inContext rfl).tell _⟩

variable {a b : Site} {r s : Registry}

theorem ofPart (h : st.Alike slack t) (registries : r.Alike s) (parts : p.Alike q) :
    Agree Task.Alike (Task.ofPart r st.context.vars p) (Task.ofPart s t.context.vars q) := by
  rw [h.context]
  exact registries.ofPart parts _

theorem step? (h : st.Alike slack t) (registries : r.Alike s) (parts : p.Alike q) :
    q.step? s t.context.vars = p.step? r st.context.vars := by
  rw [h.context]
  exact registries.step? parts _

theorem plan (h : st.Alike slack t) (sites : a.Alike r b) (registries : r.Alike s) (e : EachFile) :
    Agree (fun planned planned' => planned.1.Alike planned'.1 ∧ planned'.2 = planned.2)
      (Iteration.plan a r e st) (Iteration.plan b s e t) := by
  rw [Iteration.plan_congr (congrArg b.filesAt h.ledger.clock)
    (congrArg (fun c => c.vars) h.context)]
  exact registries.plan sites e _

end Standing.Alike

/-! ## Work -/

/-- The same work in flows that are alike. -/
inductive Work.Alike : Work → Work → Prop where
  | walk {f g : Flow} (flows : f.Alike g) : Alike (.walk f) (.walk g)
  | goOn {f g : Flow} (flows : f.Alike g) (uid : Uuid) : Alike (.goOn f uid) (.goOn g uid)
  | attempt {f g : Flow} {p q : Part} (flows : f.Alike g) (parts : p.Alike q) :
      Alike (.attempt f p) (.attempt g q)
  | visit {f g : Flow} (flows : f.Alike g) (total done : Nat) (files : List Path) :
      Alike (.visit f total done files) (.visit g total done files)

/-- The same reply, up to a flow that is alike. -/
inductive Reply.Alike : Reply → Reply → Prop where
  | done (result : StepResult) : Alike (.done result) (.done result)
  | leave (exit : Exit) : Alike (.leave exit) (.leave exit)
  | goOn {f g : Flow} (flows : f.Alike g) (uid : Uuid) : Alike (.goOn f uid) (.goOn g uid)

/-- The same way on, up to a flow that is alike. -/
inductive Turn.Alike : Turn → Turn → Prop where
  | leave (exit : Exit) : Alike (.leave exit) (.leave exit)
  | goOn {f g : Flow} (flows : f.Alike g) (uid : Uuid) : Alike (.goOn f uid) (.goOn g uid)

/-- Parts that are alike are followed the same way on. -/
theorem Reply.Alike.follow {slack : Nat} {f g : Flow} {p q : Part} {reply reply' : Reply}
    {st st' t : Standing} {turn : Turn} (h : reply.Alike reply') (flows : f.Alike g)
    (parts : p.Alike q) (standing : st.Alike slack t)
    (leads : Turn.follow f p (reply, st) = (turn, st')) :
    ∃ turn' t', Turn.follow g q (reply', t) = (turn', t') ∧ turn.Alike turn' ∧
      st'.Alike slack t' := by
  cases h with
  | done result =>
    have noted := standing.note flows parts result
    unfold Turn.follow Turn.route at leads
    have follows : Turn.follow g q (.done result, t) =
        Turn.route g q result (Turn.note g q result t) := rfl
    unfold Turn.route at follows
    rw [flows.next? parts result] at follows
    cases next : Turn.next? f p result with
    | some uid =>
      simp only [next] at leads follows
      cases leads
      exact ⟨_, _, follows, .goOn flows uid, noted⟩
    | none =>
      simp only [next, parts.displayName] at leads follows
      cases leads
      refine ⟨_, _, follows, .leave _, ?_⟩
      cases Turn.endReason? p.displayName result with
      | none => exact noted
      | some reason => exact noted.failAt flows _ _
  | leave exit =>
    cases leads
    exact ⟨_, _, rfl, .leave exit, standing⟩
  | goOn flows' uid =>
    cases leads
    exact ⟨_, _, rfl, .goOn flows' uid, standing⟩

end FlowGraph
