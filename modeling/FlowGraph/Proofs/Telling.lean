import FlowGraph.Proofs.Account

/-!
# What the parts of a run tell

A walk tells of parts at its own depth, and what a part asks for is told from one level
deeper. A predicate of events that takes account of that, and that is seen once for each
way in which an event comes about, holds of every event of a run (`ComesTo.tells`). A
property that also looks at the ledger as it was right after the event is followed into
the pieces of a run by `Ledger.Throughout`.
-/

namespace FlowGraph

/-- Between two states of the ledger only such events were entered. -/
def Ledger.Tells (P : Event → Prop) (a b : Ledger) : Prop :=
  ∃ news, b.journal = news ++ a.journal ∧ ∀ e ∈ news, P e

/-- Each of the events, the latest first, has the property in the ledger in which it was booked,
as that was right after it. -/
def Ledger.Throughout (P : Ledger → Event → Prop) (l : Ledger) : List Event → Prop
  | [] => True
  | e :: earlier => P (l.after (e :: earlier)) e ∧ l.Throughout P earlier

/-- If the event starts a part that executes a step, then one of this kind. -/
def Event.Starts (registry : Registry) (P : Step → Prop) : Event → Prop
  | .started _ part c => ∀ step ∈ part.step? registry c.vars, P step
  | _ => True

/-- If the work is that of a step, then of one of this kind. -/
def Work.Starts (registry : Registry) (P : Step → Prop) (st : Standing) : Work → Prop
  | .walk _ | .goOn _ _ => True
  | .attempt _ part => ∀ step ∈ part.step? registry st.context.vars, P step
  | .visit _ _ _ _ => ∃ e, P (.eachFile e)

namespace Ledger.Tells

variable {P Q : Event → Prop}

theorem refl (l : Ledger) : l.Tells P l := ⟨[], rfl, by simp⟩

theorem trans {a b c : Ledger} (h : a.Tells P b) (h' : b.Tells P c) : a.Tells P c := by
  obtain ⟨news, journal, holds⟩ := h
  obtain ⟨news', journal', holds'⟩ := h'
  refine ⟨news' ++ news, ?_, List.forall_mem_append.2 ⟨holds', holds⟩⟩
  rw [journal', journal, List.append_assoc]

theorem imp {a b : Ledger} (h : a.Tells P b) (hPQ : ∀ e, P e → Q e) : a.Tells Q b := by
  obtain ⟨news, journal, holds⟩ := h
  exact ⟨news, journal, fun e he => hPQ e (holds e he)⟩

theorem enter (l : Ledger) {e : Event} (h : P e) : l.Tells P (l.enter e) :=
  ⟨[e], rfl, by simpa using h⟩

theorem tell_of_mem (l : Ledger) {ns : List Notice} (h : ∀ n ∈ ns, P (.notice n)) :
    l.Tells P (l.tell ns) := by
  refine ⟨_, l.tell_journal ns, fun e he => ?_⟩
  obtain ⟨n, mem, rfl⟩ := List.mem_map.1 (List.mem_reverse.1 he)
  exact h n mem

theorem tell (l : Ledger) (ns : List Notice) (h : ∀ n, P (.notice n)) : l.Tells P (l.tell ns) :=
  tell_of_mem l fun n _ => h n

/-- What was told is what has happened since. -/
theorem since {a b : Ledger} (h : a.Tells P b) : ∀ e ∈ b.since a, P e := by
  obtain ⟨news, journal, holds⟩ := h
  rwa [since_eq journal]

/-- The only event that was told is one of them. -/
theorem of_cons {a b : Ledger} {e : Event} (h : a.Tells P b)
    (journal : b.journal = e :: a.journal) : P e := by
  obtain ⟨news, journal', holds⟩ := h
  have only : [e] ++ a.journal = news ++ a.journal := journal.symm.trans journal'
  rw [← List.append_cancel_right only] at holds
  exact holds e (List.mem_singleton_self e)

/-- What was told up to a later state was told before and after every state in between. -/
theorem split {a b c : Ledger} (h : a.Tells P c) (earlier : a.Onward b) (later : b.Onward c) :
    a.Tells P b ∧ b.Tells P c := by
  obtain ⟨news, journal, holds⟩ := h
  obtain ⟨before, onward⟩ := earlier.journal
  obtain ⟨after, onward'⟩ := later.journal
  have whole : after ++ before ++ a.journal = news ++ a.journal := by
    rw [List.append_assoc, onward, onward', journal]
  obtain rfl := List.append_cancel_right whole
  obtain ⟨holds', holds⟩ := List.forall_mem_append.1 holds
  exact ⟨⟨before, onward.symm, holds⟩, ⟨after, onward'.symm, holds'⟩⟩

end Ledger.Tells

namespace Ledger.Throughout

variable {P : Ledger → Event → Prop}

theorem of_append {l : Ledger} {later earlier : List Event}
    (h : l.Throughout P (later ++ earlier)) :
    (l.after earlier).Throughout P later ∧ l.Throughout P earlier := by
  induction later with
  | nil => exact ⟨trivial, h⟩
  | cons e later ih =>
    obtain ⟨holds, h⟩ := h
    obtain ⟨late, early⟩ := ih h
    have split := l.after_append (e :: later) earlier
    exact ⟨⟨split ▸ holds, late⟩, early⟩

/-- What holds up to a later state holds before and after every state in between. -/
theorem split {a b c : Ledger} (h : a.Throughout P (c.since a)) (earlier : ∃ news, a.Books b news)
    (later : ∃ news, b.Books c news) :
    a.Throughout P (b.since a) ∧ b.Throughout P (c.since b) := by
  obtain ⟨before, books⟩ := earlier
  obtain ⟨after, books'⟩ := later
  rw [since_eq (books.trans books').journal] at h
  rw [since_eq books.journal, since_eq books'.journal]
  obtain ⟨late, early⟩ := h.of_append
  rw [← books.made] at late
  exact ⟨early, late⟩

end Ledger.Throughout

/-- The depth from which a piece of work tells: that of its walk, or one level deeper for
what a part of the walk asks for. -/
def Work.depth (st : Standing) : Work → Nat
  | .walk _ | .goOn _ _ => st.context.depth
  | .attempt _ _ | .visit _ _ _ _ => st.context.depth + 1

/-- The walk that the work belongs to is not nested too deeply; one that is yet to begin
sees to that itself. -/
def Work.IsShallow (st : Standing) : Work → Prop
  | .walk _ => True
  | .goOn _ _ | .attempt _ _ | .visit _ _ _ _ => st.context.depth ≤ maxFlowDepth

/-- Of the events that a run tells from a depth, `P depth` holds. -/
structure Event.Law (site : Site) (registry : Registry) (P : Nat → Event → Prop) : Prop where
  outward : ∀ {depth e}, P (depth + 1) e → P depth e
  notice : ∀ depth n, P depth (.notice n)
  tooDeep : ∀ depth flow, P depth (.tooDeep flow)
  refused : ∀ depth flow part, P depth (.refused flow part)
  barred : ∀ depth flow part, P depth (.barred flow part)
  started : ∀ {depth flow part} {c : Context}, c.depth = depth → depth ≤ maxFlowDepth →
    P depth (.started flow part c)
  finished : ∀ {depth flow part result} {st st' : Standing},
    ComesTo site registry (.attempt flow part) st (.done result) st' → depth ≤ maxFlowDepth →
      P depth (.finished flow part result depth)
  marker : ∀ {depth flow part result} {vars : Variables},
    Task.ofPart registry vars part = .ok (.subFlowOutput result) → depth ≤ maxFlowDepth →
      P (depth + 1) (.finished flow part result depth)

section
variable {site : Site} {registry : Registry}

variable (site registry) in
/-- The run goes on from what a piece of work computes as deep as before. -/
theorem Work.onward_value (work : Work) (st : Standing) :
    st.Onward (work.value site registry st).2 := by
  cases work with
  | walk flow => exact (Walk.atDepth site registry st.context.depth).onward flow st
  | goOn flow uid => exact Walk.onward_turns site registry (nestedWalk site registry st) flow uid st
  | attempt flow part =>
    exact Turn.onward_attempt site registry (nestedWalk site registry st) flow part st
  | visit flow total done files =>
    exact Iteration.onward_visit (nestedWalk site registry st) flow total files done st

/-- Whatever a piece of work comes to, the run goes on from there as deep as before. -/
theorem ComesTo.onward {work : Work} {st st' : Standing} {reply : Reply}
    (h : ComesTo site registry work st reply st') : st.Onward st' := by
  have onward := Work.onward_value site registry work st
  rw [h.value] at onward
  exact onward

/-- A turn leaves the walk as deep as it was. -/
theorem ComesTo.depth_turn {flow : Flow} {part : Part} {st st₁ st₂ : Standing} {reply : Reply}
    {turn : Turn} (work : ComesTo site registry (.attempt flow part)
      (Turn.start flow part st.count) reply st₁)
    (leads : Turn.follow flow part (reply, st₁) = (turn, st₂)) :
    st₁.context.depth = st.context.depth ∧ st₂.context.depth = st.context.depth := by
  have started : (Turn.start flow part st.count).context.depth = st.context.depth :=
    (Turn.onward_start flow part st.count).depth
  have followed := (Turn.onward_follow flow part (reply, st₁)).depth
  rw [leads] at followed
  have done := work.onward.depth.trans started
  exact ⟨done, followed.trans done⟩

/-- The ledger after a turn goes on from the one in which its part has started. -/
theorem ComesTo.onward_start {flow : Flow} {part : Part} {st st₁ st₂ : Standing} {reply : Reply}
    {turn : Turn} (work : ComesTo site registry (.attempt flow part)
      (Turn.start flow part st.count) reply st₁)
    (leads : Turn.follow flow part (reply, st₁) = (turn, st₂)) :
    (Turn.start flow part st.count).Onward st₂ := by
  have followed := Turn.onward_follow flow part (reply, st₁)
  rw [leads] at followed
  exact work.onward.trans followed

/-- The ledger after a turn is a later one. -/
theorem ComesTo.onward_turn {flow : Flow} {part : Part} {st st₁ st₂ : Standing} {reply : Reply}
    {turn : Turn} (work : ComesTo site registry (.attempt flow part)
      (Turn.start flow part st.count) reply st₁)
    (leads : Turn.follow flow part (reply, st₁) = (turn, st₂)) : st.Onward st₂ := by
  have started := (Standing.Onward.count st).trans (Turn.onward_start flow part st.count)
  exact started.trans (work.onward_start leads)

/-- What a turn tells begins with the start of its part, and goes on with what the part asks for. -/
theorem ComesTo.tells_turn {P : Event → Prop} {flow : Flow} {part : Part} {st st₁ st₂ : Standing}
    {reply : Reply} {turn : Turn}
    (work : ComesTo site registry (.attempt flow part) (Turn.start flow part st.count) reply st₁)
    (leads : Turn.follow flow part (reply, st₁) = (turn, st₂))
    (tells : st.ledger.Tells P st₂.ledger) :
    P (.started flow part (Turn.start flow part st.count).context) ∧
      (Turn.start flow part st.count).ledger.Tells P st₁.ledger := by
  have started := ((Standing.Onward.count st).trans (Turn.onward_start flow part st.count)).ledger
  have followed : st₁.ledger.Onward st₂.ledger := by
    have onward := (Turn.onward_follow flow part (reply, st₁)).ledger
    rwa [leads] at onward
  obtain ⟨tells, -⟩ := tells.split (started.trans work.onward.ledger) followed
  obtain ⟨start, tells⟩ := tells.split started work.onward.ledger
  refine ⟨start.of_cons ?_, tells⟩
  rw [Turn.start_ledger]
  rfl

/-- What holds throughout a turn holds when its part starts and throughout what the part asks
for. -/
theorem ComesTo.throughout_turn {P : Ledger → Event → Prop} {flow : Flow} {part : Part}
    {st st₁ st₂ : Standing} {reply : Reply} {turn : Turn}
    (work : ComesTo site registry (.attempt flow part) (Turn.start flow part st.count) reply st₁)
    (room : st.ledger.executed < st.ledger.ceiling)
    (leads : Turn.follow flow part (reply, st₁) = (turn, st₂))
    (holds : st.ledger.Throughout P (st₂.ledger.since st.ledger)) :
    P (Turn.start flow part st.count).ledger
        (.started flow part (Turn.start flow part st.count).context) ∧
      (Turn.start flow part st.count).ledger.Throughout P
        (st₁.ledger.since (Turn.start flow part st.count).ledger) := by
  have start := Ledger.Books.start st.ledger flow part (Turn.start flow part st.count).context room
  rw [← Standing.count_ledger, ← Turn.start_ledger] at start
  have work := work.account Ledger.Books.lawful
  obtain ⟨holds, -⟩ := holds.split (Ledger.Books.lawful.trans ⟨_, start⟩ work)
    (Ledger.Books.lawful.follow leads)
  obtain ⟨begins, holds⟩ := holds.split ⟨_, start⟩ work
  rw [Ledger.since_eq start.journal, Ledger.Throughout, ← start.made] at begins
  exact ⟨begins.1, holds⟩

/-- What holds throughout the visit of several files holds throughout the walk for the first one
and throughout the visit of the others. -/
theorem ComesTo.throughout_visit {P : Ledger → Event → Prop} {flow : Flow} {file : Path}
    {others : Work} {st st₁ st₂ : Standing} {exit : Exit} {reply : Reply} {ns : List Notice}
    (walk : ComesTo site registry (.walk flow) (Iteration.fileStart flow file st) (.leave exit) st₁)
    (rest : ComesTo site registry others ((st.withLedger st₁.ledger).tell ns) reply st₂)
    (holds : st.ledger.Throughout P (st₂.ledger.since st.ledger)) :
    st.ledger.Throughout P (st₁.ledger.since st.ledger) ∧
      (st₁.ledger.tell ns).Throughout P (st₂.ledger.since (st₁.ledger.tell ns)) := by
  have walk := walk.account Ledger.Books.lawful
  have told := Ledger.Books.lawful.tell st₁.ledger ns
  obtain ⟨first, later⟩ := holds.split (Ledger.Books.lawful.trans walk told)
    (rest.account Ledger.Books.lawful)
  exact ⟨(first.split walk told).1, later⟩

/-- A turn tells that its part starts, what the part asks for and the part's own end. -/
theorem Event.Law.turn {P : Nat → Event → Prop} (law : Event.Law site registry P) {flow : Flow}
    {part : Part} {st st₁ st₂ : Standing} {reply : Reply} {turn : Turn}
    (shallow : st.context.depth ≤ maxFlowDepth)
    (work : ComesTo site registry (.attempt flow part) (Turn.start flow part st.count) reply st₁)
    (inner : (Turn.start flow part st.count).ledger.Tells (P (st.context.depth + 1)) st₁.ledger)
    (leads : Turn.follow flow part (reply, st₁) = (turn, st₂)) :
    st.ledger.Tells (P st.context.depth) st₂.ledger := by
  have start : st.ledger.Tells (P st.context.depth) (Turn.start flow part st.count).ledger := by
    rw [Turn.start_ledger]
    exact .enter st.ledger.count
      (law.started (Turn.onward_start flow part st.count).depth shallow)
  refine (start.trans (inner.imp fun _ => law.outward)).trans ?_
  obtain ⟨result, rfl, ledger⟩ | ledger := follow_ledger leads
  · rw [ledger, (work.depth_turn leads).1]
    exact .enter _ (law.finished work shallow)
  · rw [ledger]
    exact .refl _

/-- **What holds of each event as it comes about** holds of all that a piece of work tells. -/
theorem ComesTo.tells {P : Nat → Event → Prop} (law : Event.Law site registry P) {work : Work}
    {st st' : Standing} {reply : Reply} (h : ComesTo site registry work st reply st')
    (shallow : work.IsShallow st) : st.ledger.Tells (P (work.depth st)) st'.ledger := by
  have started {flow : Flow} {part : Part} {st : Standing}
      (shallow : st.context.depth ≤ maxFlowDepth) :
      (Work.attempt flow part).IsShallow (Turn.start flow part st.count) := by
    rw [Work.IsShallow, (Turn.onward_start flow part st.count).depth]
    exact shallow
  have depth {flow : Flow} {part : Part} {st : Standing} :
      (Work.attempt flow part).depth (Turn.start flow part st.count) = st.context.depth + 1 :=
    congrArg (· + 1) (Turn.onward_start flow part st.count).depth
  induction h with
  | tooDeep deep => exact .enter _ (law.tooDeep _ _)
  | noEntry | canceled | missing | unresolved | lost | switch | input | visitedAll
  | visitCanceled => exact .refl _
  | enter fine found rest ih => exact ih fine
  | refused live found full => exact .enter _ (law.refused _ _ _)
  | last live found room work leads ih =>
    exact law.turn shallow work (depth ▸ ih (started shallow)) leads
  | next live found room work leads rest ih ih' =>
    have same := (work.depth_turn leads).2
    have rest := ih' (by rw [Work.IsShallow, same]; exact shallow)
    rw [Work.depth, same] at rest
    exact (law.turn shallow work (depth ▸ ih (started shallow)) leads).trans rest
  | marker task => exact .enter _ (law.marker task shallow)
  | call task walk ih => exact ih trivial
  | barred executes bars =>
    exact (Ledger.Tells.tell _ _ (law.notice _)).trans (.enter _ (law.barred _ _ _))
  | plain executes admits =>
    exact (Ledger.Tells.tell _ _ (law.notice _)).trans (.tell _ _ (law.notice _))
  | unplanned executes admits plan | nothing executes admits plan =>
    exact .tell _ _ (law.notice _)
  | iterate executes admits plan visits ih =>
    exact (Ledger.Tells.tell _ _ (law.notice _)).trans (ih shallow)
  | visitNext live walk graded rest ih ih' =>
    exact (ih trivial).trans ((Ledger.Tells.tell _ _ (law.notice _)).trans (ih' shallow))
  | fileCanceled live walk graded ih | fileTerminal live walk graded ih
  | fileFailed live walk graded ih => exact ih trivial

end

end FlowGraph
