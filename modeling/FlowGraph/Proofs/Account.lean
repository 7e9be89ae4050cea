import FlowGraph.Proofs.Rules

/-!
# What every run does to its ledger

A run changes its ledger in a few ways only: notices and events are entered, a part is
counted and starts within the ceiling, or it is counted and refused at it. A relation
that holds along each of these holds along everything a run does (`ComesTo.account`).
-/

namespace FlowGraph

/-- The event is that of a part that was counted. -/
def Event.isCounted : Event → Bool
  | .started .. | .refused .. => true
  | _ => false

/-- The part that was counted started. -/
def Event.isStart : Event → Bool
  | .started .. => true
  | _ => false

/-- The part that was counted was refused. -/
def Event.isRefusal : Event → Bool
  | .refused .. => true
  | _ => false

/-- The event tells how a part or a walk came out. -/
def Event.isOutcome : Event → Bool
  | .barred .. | .finished .. | .tooDeep _ => true
  | _ => false

/-- The relation holds along every change of a ledger. -/
structure Ledger.Lawful (R : Ledger → Ledger → Prop) : Prop where
  refl : ∀ l, R l l
  trans : ∀ {a b c}, R a b → R b c → R a c
  tell : ∀ (l : Ledger) (ns : List Notice), R l (l.tell ns)
  enter : ∀ (l : Ledger) (e : Event), e.isOutcome = true → R l (l.enter e)
  start : ∀ (l : Ledger) (flow : Flow) (part : Part) (context : Context),
    l.executed < l.ceiling → R l (l.count.enter (.started flow part context))
  refuse : ∀ (l : Ledger) (flow : Flow) (part : Part),
    l.ceiling ≤ l.executed → R l (l.count.enter (.refused flow part))

section
variable {site : Site} {registry : Registry} {R : Ledger → Ledger → Prop}

/-- Following what a part came to enters no more than that it has finished. -/
theorem follow_ledger {flow : Flow} {part : Part} {reply : Reply} {st st' : Standing} {turn : Turn}
    (leads : Turn.follow flow part (reply, st) = (turn, st')) :
    (∃ result, reply = .done result ∧
      st'.ledger = st.ledger.enter (.finished flow part result st.context.depth)) ∨
      st'.ledger = st.ledger := by
  cases reply with
  | done result =>
    have ledger := Turn.follow_done_ledger flow part result st
    rw [leads] at ledger
    exact .inl ⟨result, rfl, ledger⟩
  | leave exit | goOn flow' uid =>
    cases leads
    exact .inr rfl

theorem Ledger.Lawful.follow (law : Ledger.Lawful R) {flow : Flow} {part : Part} {reply : Reply}
    {st st' : Standing} {turn : Turn}
    (leads : Turn.follow flow part (reply, st) = (turn, st')) : R st.ledger st'.ledger := by
  obtain ⟨result, -, ledger⟩ | ledger := follow_ledger leads
  · rw [ledger]
    exact law.enter _ _ rfl
  · rw [ledger]
    exact law.refl _

/-- A turn counts a part within the ceiling, has it executed and follows what it came to. -/
theorem Ledger.Lawful.turn (law : Ledger.Lawful R) {flow : Flow} {part : Part} {reply : Reply}
    {st st₁ st₂ : Standing} {turn : Turn} (room : st.ledger.executed < st.ledger.ceiling)
    (work : R (Turn.start flow part st.count).ledger st₁.ledger)
    (leads : Turn.follow flow part (reply, st₁) = (turn, st₂)) : R st.ledger st₂.ledger := by
  refine law.trans (law.trans ?_ work) (law.follow leads)
  rw [Turn.start_ledger]
  exact law.start _ _ _ _ room

/-- What holds along every change of a ledger holds along every piece of work. -/
theorem ComesTo.account (law : Ledger.Lawful R) {work : Work} {st st' : Standing} {reply : Reply}
    (h : ComesTo site registry work st reply st') : R st.ledger st'.ledger := by
  induction h with
  | tooDeep deep => exact law.enter _ _ rfl
  | noEntry shallow none => exact law.refl _
  | enter shallow found rest ih => exact ih
  | canceled stopped => exact law.refl _
  | missing live none => exact law.refl _
  | refused live found full => exact law.refuse _ _ _ full
  | last live found room work leads ih => exact law.turn room ih leads
  | next live found room work leads rest ih ih' =>
    exact law.trans (law.turn room ih leads) ih'
  | unresolved task => exact law.refl _
  | marker task => exact law.enter _ _ rfl
  | lost task none => exact law.refl _
  | switch task found => exact law.refl _
  | input task => exact law.refl _
  | call task walk ih => exact ih
  | barred executes bars => exact law.trans (law.tell _ _) (law.enter _ _ rfl)
  | plain executes admits => exact law.trans (law.tell _ _) (law.tell _ _)
  | unplanned executes admits plan => exact law.tell _ _
  | nothing executes admits plan => exact law.tell _ _
  | iterate executes admits plan visits ih => exact law.trans (law.tell _ _) ih
  | visitedAll => exact law.refl _
  | visitCanceled stopped => exact law.refl _
  | visitNext live walk graded rest ih ih' => exact law.trans ih (law.trans (law.tell _ _) ih')
  | fileCanceled live walk graded ih => exact ih
  | fileTerminal live walk graded ih => exact ih
  | fileFailed live walk graded ih => exact ih

end

/-! ## What the journal books -/

/-- The ledger once an event was booked in it. -/
def Ledger.book (l : Ledger) (e : Event) : Ledger :=
  match e with
  | .started .. | .refused .. => l.count.enter e
  | .notice n => l.tell [n]
  | .barred .. | .finished .. | .tooDeep _ => l.enter e

/-- The ledger once events were booked in it, the latest first. -/
def Ledger.after (l : Ledger) (news : List Event) : Ledger := news.foldr (fun e l => l.book e) l

theorem Ledger.after_append (l : Ledger) (later earlier : List Event) :
    l.after (later ++ earlier) = (l.after earlier).after later :=
  List.foldr_append

theorem Ledger.after_notices (l : Ledger) (ns : List Notice) :
    l.after (ns.map Event.notice).reverse = l.tell ns := by
  induction ns generalizing l with
  | nil => exact l.tell_nil.symm
  | cons n ns ih =>
    rw [List.map_cons, List.reverse_cons, Ledger.after_append, ih]
    exact l.tell_tell [n] ns

/-- The event cancels the run. -/
def Event.isCancel : Event → Bool
  | .notice n => n.isCancel
  | _ => false

/-- Between the states `a` and `b` of a ledger the journal has booked the events `news`: these
alone make the one of the other, the count has risen by the parts among them, parts started
within the ceiling only and were refused above it only, and the run is canceled if it was or if
one of them canceled it. -/
structure Ledger.Books (a b : Ledger) (news : List Event) : Prop where
  made : b = a.after news
  ceiling : b.ceiling = a.ceiling
  journal : b.journal = news ++ a.journal
  executed : b.executed = a.executed + news.countP Event.isCounted
  canceled : b.canceled = (a.canceled || news.any Event.isCancel)
  within : 0 < news.countP Event.isStart → a.executed + news.countP Event.isStart ≤ a.ceiling
  above : 0 < news.countP Event.isRefusal → a.ceiling < b.executed

theorem Event.isStart_le_isCounted (es : List Event) :
    es.countP Event.isStart ≤ es.countP Event.isCounted := by
  refine List.countP_mono_left fun e _ starts => ?_
  cases e with
  | started flow part context => rfl
  | _ => cases starts

namespace Ledger.Books

theorem refl (l : Ledger) : Books l l [] :=
  ⟨rfl, rfl, rfl, rfl, by simp, by simp, by simp⟩

theorem trans {a b c : Ledger} {news news' : List Event} (h : Books a b news)
    (h' : Books b c news') : Books a c (news' ++ news) where
  made := by rw [h'.made, h.made, Ledger.after_append]
  ceiling := h'.ceiling.trans h.ceiling
  journal := by rw [h'.journal, h.journal, List.append_assoc]
  executed := by rw [h'.executed, h.executed, List.countP_append]; omega
  canceled := by
    rw [h'.canceled, h.canceled, List.any_append, Bool.or_assoc, Bool.or_comm (List.any _ _)]
  within := by
    have started := Event.isStart_le_isCounted news
    have := h.executed
    have := h.ceiling
    have := h.within
    have := h'.within
    rw [List.countP_append]
    omega
  above := by
    have := h.ceiling
    have := h.above
    have := h'.above
    have := h'.executed
    rw [List.countP_append]
    omega

theorem enter (l : Ledger) (e : Event) (outcome : e.isOutcome = true) :
    Books l (l.enter e) [e] := by
  cases e <;> simp only [Event.isOutcome, Bool.false_eq_true] at outcome <;>
    exact ⟨rfl, rfl, rfl, rfl, by simp [Event.isCancel], by simp [Event.isStart],
      by simp [Event.isRefusal]⟩

theorem tell (l : Ledger) (ns : List Notice) :
    Books l (l.tell ns) (ns.map Event.notice).reverse := by
  have silent (p : Event → Bool) (h : ∀ n, p (.notice n) = false) :
      (ns.map Event.notice).reverse.countP p = 0 := by
    simp [List.countP_eq_zero, h]
  refine ⟨(l.after_notices ns).symm, rfl, rfl, ?_, ?_, ?_, ?_⟩
  · rw [silent _ fun _ => rfl]
    rfl
  · rw [List.any_reverse, List.any_map]
    rfl
  · rw [silent _ fun _ => rfl]
    omega
  · rw [silent _ fun _ => rfl]
    omega

theorem start (l : Ledger) (flow : Flow) (part : Part) (context : Context)
    (room : l.executed < l.ceiling) :
    Books l (l.count.enter (.started flow part context)) [.started flow part context] :=
  ⟨rfl, rfl, rfl, rfl, by simp [Event.isCancel], fun _ => room, by simp [Event.isRefusal]⟩

theorem refuse (l : Ledger) (flow : Flow) (part : Part) (full : l.ceiling ≤ l.executed) :
    Books l (l.count.enter (.refused flow part)) [.refused flow part] :=
  ⟨rfl, rfl, rfl, rfl, by simp [Event.isCancel], by simp [Event.isStart],
    fun _ => Nat.lt_succ_of_le full⟩

/-- What was booked is what has happened since. -/
theorem since {a b : Ledger} {news : List Event} (h : Books a b news) :
    Books a b (b.since a) := by
  rw [since_eq h.journal]
  exact h

/-- Everything that happens to a ledger is booked. -/
theorem lawful : Lawful fun a b => ∃ news, Books a b news where
  refl l := ⟨_, refl l⟩
  trans := fun ⟨_, h⟩ ⟨_, h'⟩ => ⟨_, h.trans h'⟩
  tell l ns := ⟨_, tell l ns⟩
  enter l e outcome := ⟨_, enter l e outcome⟩
  start l flow part context room := ⟨_, start l flow part context room⟩
  refuse l flow part full := ⟨_, refuse l flow part full⟩

end Ledger.Books

/-- A run books what it does. -/
theorem ComesTo.books {site : Site} {registry : Registry} {work : Work} {st st' : Standing}
    {reply : Reply} (h : ComesTo site registry work st reply st') :
    st.ledger.Books st'.ledger (st'.ledger.since st.ledger) := by
  obtain ⟨news, books⟩ := h.account Ledger.Books.lawful
  exact books.since

end FlowGraph
