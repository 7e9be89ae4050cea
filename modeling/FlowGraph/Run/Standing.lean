import FlowGraph.Run.Ledger
import FlowGraph.Step.Basic

/-!
# Where a run stands

At every moment a run is at one context and its ledger. Everything that happens to a
run takes a standing to a later one.
-/

namespace FlowGraph

/-- The context of the current walk and the ledger of the run. -/
structure Standing where
  context : Context
  ledger : Ledger

/-- A later standing `b` of the walk that stood at `a`: the ledger is a later one, and the
walk is nested as deeply as it was. -/
structure Standing.Onward (a b : Standing) : Prop where
  ledger : a.ledger.Onward b.ledger
  depth : b.context.depth = a.context.depth

/-- The walk of a flow from a standing: how it ends and where the run stands then. -/
structure Walk where
  go : Flow → Standing → Exit × Standing
  onward : ∀ (f : Flow) (st : Standing), st.Onward (go f st).2

namespace Standing

/-- The start of a run for a file at a time. -/
def fresh (file : Path) (vars : Variables) (canceled : Bool) (clock : Nat := 0) : Standing :=
  ⟨.forFile file vars, .fresh Settings.greatestCount canceled clock⟩

/-- The moment that a step is taken at. -/
def moment (st : Standing) : Moment :=
  { clock := st.ledger.clock
    canceled := st.ledger.canceled
    executed := st.ledger.executed
    executedSteps := st.ledger.executedSteps
    lastCode := st.context.lastCode
    depth := st.context.depth }

/-- Changes the context. -/
def inContext (st : Standing) (f : Context → Context) : Standing :=
  { st with context := f st.context }

/-- Enters an event. -/
def enter (st : Standing) (e : Event) : Standing := { st with ledger := st.ledger.enter e }

/-- Counts a part. -/
def count (st : Standing) : Standing := { st with ledger := st.ledger.count }

/-- Goes on with another ledger. -/
def withLedger (st : Standing) (l : Ledger) : Standing := { st with ledger := l }

/-- Enters notices. -/
def tell (st : Standing) (notices : List Notice) : Standing :=
  st.withLedger (st.ledger.tell notices)

/-- Takes over a scope and notices. -/
def absorb (st : Standing) (s : Scope) (notices : List Notice) : Standing :=
  (st.inContext fun c => { c with toScope := s }).tell notices

/-- Notes a failure of a part. -/
def failAt (st : Standing) (flow : Flow) (step reason : String) : Standing :=
  st.inContext fun c => c.failAt ⟨step, flow.name⟩ reason

@[simp] theorem inContext_ledger (st : Standing) (f : Context → Context) :
    (st.inContext f).ledger = st.ledger :=
  rfl

@[simp] theorem inContext_context (st : Standing) (f : Context → Context) :
    (st.inContext f).context = f st.context :=
  rfl

@[simp] theorem enter_ledger (st : Standing) (e : Event) :
    (st.enter e).ledger = st.ledger.enter e :=
  rfl

@[simp] theorem enter_context (st : Standing) (e : Event) : (st.enter e).context = st.context := rfl

@[simp] theorem count_ledger (st : Standing) : st.count.ledger = st.ledger.count := rfl

@[simp] theorem count_context (st : Standing) : st.count.context = st.context := rfl

@[simp] theorem withLedger_ledger (st : Standing) (l : Ledger) : (st.withLedger l).ledger = l := rfl

@[simp] theorem withLedger_context (st : Standing) (l : Ledger) :
    (st.withLedger l).context = st.context :=
  rfl

@[simp] theorem tell_ledger (st : Standing) (ns : List Notice) :
    (st.tell ns).ledger = st.ledger.tell ns :=
  rfl

@[simp] theorem tell_context (st : Standing) (ns : List Notice) :
    (st.tell ns).context = st.context :=
  rfl

@[simp] theorem absorb_ledger (st : Standing) (s : Scope) (ns : List Notice) :
    (st.absorb s ns).ledger = st.ledger.tell ns :=
  rfl

@[simp] theorem failAt_ledger (st : Standing) (flow : Flow) (step reason : String) :
    (st.failAt flow step reason).ledger = st.ledger :=
  rfl

namespace Onward

theorem refl (a : Standing) : Onward a a := ⟨.refl _, rfl⟩

theorem trans {a b c : Standing} (h : Onward a b) (h' : Onward b c) : Onward a c :=
  ⟨h.ledger.trans h'.ledger, h'.depth.trans h.depth⟩

theorem enter (st : Standing) (e : Event) : Onward st (st.enter e) := ⟨.enter _ _, rfl⟩

theorem count (st : Standing) : Onward st st.count := ⟨.count _, rfl⟩

theorem absorb (st : Standing) (s : Scope) (ns : List Notice) : Onward st (st.absorb s ns) :=
  ⟨.tell _ _, rfl⟩

theorem failAt (st : Standing) (flow : Flow) (step reason : String) :
    Onward st (st.failAt flow step reason) :=
  ⟨.refl _, rfl⟩

end Onward

end Standing

end FlowGraph
