import FlowGraph.Run.Context
import FlowGraph.Run.Notice
import FlowGraph.Run.Result

/-!
# The ledger of a run

All walks of a run share one ledger: it counts the executed parts, holds the ceiling
for them and whether the run is canceled, numbers and records the visible steps, and
keeps a journal of what happened. What a run reports of its messages and progress are
views of the journal.
-/

namespace FlowGraph

/-- Something that happened in a run. -/
inductive Event where
  /-- A part was counted and is about to be resolved in a context. -/
  | started (flow : Flow) (part : Part) (context : Context)
  /-- A part was counted over the ceiling and did not start. -/
  | refused (flow : Flow) (part : Part)
  /-- The check of a part's step did not let it run. -/
  | barred (flow : Flow) (part : Part)
  /-- A part at a depth had a result. -/
  | finished (flow : Flow) (part : Part) (result : StepResult) (depth : Nat)
  /-- A walk would have been nested too deeply. -/
  | tooDeep (flow : Flow)
  | notice (n : Notice)

/-- The record of the step that an event shows, under a number. -/
def Event.record? (number : UInt32) : Event → Option ExecutedStep
  | .finished _ part result depth =>
    if part.isExempt then none
    else some { step := number.toNat, name := part.displayName, element := part.element,
                resultCode := result.code, durationMs := 0, depth }
  | _ => none

/-- The account that all walks of a run share. -/
structure Ledger where
  /-- The time on the node. -/
  clock : Nat
  /-- How many parts may be executed. -/
  ceiling : Nat
  /-- How many parts were counted. -/
  executed : Nat
  canceled : Bool
  /-- The number that the last visible step took; numbers have 32 bits and wrap around. -/
  lastNumber : UInt32
  /-- The records of the visible steps, the latest first. -/
  records : List ExecutedStep
  /-- What happened, the latest first. -/
  journal : List Event

namespace Ledger

/-- The ledger before anything has happened, at a time. -/
def fresh (ceiling : Nat) (canceled : Bool) (clock : Nat := 0) : Ledger :=
  { clock, ceiling, executed := 0, canceled, lastNumber := 0, records := [], journal := [] }

/-- The number for the next visible step. -/
def nextNumber (l : Ledger) : UInt32 := l.lastNumber + 1

/-- Enters an event; a visible step takes the next number and is recorded under it. -/
def enter (l : Ledger) (e : Event) : Ledger :=
  { l with
    lastNumber := if (e.record? l.nextNumber).isSome then l.nextNumber else l.lastNumber
    records := (e.record? l.nextNumber).toList ++ l.records
    journal := e :: l.journal }

/-- Counts a part, which is a tick of the clock. -/
def count (l : Ledger) : Ledger := { l with clock := l.clock + 1, executed := l.executed + 1 }

@[simp] theorem enter_clock (l : Ledger) (e : Event) : (l.enter e).clock = l.clock := rfl

@[simp] theorem enter_ceiling (l : Ledger) (e : Event) : (l.enter e).ceiling = l.ceiling := rfl

@[simp] theorem enter_executed (l : Ledger) (e : Event) : (l.enter e).executed = l.executed := rfl

@[simp] theorem enter_canceled (l : Ledger) (e : Event) : (l.enter e).canceled = l.canceled := rfl

@[simp] theorem enter_journal (l : Ledger) (e : Event) : (l.enter e).journal = e :: l.journal := rfl

@[simp] theorem count_clock (l : Ledger) : l.count.clock = l.clock + 1 := rfl

@[simp] theorem count_ceiling (l : Ledger) : l.count.ceiling = l.ceiling := rfl

@[simp] theorem count_executed (l : Ledger) : l.count.executed = l.executed + 1 := rfl

@[simp] theorem count_canceled (l : Ledger) : l.count.canceled = l.canceled := rfl

@[simp] theorem count_journal (l : Ledger) : l.count.journal = l.journal := rfl

/-- More parts were counted than the ceiling allows. -/
def isExceeded (l : Ledger) : Bool := l.ceiling < l.executed

theorem isExceeded_eq_false {l : Ledger} : l.isExceeded = false ↔ l.executed ≤ l.ceiling := by
  simp [isExceeded]

/-- Enters notices in order; one of them may cancel the run. -/
def tell (l : Ledger) (notices : List Notice) : Ledger :=
  { l with
    canceled := l.canceled || notices.any Notice.isCancel
    journal := (notices.map Event.notice).reverse ++ l.journal }

@[simp] theorem tell_clock (l : Ledger) (ns : List Notice) : (l.tell ns).clock = l.clock := rfl

@[simp] theorem tell_ceiling (l : Ledger) (ns : List Notice) : (l.tell ns).ceiling = l.ceiling :=
  rfl

@[simp] theorem tell_executed (l : Ledger) (ns : List Notice) :
    (l.tell ns).executed = l.executed :=
  rfl

@[simp] theorem tell_canceled (l : Ledger) (ns : List Notice) :
    (l.tell ns).canceled = (l.canceled || ns.any Notice.isCancel) :=
  rfl

@[simp] theorem tell_journal (l : Ledger) (ns : List Notice) :
    (l.tell ns).journal = (ns.map Event.notice).reverse ++ l.journal :=
  rfl

@[simp] theorem tell_nil (l : Ledger) : l.tell [] = l := by
  simp [tell]

theorem tell_tell (l : Ledger) (ns ms : List Notice) :
    (l.tell ns).tell ms = l.tell (ns ++ ms) := by
  simp [tell, Bool.or_assoc]

/-- A later state `b` of the ledger `a`: the clock is not set back, the ceiling stays, counts
do not fall, nothing leaves the journal and a canceled run stays canceled. -/
structure Onward (a b : Ledger) : Prop where
  clock : a.clock ≤ b.clock
  ceiling : b.ceiling = a.ceiling
  executed : a.executed ≤ b.executed
  canceled : a.canceled = true → b.canceled = true
  journal : a.journal <:+ b.journal

namespace Onward

theorem refl (a : Ledger) : Onward a a :=
  ⟨Nat.le_refl _, rfl, Nat.le_refl _, id, List.suffix_refl _⟩

theorem trans {a b c : Ledger} (h : Onward a b) (h' : Onward b c) : Onward a c :=
  ⟨Nat.le_trans h.clock h'.clock, h'.ceiling.trans h.ceiling,
    Nat.le_trans h.executed h'.executed, fun ha => h'.canceled (h.canceled ha),
    h.journal.trans h'.journal⟩

theorem enter (a : Ledger) (e : Event) : Onward a (a.enter e) :=
  ⟨Nat.le_refl _, rfl, Nat.le_refl _, id, List.suffix_cons _ _⟩

theorem count (a : Ledger) : Onward a a.count :=
  ⟨Nat.le_succ _, rfl, Nat.le_succ _, id, List.suffix_refl _⟩

theorem tell (a : Ledger) (ns : List Notice) : Onward a (a.tell ns) :=
  ⟨Nat.le_refl _, rfl, Nat.le_refl _, fun h => by simp [Ledger.tell, h],
    List.suffix_append _ _⟩

end Onward

/-! ## Views of the ledger -/

/-- The records of the visible steps in order. -/
def executedSteps (l : Ledger) : List ExecutedStep := l.records.reverse

/-- The notice of an event. -/
def notice? : Event → Option Notice
  | .notice n => some n
  | _ => none

/-- The notices in order. -/
def notices (l : Ledger) : List Notice := l.journal.reverse.filterMap notice?

/-- What has happened since an earlier state of the ledger, the latest first. -/
def since (l earlier : Ledger) : List Event :=
  l.journal.take (l.journal.length - earlier.journal.length)

theorem since_eq {l earlier : Ledger} {news : List Event}
    (h : l.journal = news ++ earlier.journal) : l.since earlier = news := by
  simp [since, h]

/-- The journal of a later state goes on from that of the earlier one. -/
theorem Onward.since_append {a b : Ledger} (h : a.Onward b) :
    b.since a ++ a.journal = b.journal := by
  obtain ⟨news, journal⟩ := h.journal
  rw [since_eq journal.symm]
  exact journal

/-- The notices that were entered after an earlier state of the ledger, in order. -/
def noticesSince (l earlier : Ledger) : List Notice :=
  (l.since earlier).reverse.filterMap notice?

end Ledger

end FlowGraph
