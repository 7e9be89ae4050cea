import FlowGraph.Proofs.Stopping
import Mathlib.Algebra.Group.Nat.Defs

/-!
# Runs within the ceiling

However walks call, switch to and iterate over each other, they share one count. Parts
start only while the count is below the ceiling, and the first part that is refused stops
the whole run, so the count ends at most one above the ceiling.
-/

namespace FlowGraph

theorem Event.countP_isCounted (es : List Event) :
    es.countP Event.isCounted = es.countP Event.isStart + es.countP Event.isRefusal := by
  induction es with
  | nil => rfl
  | cons e es ih =>
    rw [List.countP_cons, List.countP_cons, List.countP_cons, ih]
    cases e <;> simp only [isCounted, isStart, isRefusal, if_true, Bool.false_eq_true, if_false] <;>
      omega

theorem Event.countP_isRefusal_pos {es : List Event} :
    0 < es.countP Event.isRefusal ↔ ∃ flow part, .refused flow part ∈ es := by
  rw [List.countP_pos_iff]
  constructor
  · rintro ⟨e, he, refusal⟩
    cases e with
    | refused flow part => exact ⟨flow, part, he⟩
    | _ => cases refusal
  · rintro ⟨flow, part, h⟩
    exact ⟨_, h, rfl⟩

/-- Events that do not stop the run refuse no part. -/
theorem Event.countP_isRefusal_eq_zero {es : List Event} (calm : ∀ e ∈ es, e.stop? = none) :
    es.countP Event.isRefusal = 0 := by
  refine List.countP_eq_zero.2 fun e he refusal => ?_
  have calm := calm e he
  cases e with
  | refused => exact Option.some_ne_none _ calm
  | _ => cases refusal

/-- No work has more than one part refused. -/
theorem Course.refusals_le {l : Ledger} {reply : Reply} {st : Standing} (h : Course l reply st) :
    (st.ledger.since l).countP Event.isRefusal ≤ 1 := by
  cases h with
  | calm h =>
    obtain ⟨news, journal, calm⟩ := h
    rw [Ledger.since_eq journal, Event.countP_isRefusal_eq_zero calm]
    exact Nat.zero_le 1
  | @stopped news stop result journal stops hands explains =>
    obtain ⟨later, earlier, rfl, handed, calm⟩ := stops.order
    have handed : later.countP Event.isRefusal = 0 := by
      refine List.countP_eq_zero.2 fun e he refusal => ?_
      obtain ⟨flow, part, depth, rfl⟩ := handed e he
      cases refusal
    rw [Ledger.since_eq journal, List.countP_append, List.countP_cons, handed,
      Event.countP_isRefusal_eq_zero calm]
    split <;> omega

/-- **Every run of a fresh context ends within the ceiling.** By the rules its walk comes to
just one exit and standing, which the run reports; all the parts counted on the way, at
every depth and for every file, are at most one more than the ceiling, and they are one
more exactly if a part was refused. -/
theorem run_ends_within_ceiling (site : Site) (registry : Registry) (flow : Flow) (file : Path)
    (vars : Variables) (canceled : Bool) (ceiling : Nat)
    (is_product : ceiling = max 1 (flow.maxNodes.getD site.settings.defaultMaxNodes) *
      max 1 site.settings.stepLimitMultiplier)
    (fits : ceiling < 2 ^ 64 - 1) :
    let run := runFlow site registry flow (.fresh file vars canceled)
    (∃ exit final,
      (∀ reply st, ComesTo site registry (.walk flow)
        (prepareRun site flow (.fresh file vars canceled)) reply st ↔
          reply = .leave exit ∧ st = final) ∧
      run = reportRun flow exit final) ∧
      run.2.ledger.executed = run.2.ledger.journal.countP Event.isCounted ∧
      run.2.ledger.executed ≤ ceiling + 1 ∧
      (run.2.ledger.executed = ceiling + 1 ↔
        ∃ refused part, .refused refused part ∈ run.2.ledger.journal) := by
  obtain ⟨exit, final, walk, run⟩ := runFlow_comesTo site registry flow (.fresh file vars canceled)
  let start := prepareRun site flow (.fresh file vars canceled)
  have ceiling_eq : start.ledger.ceiling = ceiling := by
    rw [is_product]
    exact Nat.min_eq_right (is_product ▸ Nat.le_of_lt fits)
  have since : final.ledger.since start.ledger = final.ledger.journal :=
    Ledger.since_eq (List.append_nil _).symm
  have books := walk.books
  have refusals := walk.course.refusals_le
  rw [since] at books refusals
  have counted : final.ledger.executed = 0 + final.ledger.journal.countP Event.isCounted :=
    books.executed
  have counts := Event.countP_isCounted final.ledger.journal
  have within : 0 < _ → 0 + _ ≤ _ := books.within
  have above := books.above
  rw [ceiling_eq] at within above
  simp only [run, reportRun_ledger]
  refine ⟨⟨exit, final, fun reply st => ⟨fun h => ?_, fun ⟨left, at_⟩ => left ▸ at_ ▸ walk⟩, rfl⟩,
    by omega, by omega, ?_⟩
  · have same := walk.value.symm.trans h.value
    exact ⟨congrArg Prod.fst same.symm, congrArg Prod.snd same.symm⟩
  · rw [← Event.countP_isRefusal_pos]
    omega

/-- The run of a flow of two nodes that calls a loop ends when it counts its third part. -/
theorem ceiling_of_called_loop :
    2 = max 1 (Sample.caller.maxNodes.getD Sample.site.settings.defaultMaxNodes) *
        max 1 Sample.site.settings.stepLimitMultiplier ∧
      2 < 2 ^ 64 - 1 ∧
      Sample.stoppedRun.2.ledger.executed = 3 := by
  have is_product : 2 = max 1 (Sample.caller.maxNodes.getD
      Sample.site.settings.defaultMaxNodes) * max 1 Sample.site.settings.stepLimitMultiplier := by
    decide
  obtain ⟨-, -, -, above⟩ := run_ends_within_ceiling Sample.site Sample.registry Sample.caller
    ⟨"in/a.txt"⟩ .empty false 2 is_product (by decide)
  refine ⟨is_product, by decide, above.2 ⟨Sample.loop, Sample.spinning, ?_⟩⟩
  obtain ⟨earlier, journal⟩ := Sample.journal_stoppedRun
  rw [← Sample.start, ← Sample.stoppedRun, journal]
  simp

end FlowGraph
