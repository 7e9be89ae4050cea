import FlowGraph.Proofs.Ends
import FlowGraph.Proofs.Stopping
import FlowGraph.Proofs.Telling

/-!
# The trail of a walk through its flow

What a walk does is written in the connections of its flow. `Flow.Trail` tells, without a
word about runs, which parts follow each other if each of them has a given result, and how
that ends. The parts that a walk starts, with the results that they come to, are such a
trail; the flows that a step walks for files are walked deeper and leave no mark on it.
-/

namespace FlowGraph

/-! ## Trails -/

namespace Part

/-- The part is there for a step: it names one itself or has a script. -/
def ExecutesStep (p : Part) : Prop :=
  (∃ name, p.stepRef = .ok (.native name)) ∨ ∃ name, p.stepRef = .ok (.script name)

/-- The connection is the first one whose index is the code of an output: the number of the
output, read as one of 32 bits with a sign. That is the number itself in the lower half of the range
(`wrapOutput_of_lt`) and a negative one in the upper half (`wrapOutput_of_le`). -/
def Connects (p : Part) (output : Nat) (c : Connection) : Prop :=
  c.output = wrapOutput output ∧ ∃ earlier later, p.outputConnections = earlier ++ c :: later ∧
    ∀ c' ∈ earlier, c'.output ≠ wrapOutput output

theorem wrapOutput_of_lt {n : Nat} (h : 2 * n < UInt32.size) : wrapOutput n = n :=
  Int.bmod_eq_of_le (by omega) (by omega)

/-- From half of the range on, a signed number is negative. -/
theorem wrapOutput_of_le {n : Nat} (high : UInt32.size ≤ 2 * n) (fits : n < UInt32.size) :
    wrapOutput n = n - UInt32.size := by
  have same : (n : Int) % UInt32.size = n := Int.emod_eq_of_lt (by omega) (by omega)
  have bits : wrapOutput n = if (n : Int) % UInt32.size < (UInt32.size + 1) / 2
      then (n : Int) % UInt32.size else n % UInt32.size - UInt32.size := Int.bmod_def _ _
  rw [bits, same, if_neg (by omega)]

theorem connectionFor?_eq_some {p : Part} {n : Nat} {c : Connection} :
    p.connectionFor? n = some c ↔ p.Connects n c := by
  simp [connectionFor?, List.find?_eq_some_iff_append, Connects]

theorem connectionFor?_eq_none {p : Part} {n : Nat} :
    p.connectionFor? n = none ↔ ∀ c ∈ p.outputConnections, c.output ≠ wrapOutput n := by
  simp [connectionFor?]

end Part

namespace Flow

/-- The part of the flow that a result of a part leads to. -/
inductive Leads (flow : Flow) (part : Part) : StepResult → Part → Prop where
  | output {n : Nat} {c : Connection} {next : Part} (connects : part.Connects n c)
      (there : next ∈ flow.parts) (target : next.uid = c.target) : Leads flow part (.output n) next
  | failure {c : Connection} {next : Part} (connects : part.errorConnection = some c)
      (there : next ∈ flow.parts) (target : next.uid = c.target) : Leads flow part .failure next

/-- How a walk of the flow ends at a part that its check bars (`none`), or that has a
result. -/
inductive Ends (flow : Flow) (part : Part) : Option StepResult → Exit → Prop where
  | barred : Ends flow part none .failed
  | completed : Ends flow part (some .completed) .completed
  | canceled : Ends flow part (some .canceled) .canceled
  | terminalExit : Ends flow part (some .terminalExit) .terminalExit
  | unconnected {n : Nat} (open_ : ∀ c ∈ part.outputConnections, c.output ≠ Part.wrapOutput n) :
      Ends flow part (some (.output n)) .completed
  | dangling {n : Nat} {c : Connection} (connects : part.Connects n c)
      (missing : ∀ p ∈ flow.parts, p.uid ≠ c.target) : Ends flow part (some (.output n)) .completed
  | unhandled (open_ : part.errorConnection = none) : Ends flow part (some .failure) .failed
  | danglingError {c : Connection} (connects : part.errorConnection = some c)
      (missing : ∀ p ∈ flow.parts, p.uid ≠ c.target) : Ends flow part (some .failure) .failed

/-- The parts that follow each other from a part on, with what each of them comes to, and how
a walk along them ends. -/
inductive Trail (flow : Flow) : Part → List (Part × Option StepResult) → Exit → Prop where
  | last {part : Part} {outcome : Option StepResult} {exit : Exit}
      (ends : flow.Ends part outcome exit) : Trail flow part [(part, outcome)] exit
  | step {part next : Part} {result : StepResult} {rest : List (Part × Option StepResult)}
      {exit : Exit} (leads : flow.Leads part result next) (onward : Trail flow next rest exit) :
      Trail flow part ((part, some result) :: rest) exit

theorem part?_eq_some {flow : Flow} {uid : Uuid} {part : Part} (h : flow.part? uid = some part) :
    part ∈ flow.parts ∧ part.uid = uid :=
  ⟨List.mem_of_find?_eq_some h, by simpa using List.find?_some h⟩

theorem part?_eq_none {flow : Flow} {uid : Uuid} :
    flow.part? uid = none ↔ ∀ p ∈ flow.parts, p.uid ≠ uid := by
  simp [part?]

/-- Where no two parts have one uid, a part is found under its own. -/
theorem part?_uid {flow : Flow} (distinct : flow.parts.Pairwise (fun p q => p.uid ≠ q.uid))
    {part : Part} (there : part ∈ flow.parts) : flow.part? part.uid = some part := by
  rw [part?]
  generalize flow.parts = parts at distinct there
  induction parts with
  | nil => cases there
  | cons p ps ih =>
    obtain ⟨apart, distinct⟩ := List.pairwise_cons.1 distinct
    rcases List.mem_cons.1 there with rfl | there
    · simp
    · rw [List.find?_cons_of_neg (by simpa using apart part there)]
      exact ih distinct there

end Flow

/-! ## The trail that a walk leaves -/

/-- A walk at a part: where the part starts, and its result unless its check bars it. -/
structure Visit where
  part : Part
  start : Standing
  outcome : Option StepResult

/-- What executing the part comes to. -/
def Visit.reply (v : Visit) : Reply :=
  match v.outcome with
  | some result => .done result
  | none => .leave .failed

/-- The flow, part and context of an event that starts a part at a depth. -/
def Event.startAt? (depth : Nat) : Event → Option (Flow × Part × Context)
  | .started flow part c => if c.depth = depth then some (flow, part, c) else none
  | _ => none

/-- What the parts that a walk starts at a depth come to is a trail of the flow. -/
structure Walked (site : Site) (registry : Registry) (flow : Flow) (first : Part) (depth : Nat)
    (news : List Event) (visits : List Visit) (exit : Exit) : Prop where
  starts : news.reverse.filterMap (Event.startAt? depth) =
    visits.map fun v => (flow, v.part, v.start.context)
  happens : ∀ v ∈ visits, ∃ after,
    ComesTo site registry (.attempt flow v.part) v.start v.reply after
  trail : flow.Trail first (visits.map fun v => (v.part, v.outcome)) exit

section
variable {site : Site} {registry : Registry}

/-- A part that is there for a step asks for nothing else. -/
theorem Part.ExecutesStep.step?_isSome {part : Part} (h : part.ExecutesStep) {vars : Variables}
    {task : Task} (asks : Task.ofPart registry vars part = .ok task) : task.step?.isSome := by
  obtain ⟨name, ref⟩ | ⟨name, ref⟩ := h
  all_goals
    simp only [Task.ofPart, ref, Task.ofRef] at asks
    split at asks
    · cases asks
      rfl
    · cases asks

/-- A part that is there for a step has a result, or its check bars it. -/
theorem ComesTo.outcome {flow : Flow} {part : Part} {st st' : Standing} {reply : Reply}
    (h : ComesTo site registry (.attempt flow part) st reply st') (step : part.ExecutesStep) :
    ∃ outcome, reply = (Visit.mk part st outcome).reply := by
  cases h with
  | marker task | lost task | switch task | input task | call task =>
    cases step.step?_isSome task
  | barred => exact ⟨none, rfl⟩
  | unresolved | plain | unplanned | nothing | iterate => exact ⟨some _, rfl⟩

theorem leads_of_next? {flow : Flow} {part : Part} {result : StepResult} {uid : Uuid}
    (h : Turn.next? flow part result = some uid) :
    ∃ next, flow.Leads part result next ∧ flow.part? uid = some next := by
  rw [Turn.next?, Option.filter_eq_some_iff, Option.map_eq_some_iff, Option.isSome_iff_exists] at h
  obtain ⟨⟨c, connects, rfl⟩, next, found⟩ := h
  obtain ⟨there, target⟩ := Flow.part?_eq_some found
  refine ⟨next, ?_, found⟩
  cases result with
  | output n => exact .output (Part.connectionFor?_eq_some.1 connects) there target
  | failure => exact .failure connects there target
  | completed | canceled | terminalExit => cases connects

theorem ends_of_next? {flow : Flow} {part : Part} {result : StepResult}
    (h : Turn.next? flow part result = none) :
    flow.Ends part (some result) (Turn.endOf result) := by
  have missing {c : Connection} (connects : Turn.connection? part result = some c) :
      ∀ p ∈ flow.parts, p.uid ≠ c.target := by
    simpa [Turn.next?, connects, Flow.part?_eq_none] using h
  cases result with
  | output n =>
    cases connects : part.connectionFor? n with
    | none => exact .unconnected (Part.connectionFor?_eq_none.1 connects)
    | some c => exact .dangling (Part.connectionFor?_eq_some.1 connects) (missing connects)
  | failure =>
    cases connects : part.errorConnection with
    | none => exact .unhandled connects
    | some c => exact .danglingError connects (missing connects)
  | completed => exact .completed
  | canceled => exact .canceled
  | terminalExit => exact .terminalExit

/-- A walk that ends at a part ends as the flow says. -/
theorem ends_of_follow {flow : Flow} {v : Visit} {st st' : Standing} {exit : Exit}
    (leads : Turn.follow flow v.part (v.reply, st) = (.leave exit, st')) :
    flow.Ends v.part v.outcome exit := by
  obtain ⟨part, start, outcome⟩ := v
  cases outcome with
  | none =>
    cases leads
    exact .barred
  | some result =>
    simp only [Visit.reply, Turn.follow, Turn.route] at leads
    split at leads
    · cases leads
    · cases leads
      exact ends_of_next? ‹_›

/-- A walk that goes on after a part goes on where the flow says. -/
theorem leads_of_follow {flow flow' : Flow} {v : Visit} {uid : Uuid} {st st' : Standing}
    (leads : Turn.follow flow v.part (v.reply, st) = (.goOn flow' uid, st')) :
    flow = flow' ∧ ∃ result next, v.outcome = some result ∧ flow.Leads v.part result next ∧
      flow.part? uid = some next := by
  obtain ⟨part, start, outcome⟩ := v
  cases outcome with
  | none => cases leads
  | some result =>
    simp only [Visit.reply, Turn.follow, Turn.route] at leads
    split at leads
    · cases leads
      obtain ⟨next, leads, found⟩ := leads_of_next? ‹_›
      exact ⟨rfl, result, next, rfl, leads, found⟩
    · cases leads

/-- Parts start at the depth of their walk; those that a part asks for start deeper. -/
theorem lawful_startAt? :
    Event.Law site registry fun depth e => ∀ d < depth, e.startAt? d = none where
  outward h d less := h d (Nat.lt_succ_of_lt less)
  notice _ _ _ _ := rfl
  tooDeep _ _ _ _ := rfl
  refused _ _ _ _ _ := rfl
  barred _ _ _ _ _ := rfl
  started := by
    intro depth flow part c same shallow d less
    rw [Event.startAt?, if_neg (by omega)]
  finished _ _ _ _ := rfl
  marker _ _ _ _ := rfl

/-- Of a turn one event starts a part at the depth of the walk, the first one. -/
theorem ComesTo.starts_turn {flow : Flow} {part : Part} {st st₁ st₂ : Standing} {reply : Reply}
    {turn : Turn} (work : ComesTo site registry (.attempt flow part)
      (Turn.start flow part st.count) reply st₁)
    (leads : Turn.follow flow part (reply, st₁) = (turn, st₂))
    (shallow : st.context.depth ≤ maxFlowDepth) :
    ∃ news, st₂.ledger.journal = news ++ st.ledger.journal ∧
      news.reverse.filterMap (Event.startAt? st.context.depth) =
        [(flow, part, (Turn.start flow part st.count).context)] := by
  have depth : (Turn.start flow part st.count).context.depth = st.context.depth :=
    (Turn.onward_start flow part st.count).depth
  have deeper := work.tells lawful_startAt? (by rw [Work.IsShallow, depth]; exact shallow)
  rw [Work.depth, depth] at deeper
  have inside : (Turn.start flow part st.count).ledger.Tells
      (fun e => e.startAt? st.context.depth = none) st₂.ledger := by
    refine (deeper.imp fun e h => h _ (Nat.lt_succ_self _)).trans ?_
    obtain ⟨result, -, ledger⟩ | ledger := follow_ledger leads
    · rw [ledger]
      exact .enter _ rfl
    · rw [ledger]
      exact .refl _
  obtain ⟨news, journal, none⟩ := inside
  rw [Turn.start_ledger] at journal
  refine ⟨news ++ [.started flow part (Turn.start flow part st.count).context], ?_, ?_⟩
  · rw [journal, List.append_assoc]
    rfl
  · rw [List.reverse_append, List.filterMap_append,
      List.filterMap_eq_nil_iff.2 fun e he => none e (List.mem_reverse.1 he)]
    simp [Event.startAt?, depth]

/-- **Going on from a part leaves a trail** of the flow, if nothing but steps is in it and
the run is neither canceled nor stopped by the ceiling. -/
theorem ComesTo.walked {flow : Flow} (steps : ∀ p ∈ flow.parts, p.ExecutesStep) {work : Work}
    {st st' : Standing} {reply : Reply} (h : ComesTo site registry work st reply st')
    {uid : Uuid} {part : Part} {exit : Exit} {news : List Event} (goesOn : work = .goOn flow uid)
    (leaves : reply = .leave exit) (found : flow.part? uid = some part)
    (shallow : st.context.depth ≤ maxFlowDepth) (live : st'.ledger.canceled = false)
    (journal : st'.ledger.journal = news ++ st.ledger.journal)
    (unrefused : ∀ e ∈ news, e.isRefusal = false) :
    ∃ visits, Walked site registry flow part st.context.depth news visits exit := by
  induction h generalizing uid part news with
  | canceled stopped =>
    rw [stopped] at live
    cases live
  | missing live none =>
    cases goesOn
    rw [none] at found
    cases found
  | @refused flow' uid' part' st live found' full =>
    have only : [.refused flow' part'] ++ st.ledger.journal = news ++ st.ledger.journal := journal
    have mem : .refused flow' part' ∈ news := by simp [← List.append_cancel_right only]
    cases unrefused _ mem
  | @last _ _ part' st st₁ st₂ _ _ live' found' room work leads =>
    cases goesOn
    cases leaves
    cases found.symm.trans found'
    obtain ⟨outcome, rfl⟩ := work.outcome (steps _ (Flow.part?_eq_some found).1)
    obtain ⟨turn, journal', starts⟩ := work.starts_turn leads shallow
    cases List.append_cancel_right (journal.symm.trans journal')
    exact ⟨[⟨part', _, outcome⟩], starts, by simpa using ⟨_, work⟩, .last (ends_of_follow leads)⟩
  | @next _ _ _ _ part' st st₁ st₂ st₃ _ _ live' found' room work leads rest ih ih' =>
    cases goesOn
    cases leaves
    cases found.symm.trans found'
    obtain ⟨outcome, rfl⟩ := work.outcome (steps _ (Flow.part?_eq_some found).1)
    obtain ⟨turn, journal', starts⟩ := work.starts_turn leads shallow
    obtain ⟨rfl, result, next, came, follows, found''⟩ := leads_of_follow leads
    obtain ⟨later, books⟩ := rest.account Ledger.Books.lawful
    have split : news = later ++ turn := by
      refine List.append_cancel_right (journal.symm.trans (books.journal.trans ?_))
      rw [journal', List.append_assoc]
    rw [split] at unrefused
    have same := (work.depth_turn leads).2
    obtain ⟨visits, walked⟩ := ih' rfl rfl found'' (same ▸ shallow) live books.journal
      (List.forall_mem_append.1 unrefused).1
    rw [same] at walked
    refine ⟨⟨part', Turn.start flow part' st.count, outcome⟩ :: visits, ?_, ?_, ?_⟩
    · rw [split, List.reverse_append, List.filterMap_append, starts, walked.starts]
      rfl
    · exact List.forall_mem_cons.2 ⟨⟨_, work⟩, walked.happens⟩
    · have came : outcome = some result := came
      rw [List.map_cons, came]
      exact .step follows walked.trail
  | _ => cases goesOn

/-! ## Runs of flows of steps -/

/-- A flow of steps and scripts alone, no two of one uid, of which the first part is the only
one without inputs. -/
structure Flow.OfSteps (flow : Flow) (first : Part) : Prop where
  distinct : flow.parts.Pairwise fun p q => p.uid ≠ q.uid
  there : first ∈ flow.parts
  entry : first.inputs = 0
  only : ∀ p ∈ flow.parts, p.inputs = 0 → p = first
  steps : ∀ p ∈ flow.parts, p.ExecutesStep

theorem Flow.OfSteps.entryPart {flow : Flow} {first : Part} (h : flow.OfSteps first) :
    flow.entryPart = .ok first := by
  have entries : ∀ p ∈ flow.parts.filter Part.isEntry, p = first := by
    intro p mem
    rw [List.mem_filter] at mem
    exact h.only p mem.1 (by simpa [Part.isEntry] using mem.2)
  have there : first ∈ flow.parts.filter Part.isEntry :=
    List.mem_filter.2 ⟨h.there, by simp [Part.isEntry, h.entry]⟩
  have distinct := h.distinct.filter Part.isEntry
  rw [Flow.entryPart]
  cases parts : flow.parts.filter Part.isEntry with
  | nil =>
    rw [parts] at there
    cases there
  | cons p ps =>
    rw [parts] at entries distinct
    cases ps with
    | nil => rw [entries p (by simp)]
    | cons q qs =>
      have apart := (List.pairwise_cons.1 distinct).1 q (by simp)
      rw [entries p (by simp), entries q (by simp)] at apart
      exact absurd rfl apart

end

namespace Sample

/-- A uuid of one digit. -/
def uid (digit : Nat) : Uuid :=
  ⟨List.replicate 32 ⟨digit % 16, Nat.mod_lt _ (by decide)⟩, List.length_replicate⟩

/-- A part whose script succeeds, and which then leads to a part that nobody knows. -/
def opening : Part := (Part.new "Script:tally" (uid 1)).entry.connect 1 (uid 2)

/-- A part that names no step, and whose failure leads to the last part. -/
def unknown : Part := (Part.new "Absent" (uid 2)).onError (uid 3)

/-- A part whose script succeeds, and which leads nowhere. -/
def closing : Part := Part.new "Script:tally" (uid 3)

/-- A flow of three steps. -/
def stepping : Flow :=
  { Flow.new "stepping" .normal (uid 0) with
    parts := [opening, unknown, closing], maxNodes := some 3 }

/-- A worker with the script of the flow, which has the value 1 on the node. -/
def scripts : Registry := (Registry.empty.withSteps Step.basics).withScripts [("tally", "1")]

/-- What the script does for a part. -/
def tally (part : Part) (vars : Variables) : Moment → Action :=
  (ScriptStep.action ⟨"tally", "1", part.effectiveModel vars⟩ ·)

theorem stepRef_opening : opening.stepRef = .ok (.script "tally") := by rfl

theorem stepRef_unknown : unknown.stepRef = .ok (.native "Absent") := by rfl

theorem stepRef_closing : closing.stepRef = .ok (.script "tally") := by rfl

/-- The part of the script executes it. -/
theorem step?_tally {part : Part} (ref : part.stepRef = .ok (.script "tally"))
    (vars : Variables) : part.step? scripts vars = some (.acting (tally part vars)) := by
  have asks : Task.ofPart scripts vars part =
      .ok (.script ⟨"tally", "1", part.effectiveModel vars⟩) := Task.ofPart_of_stepRef ref vars
  exact Part.step?_of_task asks

/-- The part of the script is done with success. -/
theorem comesTo_tally {part : Part} (ref : part.stepRef = .ok (.script "tally"))
    (st : Standing) :
    ComesTo site scripts (.attempt stepping part) st (.done .success)
      (Turn.act site (tally part st.context.vars)
        (Turn.checked (.acting (tally part st.context.vars)) st)).2 :=
  .plain (step?_tally ref st.context.vars) rfl

theorem ofPart_unknown (vars : Variables) :
    Task.ofPart scripts vars unknown = .error (.elementNotFound "Absent") :=
  Task.ofPart_of_stepRef stepRef_unknown vars

/-- The run of the flow of three steps. -/
def steppingRun : RunResult × Standing := runFlow site scripts stepping start

/-- The three parts are executed one after the other. -/
theorem journal_steppingRun : steppingRun.2.ledger.canceled = false ∧
    ∃ c₁ c₂ c₃ : Context, c₁.depth = 0 ∧ c₂.depth = 0 ∧ c₃.depth = 0 ∧
      steppingRun.2.ledger.journal =
        [.finished stepping closing .success 0, .started stepping closing c₃,
          .finished stepping unknown .failure 0, .started stepping unknown c₂,
          .finished stepping opening .success 0, .started stepping opening c₁] := by
  have walk : ComesTo site scripts (.walk stepping) (prepareRun site stepping start)
      (.leave .completed) _ :=
    .enter (by decide) rfl
      (.next rfl rfl (by decide) (comesTo_tally stepRef_opening _) rfl
        (.next rfl rfl (by decide) (.unresolved (ofPart_unknown _)) rfl
          (.last rfl rfl (by decide) (comesTo_tally stepRef_closing _) rfl)))
  rw [steppingRun, runFlow, comesTo_walk_iff.1 walk, reportRun_ledger]
  exact ⟨rfl, _, _, _, rfl, rfl, rfl, rfl⟩

/-! ### A step that asks twice -/

/-- A part whose step asks the node until that is ready. -/
def poll : Part :=
  { (Part.new "Poll" (uid 1)).entry with outputConnections := [⟨2, uid 1⟩, ⟨-1, uid 2⟩] }

/-- A flow that polls before its other two steps. -/
def polling : Flow :=
  { Flow.new "polling" .normal (uid 0) with
    parts := [poll, unknown, closing], maxNodes := some 4 }

/-- What the step does: its output is the second one, or the greatest one if the node is ready. -/
def asking (moment : Moment) : Action :=
  { check := .pass
    run := fun site _ s =>
      match site.commands moment.clock ⟨"poll", []⟩ with
      | .ok ⟨some 0, _⟩ => ⟨.output 0xffffffff, s, []⟩
      | _ => ⟨.output 2, s, []⟩ }

/-- The worker with that step. -/
def polled : Registry := scripts.withSteps [("Poll", fun _ => .acting asking)]

/-- A node that is ready when it is asked for the second time. -/
def busySite : Site :=
  { site with commands := fun time _ => .ok ⟨some (if time ≤ 1 then 1 else 0), .empty⟩ }

/-- The run that polls. -/
def pollingRun : RunResult × Standing := runFlow busySite polled polling start

theorem stepRef_poll : poll.stepRef = .ok (.native "Poll") := by rfl

theorem step?_poll (vars : Variables) : poll.step? polled vars = some (.acting asking) := by
  have asks : Task.ofPart polled vars poll = .ok (.native (.acting asking)) :=
    Task.ofPart_of_stepRef stepRef_poll vars
  exact Part.step?_of_task asks

/-- The polling part has another result at its second visit, and the connection of index -1 leads on
from there. -/
theorem journal_pollingRun : pollingRun.2.ledger.canceled = false ∧
    pollingRun.2.ledger.executed = 4 ∧
    ∃ c₁ c₂ c₃ c₄ : Context, c₁.depth = 0 ∧ c₂.depth = 0 ∧ c₃.depth = 0 ∧ c₄.depth = 0 ∧
      pollingRun.2.ledger.journal =
        [.finished polling closing .success 0, .started polling closing c₄,
          .finished polling unknown .failure 0, .started polling unknown c₃,
          .finished polling poll (.output 0xffffffff) 0, .started polling poll c₂,
          .finished polling poll (.output 2) 0, .started polling poll c₁] := by
  have polls (st : Standing) : ComesTo busySite polled (.attempt polling poll) st
      (.done (Turn.act busySite asking (Turn.checked (.acting asking) st)).1)
      (Turn.act busySite asking (Turn.checked (.acting asking) st)).2 :=
    .plain (step?_poll _) rfl
  have absent (vars : Variables) :
      Task.ofPart polled vars unknown = .error (.elementNotFound "Absent") :=
    Task.ofPart_of_stepRef stepRef_unknown vars
  have closes (vars : Variables) :
      closing.step? polled vars = some (.acting (tally closing vars)) := by
    have asks : Task.ofPart polled vars closing =
        .ok (.script ⟨"tally", "1", closing.effectiveModel vars⟩) :=
      Task.ofPart_of_stepRef stepRef_closing vars
    exact Part.step?_of_task asks
  have walk : ComesTo busySite polled (.walk polling) (prepareRun busySite polling start)
      (.leave .completed) _ :=
    .enter (by decide) rfl
      (.next rfl rfl (by decide) (polls _) rfl
        (.next rfl rfl (by decide) (polls _) rfl
          (.next rfl rfl (by decide) (.unresolved (absent _)) rfl
            (.last rfl rfl (by decide) (.plain (closes _) rfl) rfl))))
  rw [pollingRun, runFlow, comesTo_walk_iff.1 walk, reportRun_ledger]
  exact ⟨rfl, rfl, _, _, _, _, rfl, rfl, rfl, rfl, rfl⟩

theorem since_pollingRun : pollingRun.2.ledger.since start.ledger = pollingRun.2.ledger.journal :=
  Ledger.since_eq (List.append_nil _).symm

/-- No part of the run that polls was refused. -/
theorem unrefused_pollingRun (refused : Flow) (part : Part) :
    .refused refused part ∉ pollingRun.2.ledger.since start.ledger := by
  obtain ⟨-, -, c₁, c₂, c₃, c₄, -, -, -, -, journal⟩ := journal_pollingRun
  simp [since_pollingRun, journal]

end Sample

end FlowGraph
