import FlowGraph.Proofs.Lookup
import FlowGraph.Proofs.Trail

/-!
# The records of a run

All walks of a run enter their visible steps into one ledger, whatever context they run in,
so the records are numbered through. They are a view of the journal (`Ledger.KeepsRecords`):
the parts in it that finished and are no plumbing, in order. What such a part came to has a
code, for the steps of a node and its scripts have no other results.
-/

namespace FlowGraph

/-! ## Which parts are recorded -/

/-- The part is shown: its designation is broken, or names a step or script. -/
theorem Part.isExempt_eq_false {p : Part} :
    p.isExempt = false ↔ ∀ ref, p.stepRef = .ok ref → ref.isExempt = false := by
  unfold Part.isExempt
  cases parsed : p.stepRef with
  | error e => simp [Except.toOption]
  | ok ref => simp [Except.toOption]

/-- Whether a part is shown depends on its designation only. -/
theorem Part.isExempt_of_stepRef {p : Part} {ref : StepRef} (parsed : p.stepRef = .ok ref) :
    p.isExempt = ref.isExempt := by
  unfold Part.isExempt
  rw [parsed]
  rfl

theorem Event.record?_eq_some {number : UInt32} {e : Event} {s : ExecutedStep} :
    e.record? number = some s ↔ ∃ flow part result depth,
      e = .finished flow part result depth ∧ part.isExempt = false ∧
        s = { step := number.toNat, name := part.displayName, element := part.element,
              resultCode := result.code, durationMs := 0, depth } := by
  constructor
  · intro h
    cases e with
    | finished flow part result depth =>
      cases exempt : part.isExempt with
      | true => simp [record?, exempt] at h
      | false =>
        simp only [record?, exempt, Bool.false_eq_true, if_false] at h
        exact ⟨flow, part, result, depth, rfl, exempt, (Option.some.inj h).symm⟩
    | _ => cases h
  · rintro ⟨flow, part, result, depth, rfl, visible, rfl⟩
    simp [record?, visible]

/-- Nothing is recorded but the end of a part. -/
theorem Event.record?_eq_none {number : UInt32} {e : Event}
    (h : ∀ flow part result depth, e = .finished flow part result depth → part.isExempt = true) :
    e.record? number = none := by
  cases e with
  | finished flow part result depth => simp [record?, h flow part result depth rfl]
  | _ => rfl

/-- A part that asks for anything but a step is not shown. -/
theorem Part.isExempt_of_task {registry : Registry} {vars : Variables} {part : Part} {task : Task}
    (asks : Task.ofPart registry vars part = .ok task) (other : task.step? = none) :
    part.isExempt = true := by
  refine Bool.of_not_eq_false fun visible => ?_
  have noStep : ¬ part.ExecutesStep := fun step => by
    have asked := step.step?_isSome asks
    rw [other] at asked
    cases asked
  cases parsed : part.stepRef with
  | error e =>
    rw [Task.ofPart, parsed] at asks
    cases asks
  | ok ref =>
    have shown := Part.isExempt_eq_false.1 visible ref parsed
    cases ref with
    | native name => exact noStep (.inl ⟨name, parsed⟩)
    | script name => exact noStep (.inr ⟨name, parsed⟩)
    | _ => cases shown

/-- The designation of a part that is shown names a step or a script, unless it is broken. -/
theorem Part.stepRef_of_visible {part : Part} {ref : StepRef} (visible : part.isExempt = false)
    (parsed : part.stepRef = .ok ref) :
    (∃ name, ref = .native name) ∨ ∃ name, ref = .script name := by
  have shown := Part.isExempt_eq_false.1 visible ref parsed
  cases ref with
  | native name => exact .inl ⟨name, rfl⟩
  | script name => exact .inr ⟨name, rfl⟩
  | _ => cases shown

/-! ## Numbering -/

/-- The records of a journal, numbered from 1 on in 32 bits. -/
def recordsOf (journal : List Event) : List ExecutedStep :=
  (journal.reverse.filterMap (Event.record? 0)).mapIdx
    fun i s => { s with step := (i + 1) % UInt32.size }

/-- The ledger has the records of its journal, and has handed out that many numbers. -/
structure Ledger.KeepsRecords (l : Ledger) : Prop where
  records : l.executedSteps = recordsOf l.journal
  last : l.lastNumber.toNat = l.records.length % UInt32.size

/-- The number of a record is the only thing in it that depends on the number. -/
theorem Event.record?_map (e : Event) (number : UInt32) :
    e.record? number = (e.record? 0).map fun s => { s with step := number.toNat } := by
  cases e with
  | finished flow part result depth =>
    rw [record?, record?]
    split <;> rfl
  | _ => rfl

theorem recordsOf_of_silent {e : Event} {journal : List Event} (h : e.record? 0 = none) :
    recordsOf (e :: journal) = recordsOf journal := by
  simp [recordsOf, h]

theorem recordsOf_cons {e : Event} {journal : List Event} {s : ExecutedStep}
    (h : e.record? 0 = some s) :
    recordsOf (e :: journal) = recordsOf journal ++
      [{ s with step := ((recordsOf journal).length + 1) % UInt32.size }] := by
  simp [recordsOf, h, List.mapIdx_append]

namespace Ledger.KeepsRecords

variable {l : Ledger}

/-- A visible step is entered under the number after that of the one before. -/
theorem enter (h : l.KeepsRecords) (e : Event) : (l.enter e).KeepsRecords := by
  have number := h.last
  cases shown : e.record? 0 with
  | none =>
    have silent : e.record? l.nextNumber = none := by rw [e.record?_map, shown]; rfl
    constructor
    · rw [enter_journal, recordsOf_of_silent shown, ← h.records]
      simp [executedSteps, Ledger.enter, silent]
    · simpa [Ledger.enter, silent] using number
  | some s =>
    have next : l.nextNumber.toNat = (l.records.length + 1) % UInt32.size := by
      rw [nextNumber, UInt32.toNat_add, number]
      exact Nat.mod_add_mod _ _ _
    have visible : e.record? l.nextNumber = some { s with step := l.nextNumber.toNat } := by
      rw [e.record?_map, shown]
      rfl
    constructor
    · rw [enter_journal, recordsOf_cons shown, ← h.records, executedSteps, executedSteps,
        List.length_reverse, ← next]
      simp [Ledger.enter, visible]
    · simpa [Ledger.enter, visible] using next

theorem count (h : l.KeepsRecords) : l.count.KeepsRecords := ⟨h.records, h.last⟩

theorem tell (h : l.KeepsRecords) (ns : List Notice) : (l.tell ns).KeepsRecords := by
  have silent : (ns.map Event.notice).filterMap (Event.record? 0) = [] := by
    simp [Event.record?]
  refine ⟨h.records.trans ?_, h.last⟩
  simp [recordsOf, silent]

/-- Whatever happens to a ledger, it keeps its records. -/
theorem lawful : Lawful fun a b => a.KeepsRecords → b.KeepsRecords where
  refl _ h := h
  trans h h' keeps := h' (h keeps)
  tell _ ns keeps := keeps.tell ns
  enter _ e _ keeps := keeps.enter e
  start _ _ _ _ _ keeps := keeps.count.enter _
  refuse _ _ _ _ keeps := keeps.count.enter _

end Ledger.KeepsRecords

/-! ## Codes -/

/-- The result has a code that stands for it. -/
def StepResult.HasCode (r : StepResult) : Prop := StepResult.ofCode? r.code = some r

namespace StepResult

/-- The codes of outputs are those from 1 to 99. -/
theorem range_of_ofCode? {code : Int} {n : Nat} (h : ofCode? code = some (.output n)) :
    1 ≤ code ∧ code ≤ 99 ∧ code.toNat = n := by
  grind [ofCode?, maxOutput]

theorem code_of_ofCode? {code : Int} {r : StepResult} (h : ofCode? code = some r) :
    r.code = code := by
  cases r with
  | output n =>
    obtain ⟨least, greatest, rfl⟩ := range_of_ofCode? h
    rw [code_output (by simp only [UInt32.size]; omega), Int.toNat_of_nonneg (by omega)]
  | completed => exact (by grind [ofCode?] : code = 0).symm
  | failure => exact (by grind [ofCode?] : code = -1).symm
  | canceled => exact (by grind [ofCode?] : code = -2).symm
  | terminalExit => exact (by grind [ofCode?] : code = -3).symm

theorem hasCode_of_ofCode? {code : Int} {r : StepResult} (h : ofCode? code = some r) :
    r.HasCode := by
  rw [HasCode, code_of_ofCode? h, h]

/-- The codes of results reach from -3 to 99. -/
theorem HasCode.bounds {r : StepResult} (h : r.HasCode) : -3 ≤ r.code ∧ r.code ≤ 99 := by
  cases r with
  | output n =>
    obtain ⟨least, greatest, -⟩ := range_of_ofCode? h
    exact ⟨Int.le_trans (by decide) least, greatest⟩
  | _ => decide

end StepResult

/-- The step types of the registry are those of every node. -/
def Registry.IsBasic (registry : Registry) : Prop :=
  ∀ name make, registry.steps.get? name = some make → (name, make) ∈ Step.basics

theorem Step.rising_basics : Rising Step.basics := by
  simp only [Rising, Step.basics, List.pairwise_cons, List.forall_mem_cons]
  decide

/-- The step types that a worker registers first are those of every node. -/
theorem Registry.isBasic_of_steps {registry : Registry}
    (h : registry.steps = .ofList Step.basics) : registry.IsBasic := by
  intro name make found
  rw [h, Dict.ofList, Dict.get?_insertAll Step.rising_basics] at found
  have found : Step.basics.lookup name = some make := by
    simpa [Dict.get?, Dict.empty] using found
  obtain ⟨before, after, entries, -⟩ := List.lookup_eq_some_iff.1 found
  rw [entries]
  exact List.mem_append_right _ List.mem_cons_self

/-- The step is one of those of every node, in some configuration. -/
def Step.IsBasic (step : Step) : Prop := ∃ entry ∈ Step.basics, ∃ m, step = entry.2 m

/-- The results of the steps of every node have codes. -/
theorem Step.IsBasic.hasCode {actions : Moment → Action} (basic : (Step.acting actions).IsBasic)
    (moment : Moment) (site : Site) (canceled : Bool) (s : Scope) :
    ((actions moment).run site canceled s).result.HasCode := by
  obtain ⟨⟨name, make⟩, mem, m, made⟩ := basic
  simp only [Step.basics, List.mem_cons, List.not_mem_nil, or_false, Prod.mk.injEq] at mem
  rcases mem with ⟨-, rfl⟩ | ⟨-, rfl⟩ | ⟨-, rfl⟩ | ⟨-, rfl⟩ | ⟨-, rfl⟩
  · cases made
  · cases made
    dsimp only
    split
    · rfl
    · dsimp only
      split <;> rfl
  all_goals
    cases made
    rfl

/-- The results of scripts have codes. -/
theorem ScriptStep.conclude_hasCode (name : String) (s : Scope) (e : Evaluation) :
    (conclude name s e).result.HasCode := by
  cases outcome : e.outcome with
  | integer code =>
    cases valid : StepResult.ofCode? code with
    | none =>
      simp only [conclude, outcome, valid]
      rfl
    | some result =>
      simp only [conclude, outcome, valid]
      exact StepResult.hasCode_of_ofCode? valid
  | _ =>
    simp only [conclude, outcome]
    rfl

section
variable {site : Site} {registry : Registry}

/-- A part that asks for a step asks for one of the registry, by its name. -/
theorem Task.eq_native {part : Part} {vars : Variables} {step : Step}
    (asks : Task.ofPart registry vars part = .ok (.native step)) :
    ∃ name make, registry.steps.get? name = some make ∧ step = make (part.effectiveModel vars) := by
  rw [Task.ofPart] at asks
  split at asks
  · rename_i ref parsed
    cases ref with
    | native name =>
      cases found : registry.steps.get? name with
      | none => simp [Task.ofRef, Registry.create?, found] at asks
      | some make =>
        refine ⟨name, make, found, ?_⟩
        simpa [Task.ofRef, Registry.create?, found] using asks.symm
    | _ => grind [Task.ofRef, Task.withFlow]
  · cases asks

/-- A part executes a step of the registry or a script. -/
theorem Part.step?_eq_some (basic : registry.IsBasic) {part : Part} {vars : Variables}
    {step : Step} (executes : part.step? registry vars = some step) :
    step.IsBasic ∨ ∃ script : ScriptStep, step = .acting (script.action ·) := by
  rw [Part.step?, Option.bind_eq_some_iff] at executes
  obtain ⟨task, asks, steps⟩ := executes
  have asks : Task.ofPart registry vars part = .ok task := by
    cases h : Task.ofPart registry vars part with
    | error e => simp [h, Except.toOption] at asks
    | ok task' => simpa [h, Except.toOption] using asks
  cases task with
  | script script =>
    cases steps
    exact .inr ⟨script, rfl⟩
  | native native =>
    cases steps
    obtain ⟨name, make, found, made⟩ := Task.eq_native asks
    exact .inl ⟨_, basic name make found, _, made⟩
  | _ => cases steps

/-- The results of iterations have codes, whatever the walks in them return. -/
theorem ComesTo.hasCode_visit {work : Work} {st st' : Standing} {reply : Reply}
    (h : ComesTo site registry work st reply st') {flow : Flow} {total done : Nat}
    {files : List Path} {result : StepResult} (visits : work = .visit flow total done files)
    (is : reply = .done result) : result.HasCode := by
  induction h generalizing done files with
  | visitedAll | visitCanceled | fileCanceled | fileTerminal | fileFailed =>
    cases is
    rfl
  | visitNext live walk graded rest ih ih' =>
    cases visits
    exact ih' rfl is
  | _ => cases visits

/-- What a part that is shown is done with has a code. -/
theorem ComesTo.hasCode (basic : registry.IsBasic) {flow : Flow} {part : Part} {st st' : Standing}
    {result : StepResult} (h : ComesTo site registry (.attempt flow part) st (.done result) st')
    (visible : part.isExempt = false) : result.HasCode := by
  cases h with
  | unresolved | unplanned | nothing => rfl
  | input task | call task => simp [Part.isExempt_of_task task rfl] at visible
  | plain executes admits =>
    obtain native | ⟨script, is⟩ := Part.step?_eq_some basic executes
    · exact native.hasCode _ _ _ _
    · cases is
      exact ScriptStep.conclude_hasCode _ _ _
  | iterate executes admits plan visits => exact visits.hasCode_visit rfl rfl

/-! ## What is recorded -/

/-- A part finishes at a depth where flows are walked, with a result that has a code if the
part is shown. -/
def Event.IsSound : Event → Prop
  | .finished _ part result depth =>
    depth ≤ maxFlowDepth ∧ (part.isExempt = false → result.HasCode)
  | _ => True

theorem Event.isSound_lawful (basic : registry.IsBasic) :
    Event.Law site registry fun _ e => e.IsSound where
  outward h := h
  notice _ _ := trivial
  tooDeep _ _ := trivial
  refused _ _ _ := trivial
  barred _ _ _ := trivial
  started _ _ := trivial
  finished work shallow := ⟨shallow, work.hasCode basic⟩
  marker task shallow :=
    ⟨shallow, fun visible => by simp [Part.isExempt_of_task task rfl] at visible⟩

/-- What a record of a run tells. -/
structure ExecutedStep.IsSound (s : ExecutedStep) : Prop where
  depth : s.depth ≤ maxFlowDepth
  least : -3 ≤ s.resultCode
  greatest : s.resultCode ≤ 99
  result : (StepResult.ofCode? s.resultCode).isSome
  visible : ∀ ref, StepRef.parse s.element = .ok ref →
    (∃ name, ref = .native name) ∨ ∃ name, ref = .script name

/-- The records of sound events are sound. -/
theorem isSound_of_mem_recordsOf {journal : List Event} (sound : ∀ e ∈ journal, e.IsSound)
    {s : ExecutedStep} (mem : s ∈ recordsOf journal) : s.IsSound := by
  obtain ⟨i, bound, rfl⟩ := List.mem_mapIdx.1 mem
  obtain ⟨e, told, shown⟩ := List.mem_filterMap.1 (List.getElem_mem bound)
  obtain ⟨flow, part, result, depth, rfl, visible, record⟩ := Event.record?_eq_some.1 shown
  obtain ⟨shallow, code⟩ := sound _ (List.mem_reverse.1 told)
  rw [record]
  exact ⟨shallow, (code visible).bounds.1, (code visible).bounds.2,
    Option.isSome_iff_exists.2 ⟨_, code visible⟩, fun ref => Part.stepRef_of_visible visible⟩

/-! ## How much is recorded -/

/-- Between the states of a ledger no more was recorded than counted. -/
def Ledger.Covers (a b : Ledger) : Prop :=
  b.records.length + a.executed ≤ a.records.length + b.executed

namespace Ledger.Covers

theorem refl (l : Ledger) : l.Covers l := Nat.le_refl _

theorem trans {a b c : Ledger} (h : a.Covers b) (h' : b.Covers c) : a.Covers c := by
  simp only [Covers] at *
  omega

theorem enter {l : Ledger} {e : Event} (silent : ∀ number, e.record? number = none) :
    l.Covers (l.enter e) := by
  simp [Covers, Ledger.enter, silent]

theorem tell (l : Ledger) (ns : List Notice) : l.Covers (l.tell ns) := Nat.le_refl _

end Ledger.Covers

/-- One record at most is written for an event. -/
theorem Ledger.length_records_enter (l : Ledger) (e : Event) :
    (l.enter e).records.length ≤ l.records.length + 1 := by
  simp only [enter, List.length_append, Option.length_toList]
  split <;> omega

/-- The record of a part is paid for by the count at its start. -/
theorem Ledger.Covers.turn {flow : Flow} {part : Part} {st st₁ st₂ : Standing} {reply : Reply}
    {turn : Turn} (work : (Turn.start flow part st.count).ledger.Covers st₁.ledger)
    (leads : Turn.follow flow part (reply, st₁) = (turn, st₂)) : st.ledger.Covers st₂.ledger := by
  have silent (c : Context) (number : UInt32) :
      (Event.started flow part c).record? number = none :=
    Event.record?_eq_none (by rintro _ _ _ _ ⟨⟩)
  rw [Turn.start_ledger] at work
  have started : (st.ledger.count).Covers st₁.ledger := (Ledger.Covers.enter (silent _)).trans work
  simp only [Ledger.Covers, Ledger.count] at started ⊢
  obtain ⟨result, -, ledger⟩ | ledger := follow_ledger leads
  · have one := st₁.ledger.length_records_enter (.finished flow part result st₁.context.depth)
    rw [ledger]
    simp only [Ledger.enter_executed]
    omega
  · rw [ledger]
    omega

/-- No more is recorded than counted. -/
theorem ComesTo.covers {work : Work} {st st' : Standing} {reply : Reply}
    (h : ComesTo site registry work st reply st') : st.ledger.Covers st'.ledger := by
  have silent {l : Ledger} {e : Event}
      (exempt : ∀ flow part result depth, e = .finished flow part result depth →
        part.isExempt = true) :
      l.Covers (l.enter e) :=
    .enter fun _ => Event.record?_eq_none exempt
  induction h with
  | tooDeep deep => exact silent (by rintro _ _ _ _ ⟨⟩)
  | noEntry | canceled | missing | unresolved | lost | switch | input | visitedAll
  | visitCanceled => exact .refl _
  | enter shallow found rest ih => exact ih
  | refused live found full =>
    exact Ledger.Covers.trans (Nat.add_le_add_left (Nat.le_succ _) _)
      (silent (by rintro _ _ _ _ ⟨⟩))
  | last live found room work leads ih => exact ih.turn leads
  | next live found room work leads rest ih ih' => exact (ih.turn leads).trans ih'
  | marker task =>
    refine silent ?_
    rintro _ _ _ _ ⟨⟩
    exact Part.isExempt_of_task task rfl
  | call task walk ih => exact ih
  | barred executes bars =>
    exact Ledger.Covers.trans (.tell _ _) (silent (by rintro _ _ _ _ ⟨⟩))
  | plain executes admits => exact Ledger.Covers.trans (.tell _ _) (.tell _ _)
  | unplanned executes admits plan | nothing executes admits plan => exact .tell _ _
  | iterate executes admits plan visits ih => exact Ledger.Covers.trans (.tell _ _) ih
  | visitNext live walk graded rest ih ih' =>
    exact ih.trans (Ledger.Covers.trans (.tell _ _) ih')
  | fileCanceled live walk graded ih | fileTerminal live walk graded ih
  | fileFailed live walk graded ih => exact ih

end

/-- A run with a fresh ledger reports the records of its journal. -/
theorem executedSteps_runFlow (site : Site) (registry : Registry) (flow : Flow) (c : Context)
    (ceiling : Nat) (canceled : Bool) (clock : Nat) :
    (runFlow site registry flow ⟨c, .fresh ceiling canceled clock⟩).1.executedSteps =
      recordsOf
        (runFlow site registry flow ⟨c, .fresh ceiling canceled clock⟩).2.ledger.journal := by
  obtain ⟨exit, final, walk, run⟩ :=
    runFlow_comesTo site registry flow ⟨c, .fresh ceiling canceled clock⟩
  rw [run, reportRun_ledger]
  exact (walk.account Ledger.KeepsRecords.lawful ⟨rfl, rfl⟩).records

/-- **The records of a run are numbered through** from 1 on, from whatever walk they come; each
of them is that of a step or script, at a depth where flows are walked and with the code of a
result, and there are no more of them than counted parts. -/
theorem run_records_visible_steps (site : Site) (registry : Registry) (flow : Flow) (c : Context)
    (ceiling : Nat) (canceled : Bool) (clock : Nat) (basic : registry.IsBasic)
    (few : (runFlow site registry flow ⟨c, .fresh ceiling canceled clock⟩).1.executedSteps.length <
      UInt32.size) :
    (∀ (i : Nat) (bound :
        i < (runFlow site registry flow ⟨c, .fresh ceiling canceled clock⟩).1.executedSteps.length),
      ((runFlow site registry flow ⟨c, .fresh ceiling canceled clock⟩).1.executedSteps[i]).step =
        i + 1) ∧
      (∀ s ∈ (runFlow site registry flow ⟨c, .fresh ceiling canceled clock⟩).1.executedSteps,
        s.IsSound) ∧
      (runFlow site registry flow ⟨c, .fresh ceiling canceled clock⟩).1.executedSteps.length ≤
        (runFlow site registry flow ⟨c, .fresh ceiling canceled clock⟩).2.ledger.executed := by
  have steps := executedSteps_runFlow site registry flow c ceiling canceled clock
  obtain ⟨exit, final, walk, run⟩ :=
    runFlow_comesTo site registry flow ⟨c, .fresh ceiling canceled clock⟩
  simp only [run, reportRun_ledger] at few steps ⊢
  refine ⟨fun i bound => ?_, fun s mem => ?_, ?_⟩
  · simp only [steps, recordsOf, List.getElem_mapIdx]
    exact Nat.mod_eq_of_lt (by omega)
  · obtain ⟨news, journal, sound⟩ := walk.tells (Event.isSound_lawful basic) trivial
    have journal : final.ledger.journal = news := journal.trans (List.append_nil _)
    rw [steps, journal] at mem
    exact isSound_of_mem_recordsOf sound mem
  · have covers : final.ledger.records.length + 0 ≤ 0 + final.ledger.executed := walk.covers
    have length : final.ledger.records.length =
        (reportRun flow exit final).1.executedSteps.length :=
      List.length_reverse.symm
    omega

namespace Sample

/-- The three parts of the flow of steps are shown. -/
theorem executedSteps_steppingRun :
    steppingRun.1.executedSteps.map (fun s => (s.step, s.element, s.resultCode, s.depth)) =
      [(1, opening.element, 1, 0), (2, unknown.element, -1, 0), (3, closing.element, 1, 0)] := by
  obtain ⟨-, c₁, c₂, c₃, -, -, -, journal⟩ := journal_steppingRun
  have shown₁ : opening.isExempt = false := Part.isExempt_of_stepRef stepRef_opening
  have shown₂ : unknown.isExempt = false := Part.isExempt_of_stepRef stepRef_unknown
  have shown₃ : closing.isExempt = false := Part.isExempt_of_stepRef stepRef_closing
  have steps : steppingRun.1.executedSteps = recordsOf steppingRun.2.ledger.journal :=
    executedSteps_runFlow _ _ _ _ _ _ _
  have succeeds : (StepResult.output 1).code = 1 := by decide
  have fails : StepResult.failure.code = -1 := rfl
  rw [steps, journal]
  simp [recordsOf, Event.record?, List.filterMap_cons, shown₁, shown₂, shown₃,
    StepResult.success, succeeds, fails]

end Sample

/-- The flow of three steps has three records, of numbers 1 to 3. -/
theorem records_of_three_steps :
    (∀ (i : Nat) (bound : i < Sample.steppingRun.1.executedSteps.length),
      (Sample.steppingRun.1.executedSteps[i]).step = i + 1) ∧
      Sample.steppingRun.1.executedSteps.length = 3 ∧
      3 ≤ Sample.steppingRun.2.ledger.executed := by
  have three : Sample.steppingRun.1.executedSteps.length = 3 := by
    simpa using congrArg List.length Sample.executedSteps_steppingRun
  have few : Sample.steppingRun.1.executedSteps.length < UInt32.size := three ▸ by decide
  obtain ⟨numbers, -, counted⟩ :=
    run_records_visible_steps Sample.site Sample.scripts Sample.stepping Sample.start.context
      Settings.greatestCount false 0 (Registry.isBasic_of_steps rfl) few
  exact ⟨numbers, three, three ▸ counted⟩

end FlowGraph
