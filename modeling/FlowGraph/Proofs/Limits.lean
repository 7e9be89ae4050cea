import FlowGraph.Proofs.Lockstep
import FlowGraph.Proofs.Stopping

/-!
# A higher ceiling changes no run that did not hit the lower one

The settings that limit a run make its ceiling and nothing else, and the ceiling is looked at only
when a part is counted. A part that is refused there stops the run and is its reason, however deep
it was and whoever asked for the walk; so a run that the ceiling did not stop had no part refused,
and goes in lockstep with the run under a higher ceiling.
-/

namespace FlowGraph

/-- The node with other settings for the ceiling. -/
def Site.withLimit (site : Site) (nodes multiplier : Nat) : Site :=
  { site with
    settings :=
      { site.settings with defaultMaxNodes := nodes, stepLimitMultiplier := multiplier } }

/-- No step of the type looks at the settings for the ceiling when it runs. -/
def StepFactory.IgnoresLimit (make : StepFactory) : Prop :=
  ∀ m actions, make m = .acting actions → ∀ (moment : Moment) (site : Site)
    (nodes multiplier : Nat),
    (actions moment).run (site.withLimit nodes multiplier) = (actions moment).run site

/-- The step types that are not those of every node do not look at the settings for the ceiling. -/
def Registry.PluginsIgnoreLimit (registry : Registry) : Prop :=
  ∀ name make, registry.steps.get? name = some make →
    (name, make) ∈ Step.basics ∨ StepFactory.IgnoresLimit make

/-- The run is stopped by the ceiling: a part is refused, and the run ends with that and gives it
as its reason. -/
def IsStoppedByCeiling (site : Site) (registry : Registry) (flow : Flow) (st : Standing) : Prop :=
  (runFlow site registry flow st).1.state = .terminalExit ∧
    ∃ f p, .refused f p ∈ (runFlow site registry flow st).2.ledger.since st.ledger ∧
      (runFlow site registry flow st).1.failureReason =
        some (Turn.ceilingMessage (site.settings.stepCeiling flow.maxNodes) f)

/-- The steps of every node do not look at the settings for the ceiling. -/
theorem StepFactory.ignoresLimit_of_basic {name : String} {make : StepFactory}
    (basic : (name, make) ∈ Step.basics) : StepFactory.IgnoresLimit make := by
  intro m actions made moment site nodes multiplier
  simp only [Step.basics, List.mem_cons, List.not_mem_nil, or_false, Prod.mk.injEq] at basic
  rcases basic with ⟨-, rfl⟩ | ⟨-, rfl⟩ | ⟨-, rfl⟩ | ⟨-, rfl⟩ | ⟨-, rfl⟩
  · cases made
  all_goals
    cases made
    rfl

section
variable {site : Site} {registry : Registry}

/-- Other settings for the ceiling leave the node as it is to every step. -/
theorem Registry.PluginsIgnoreLimit.alike (blind : registry.PluginsIgnoreLimit)
    (nodes multiplier : Nat) : site.Alike registry (site.withLimit nodes multiplier) where
  files := rfl
  changes := rfl
  scripts := rfl
  steps name make m actions found made moment := by
    rcases blind name make found with basic | ignores
    · exact StepFactory.ignoresLimit_of_basic basic m actions made moment site nodes multiplier
    · exact ignores m actions made moment site nodes multiplier

/-- A walk in which a part was refused ends with that, and its reason says so. -/
theorem ComesTo.stopped_of_refused {flow : Flow} {st st' : Standing} {exit : Exit}
    (walk : ComesTo site registry (.walk flow) st (.leave exit) st') {f : Flow} {p : Part}
    (refused : .refused f p ∈ st'.ledger.since st.ledger) :
    exit.runState = .terminalExit ∧
      st'.context.failureReason = some (Turn.ceilingMessage st.ledger.ceiling f) := by
  cases walk.course with
  | calm h =>
    obtain ⟨news, journal, calm⟩ := h
    rw [Ledger.since_eq journal] at refused
    cases calm _ refused
  | @stopped news first result journal stops hands explains =>
    rw [Ledger.since_eq journal] at refused
    obtain ⟨later, earlier, split⟩ := List.append_of_mem refused
    obtain ⟨rfl, -, first_or⟩ := stops.split split rfl
    have terminal : exit.asStepResult = .terminalExit := Option.some.inj hands
    refine ⟨?_, ?_⟩
    · rw [runState_of_isStop (terminal ▸ rfl), terminal]
      rfl
    · rcases first_or with rfl | ⟨_, _, _, same⟩
      · rw [explains f p rfl, walk.onward.ledger.ceiling]
      · cases same

/-- A run that the ceiling did not stop had no part refused. -/
theorem unhit_of_not_stopped {flow : Flow} {st : Standing}
    (unstopped : ¬ IsStoppedByCeiling site registry flow st) (slack : Nat) :
    Ledger.Unhit slack (prepareRun site flow st).ledger
      (runFlow site registry flow st).2.ledger := by
  obtain ⟨exit, final, walk, run⟩ := runFlow_comesTo site registry flow st
  unfold IsStoppedByCeiling at unstopped
  rw [run, reportRun_ledger] at unstopped ⊢
  refine .inr ⟨final.ledger.since (prepareRun site flow st).ledger, walk.books.journal, ?_⟩
  intro e told
  cases e with
  | refused f p =>
    obtain ⟨state, reason⟩ := walk.stopped_of_refused told
    refine absurd ⟨state, f, p, told, ?_⟩ unstopped
    rw [reportRun_failureReason, state, runReason, reason]
    rfl
  | _ => rfl

end

/-- **A higher ceiling changes no run that the lower one did not stop.** Whatever the registry, the
flow, the variables and the files are, and whatever settings make the ceiling higher, the run
reports the same, ends in the same context, has counted as many parts and has told the same; only
a plugin could see the settings by itself. -/
theorem higher_ceiling_changes_nothing (site : Site) (registry : Registry) (flow : Flow)
    (st : Standing) (nodes multiplier : Nat) (blind : registry.PluginsIgnoreLimit)
    (higher : site.settings.stepCeiling flow.maxNodes ≤
      (site.withLimit nodes multiplier).settings.stepCeiling flow.maxNodes)
    (unstopped : ¬ IsStoppedByCeiling site registry flow st) :
    let run := runFlow site registry flow st
    let run' := runFlow (site.withLimit nodes multiplier) registry flow st
    run'.1 = run.1 ∧ run'.2.context = run.2.context ∧
      run'.2.ledger.executed = run.2.ledger.executed ∧
      run'.2.ledger.noticesSince st.ledger = run.2.ledger.noticesSince st.ledger := by
  intro run run'
  have same := Ledger.Alike.refl st.ledger
  have starts : (prepareRun site flow st).Alike
      ((site.withLimit nodes multiplier).settings.stepCeiling flow.maxNodes -
        site.settings.stepCeiling flow.maxNodes)
      (prepareRun (site.withLimit nodes multiplier) flow st) := by
    refine ⟨rfl, rfl, ?_, rfl, rfl, rfl, rfl, same.journal⟩
    exact (Nat.add_sub_of_le higher).symm
  obtain ⟨result, ends⟩ := runFlow_lockstep (blind.alike nodes multiplier) (.refl registry)
    (.refl flow) starts (unhit_of_not_stopped unstopped _)
  exact ⟨result, ends.context, ends.ledger.executed, same.noticesSince ends.ledger⟩

/-- The step that polls asks the node without a look at the settings. -/
theorem Sample.pluginsIgnoreLimit_polled : polled.PluginsIgnoreLimit := by
  intro name make found
  have basic : scripts.IsBasic := Registry.isBasic_of_steps rfl
  have steps : polled.steps.get? name =
      if name = "Poll" then some (fun _ => .acting asking) else scripts.steps.get? name :=
    Dict.get?_insert _ _ _ _
  rw [steps] at found
  split at found
  · cases found
    right
    intro m actions made moment site nodes multiplier
    cases made
    rfl
  · exact .inl (basic name make found)

/-- The run that polls has just as much room as it needs, and with ten times as much it reports the
same, though one of its steps is a plugin. -/
theorem polling_with_more_room :
    Sample.polled.PluginsIgnoreLimit ∧
      ¬ IsStoppedByCeiling Sample.busySite Sample.polled Sample.polling Sample.start ∧
      Sample.busySite.settings.stepCeiling Sample.polling.maxNodes = 4 ∧
      Sample.pollingRun.2.ledger.executed = 4 ∧
      (Sample.busySite.withLimit 50 10).settings.stepCeiling Sample.polling.maxNodes = 40 ∧
      (runFlow (Sample.busySite.withLimit 50 10) Sample.polled Sample.polling Sample.start).1 =
        Sample.pollingRun.1 := by
  have unstopped :
      ¬ IsStoppedByCeiling Sample.busySite Sample.polled Sample.polling Sample.start := by
    rintro ⟨-, f, p, refused, -⟩
    exact Sample.unrefused_pollingRun f p refused
  obtain ⟨same, -⟩ := higher_ceiling_changes_nothing Sample.busySite Sample.polled Sample.polling
    Sample.start 50 10 Sample.pluginsIgnoreLimit_polled (by decide) unstopped
  exact ⟨Sample.pluginsIgnoreLimit_polled, unstopped, by decide, Sample.journal_pollingRun.2.1,
    by decide, same⟩

end FlowGraph
