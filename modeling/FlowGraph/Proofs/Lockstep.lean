import FlowGraph.Proofs.Alike
import FlowGraph.Proofs.Ends

/-!
# Runs in lockstep

Two runs from standings that are alike do the same, turn by turn: what one of them comes to by a
rule, the other one comes to by the same rule. The ceiling is looked at in two rules only. A part
that starts within it also starts within a higher one, and if one of the ceilings is really higher,
no part must have been refused at the lower one (`Ledger.Unhit`).
-/

namespace FlowGraph

/-- There is no slack, or no part was refused between the two states of the ledger. -/
def Ledger.Unhit (slack : Nat) (a b : Ledger) : Prop :=
  slack = 0 ∨ a.Tells (fun e => e.isRefusal = false) b

theorem Ledger.Unhit.split {slack : Nat} {a b c : Ledger} (h : Ledger.Unhit slack a c)
    (earlier : a.Onward b) (later : b.Onward c) :
    Ledger.Unhit slack a b ∧ Ledger.Unhit slack b c := by
  rcases h with none | tells
  · exact ⟨.inl none, .inl none⟩
  · obtain ⟨before, after⟩ := tells.split earlier later
    exact ⟨.inr before, .inr after⟩

/-- If a part is refused, there is no slack. -/
theorem Ledger.Unhit.of_refused {slack : Nat} {l : Ledger} {flow : Flow} {part : Part}
    (h : Ledger.Unhit slack l (l.count.enter (.refused flow part))) : slack = 0 := by
  rcases h with none | tells
  · exact none
  · exact absurd (tells.of_cons rfl) Bool.noConfusion

section
variable {slack : Nat} {site site' : Site} {registry registry' : Registry}

/-- If no part was refused in a turn, none was in what its part asked for. -/
theorem Ledger.Unhit.turn {flow : Flow} {part : Part} {st st₁ st₂ : Standing} {reply : Reply}
    {turn : Turn} (h : Ledger.Unhit slack st.ledger st₂.ledger)
    (work : ComesTo site registry (.attempt flow part) (Turn.start flow part st.count) reply st₁)
    (leads : Turn.follow flow part (reply, st₁) = (turn, st₂)) :
    Ledger.Unhit slack (Turn.start flow part st.count).ledger st₁.ledger := by
  rcases h with none | tells
  · exact .inl none
  · exact .inr (work.tells_turn leads tells).2

/-- **Runs go in lockstep**: from standings that are alike, work that is alike comes to replies and
standings that are alike. -/
theorem ComesTo.lockstep (sites : site.Alike registry site') (registries : registry.Alike registry')
    {work work' : Work} {st st' t : Standing} {reply : Reply}
    (h : ComesTo site registry work st reply st') (works : work.Alike work')
    (standing : st.Alike slack t) (unhit : Ledger.Unhit slack st.ledger st'.ledger) :
    ∃ reply' t', ComesTo site' registry' work' t reply' t' ∧ reply.Alike reply' ∧
      st'.Alike slack t' := by
  induction h generalizing work' t with
  | tooDeep deep =>
    cases works with
    | walk flows =>
    exact ⟨_, _, .tooDeep (standing.context ▸ deep), .leave _, standing.tooDeep flows⟩
  | noEntry shallow none =>
    cases works with
    | walk flows =>
    exact ⟨_, _, .noEntry (standing.context ▸ shallow) (flows.entry.of_error none), .leave _,
      standing.failAt flows _ _⟩
  | enter shallow found rest ih =>
    cases works with
    | walk flows =>
    obtain ⟨entry, found', parts⟩ := flows.entry.of_ok found
    obtain ⟨reply', t', rest', replies, standing'⟩ := ih (.goOn flows _) standing unhit
    cases replies with
    | leave =>
    rw [← parts.uid] at rest'
    exact ⟨_, _, .enter (standing.context ▸ shallow) found' rest', .leave _, standing'⟩
  | canceled stopped =>
    cases works with
    | goOn flows =>
    exact ⟨_, _, .canceled (standing.ledger.canceled.trans stopped), .leave _, standing⟩
  | missing live none =>
    cases works with
    | goOn flows =>
    exact ⟨_, _, .missing (standing.ledger.canceled.trans live) (rel_of_none (flows.part _) none),
      .leave _, standing.failAt flows _ _⟩
  | @refused flow uid part st live found full =>
    cases works with
    | goOn flows =>
    obtain ⟨part', found', parts⟩ := rel_of_some (flows.part uid) found
    -- A refusal is the only thing that tells the ceilings apart, so there is no slack here.
    obtain rfl := unhit.of_refused
    have full' : t.ledger.ceiling ≤ t.ledger.executed := by
      have ceiling := standing.ledger.ceiling
      have executed := standing.ledger.executed
      omega
    exact ⟨_, _, .refused (standing.ledger.canceled.trans live) found' full', .leave _,
      standing.count.refuse flows parts⟩
  | @last flow uid part st st₁ st₂ reply exit live found room work leads ih =>
    cases works with
    | goOn flows =>
    obtain ⟨part', found', parts⟩ := rel_of_some (flows.part uid) found
    obtain ⟨reply', t₁, work', replies, standing₁⟩ :=
      ih (.attempt flows parts) (standing.count.start flows parts) (unhit.turn work leads)
    obtain ⟨turn', t₂, leads', turns, standing₂⟩ := replies.follow flows parts standing₁ leads
    cases turns with
    | leave =>
    exact ⟨_, _, .last (standing.ledger.canceled.trans live) found' (standing.ledger.room room)
      work' leads', .leave exit, standing₂⟩
  | @next flow flow' uid uid' part st st₁ st₂ st₃ reply exit live found room work leads rest
      ih ih' =>
    cases works with
    | goOn flows =>
    obtain ⟨part', found', parts⟩ := rel_of_some (flows.part uid) found
    obtain ⟨before, after⟩ := unhit.split (work.onward_turn leads).ledger rest.onward.ledger
    obtain ⟨reply', t₁, work', replies, standing₁⟩ :=
      ih (.attempt flows parts) (standing.count.start flows parts) (before.turn work leads)
    obtain ⟨turn', t₂, leads', turns, standing₂⟩ := replies.follow flows parts standing₁ leads
    cases turns with
    | goOn flows' =>
    obtain ⟨reply'', t₃, rest', replies', standing₃⟩ := ih' (.goOn flows' uid') standing₂ after
    cases replies' with
    | leave =>
    exact ⟨_, _, .next (standing.ledger.canceled.trans live) found' (standing.ledger.room room)
      work' leads' rest', .leave exit, standing₃⟩
  | @unresolved flow part st e task =>
    cases works with
    | attempt flows parts =>
    have task' := (standing.ofPart registries parts).of_error task
    exact ⟨_, _, .unresolved task', .done _, standing.inContext rfl⟩
  | @marker flow part st result task =>
    cases works with
    | attempt flows parts =>
    obtain ⟨_, task', tasks⟩ := (standing.ofPart registries parts).of_ok task
    cases tasks with
    | subFlowOutput =>
    exact ⟨_, _, .marker task', .leave _, standing.note flows parts result⟩
  | @lost flow target part st e task none =>
    cases works with
    | attempt flows parts =>
    obtain ⟨_, task', tasks⟩ := (standing.ofPart registries parts).of_ok task
    cases tasks with
    | gotoFlow targets =>
    refine ⟨_, _, .lost task' (targets.entry.of_error none), .leave _, ?_⟩
    rw [parts.displayName]
    exact standing.failAt flows _ _
  | @switch flow target part entry st task found =>
    cases works with
    | attempt flows parts =>
    obtain ⟨_, task', tasks⟩ := (standing.ofPart registries parts).of_ok task
    cases tasks with
    | gotoFlow targets =>
    obtain ⟨entry', found', entries⟩ := targets.entry.of_ok found
    refine ⟨_, _, .switch task' found', ?_, standing.inContext ?_⟩
    · rw [entries.uid]
      exact .goOn targets _
    · rw [targets.vars]
  | @input flow part st task =>
    cases works with
    | attempt flows parts =>
    obtain ⟨_, task', tasks⟩ := (standing.ofPart registries parts).of_ok task
    cases tasks with
    | subFlowInput => exact ⟨_, _, .input task', .done _, standing⟩
  | @call flow target part st st' properties exit task walk ih =>
    cases works with
    | attempt flows parts =>
    obtain ⟨_, task', tasks⟩ := (standing.ofPart registries parts).of_ok task
    cases tasks with
    | subFlow targets =>
    obtain ⟨reply', t', walk', replies, standing'⟩ :=
      ih (.walk targets) (standing.callStart targets properties) unhit
    cases replies with
    | leave =>
    exact ⟨_, _, .call task' walk', .done _, standing.callEnd standing' targets properties⟩
  | @barred flow part st step executes bars =>
    cases works with
    | attempt flows parts =>
    have executes' := (standing.step? registries parts).trans executes
    rw [← standing.context, ← standing.moment] at bars
    exact ⟨_, _, .barred executes' bars, .leave _, (standing.checked step).bar flows parts⟩
  | @plain flow part st actions executes admits =>
    cases works with
    | attempt flows parts =>
    have executes' := (standing.step? registries parts).trans executes
    have acted := (standing.checked (.acting actions)).act (sites.run executes)
    rw [← standing.context, ← standing.moment] at admits
    refine ⟨_, _, .plain executes' admits, ?_, acted.2⟩
    rw [acted.1]
    exact .done _
  | @unplanned flow part st e reason executes admits plan =>
    cases works with
    | attempt flows parts =>
    have executes' := (standing.step? registries parts).trans executes
    have checked := standing.checked (.eachFile e)
    have plan' := (checked.plan sites registries e).of_error plan
    rw [← standing.context] at admits
    exact ⟨_, _, .unplanned executes' admits plan', .done _, checked.inContext rfl⟩
  | @nothing flow target part st e executes admits plan =>
    cases works with
    | attempt flows parts =>
    have executes' := (standing.step? registries parts).trans executes
    have checked := standing.checked (.eachFile e)
    obtain ⟨⟨target', files'⟩, plan', targets, same⟩ := (checked.plan sites registries e).of_ok plan
    cases same
    rw [← standing.context] at admits
    exact ⟨_, _, .nothing executes' admits plan', .done _, checked⟩
  | @iterate flow target part st st' e file files result executes admits plan visits ih =>
    cases works with
    | attempt flows parts =>
    have executes' := (standing.step? registries parts).trans executes
    have checked := standing.checked (.eachFile e)
    obtain ⟨⟨target', files'⟩, plan', targets, same⟩ := (checked.plan sites registries e).of_ok plan
    cases same
    rw [← standing.context] at admits
    obtain ⟨-, inner⟩ := unhit.split (Standing.Onward.absorb st _ _).ledger visits.onward.ledger
    obtain ⟨reply', t', visits', replies, standing'⟩ := ih (.visit targets _ _ _) checked inner
    cases replies with
    | done =>
    exact ⟨_, _, .iterate executes' admits plan' visits', .done _, standing'⟩
  | visitedAll =>
    cases works with
    | visit flows => exact ⟨_, _, .visitedAll, .done _, standing⟩
  | visitCanceled stopped =>
    cases works with
    | visit flows =>
    exact ⟨_, _, .visitCanceled (standing.ledger.canceled.trans stopped), .done _, standing⟩
  | @visitNext flow total done file files st st₁ st₂ exit result live walk graded rest ih ih' =>
    cases works with
    | visit flows =>
    obtain ⟨before, after⟩ := unhit.split walk.onward.ledger
      ((Ledger.Onward.tell _ _).trans rest.onward.ledger)
    obtain ⟨-, after⟩ := after.split (.tell _ _) rest.onward.ledger
    obtain ⟨reply', t₁, walk', replies, standing₁⟩ :=
      ih (.walk flows) (standing.fileStart flows file) before
    cases replies with
    | leave =>
    obtain ⟨reply'', t₂, rest', replies', standing₂⟩ :=
      ih' (.visit flows total (done + 1) files) ((standing.back standing₁).tell _) after
    cases replies' with
    | done =>
    exact ⟨_, _, .visitNext (standing.ledger.canceled.trans live) walk' graded rest', .done _,
      standing₂⟩
  | @fileCanceled flow total done file files st st' exit live walk graded ih =>
    cases works with
    | visit flows =>
    obtain ⟨reply', t', walk', replies, standing'⟩ :=
      ih (.walk flows) (standing.fileStart flows file) unhit
    cases replies with
    | leave =>
    exact ⟨_, _, .fileCanceled (standing.ledger.canceled.trans live) walk' graded, .done _,
      standing.back standing'⟩
  | @fileTerminal flow total done file files st st' exit live walk graded ih =>
    cases works with
    | visit flows =>
    obtain ⟨reply', t', walk', replies, standing'⟩ :=
      ih (.walk flows) (standing.fileStart flows file) unhit
    cases replies with
    | leave =>
    exact ⟨_, _, .fileTerminal (standing.ledger.canceled.trans live) walk' graded, .done _,
      (standing.back standing').adopt standing'⟩
  | @fileFailed flow total done file files st st' exit live walk graded ih =>
    cases works with
    | visit flows =>
    obtain ⟨reply', t', walk', replies, standing'⟩ :=
      ih (.walk flows) (standing.fileStart flows file) unhit
    cases replies with
    | leave =>
    exact ⟨_, _, .fileFailed (standing.ledger.canceled.trans live) walk' graded, .done _,
      ((standing.back standing').adopt standing').inContext rfl⟩

/-- What the runs of flows that are alike report at standings that are alike. -/
theorem Standing.Alike.report {flow flow' : Flow} {st t : Standing} (h : st.Alike slack t)
    (flows : flow.Alike flow') (exit : Exit) :
    (reportRun flow' exit t).1 = (reportRun flow exit st).1 ∧
      (reportRun flow exit st).2.Alike slack (reportRun flow' exit t).2 := by
  have reason :
      runReason flow' t.context exit.runState = runReason flow st.context exit.runState := by
    unfold runReason
    rw [h.context, flows.name]
  unfold reportRun Ledger.executedSteps
  dsimp only
  rw [reason, h.context, h.ledger.records]
  refine ⟨rfl, ?_⟩
  split
  · exact h.inContext rfl
  · exact h

/-- **Whole runs go in lockstep**: from starts that are alike they report the same, and they end at
standings that are alike. -/
theorem runFlow_lockstep (sites : site.Alike registry site') (registries : registry.Alike registry')
    {flow flow' : Flow} (flows : flow.Alike flow') {st t : Standing}
    (starts : (prepareRun site flow st).Alike slack (prepareRun site' flow' t))
    (unhit : Ledger.Unhit slack (prepareRun site flow st).ledger
      (runFlow site registry flow st).2.ledger) :
    (runFlow site' registry' flow' t).1 = (runFlow site registry flow st).1 ∧
      (runFlow site registry flow st).2.Alike slack (runFlow site' registry' flow' t).2 := by
  obtain ⟨exit, final, walk, run⟩ := runFlow_comesTo site registry flow st
  rw [run, reportRun_ledger] at unhit
  obtain ⟨reply', final', walk', replies, ends⟩ :=
    walk.lockstep sites registries (.walk flows) starts unhit
  cases replies with
  | leave =>
  have run' : runFlow site' registry' flow' t = reportRun flow' exit final' := by
    unfold runFlow
    rw [comesTo_walk_iff.1 walk']
  rw [run, run']
  exact ends.report flows exit

end

end FlowGraph
