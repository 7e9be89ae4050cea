import FlowGraph.Proofs.Reach
import Mathlib.Data.List.Chain
import Mathlib.Data.List.Perm.Subperm
import Mathlib.Logic.Relation

/-!
# Walks of flows without cycles

Uids are the nodes of a flow's graph, and every connection of a part, whether of an output or of
its failure, is an edge from the uid of the part. A walk that never switches to another flow goes
on along edges, so that in a graph without cycles it comes to no uid twice. The uids that it
counts are a path (`Flow.Passed`); what the parts do on the way does not matter, nor whether two
of them have one uid.
-/

namespace FlowGraph

namespace Flow

/-- A connection leads from a part of one uid to another uid. -/
def Edge (flow : Flow) (u v : Uuid) : Prop :=
  ∃ p ∈ flow.parts, p.uid = u ∧
    ∃ c ∈ p.outputConnections ++ p.errorConnection.toList, c.target = v

/-- No way along connections comes back to where it began. -/
def IsAcyclic (flow : Flow) : Prop := ∀ u, ¬ Relation.TransGen flow.Edge u u

/-- No part asks for a switch to another flow. -/
def Stays (flow : Flow) : Prop := ∀ p ∈ flow.parts, ∀ target, p.stepRef ≠ .ok (.gotoFlow target)

/-- A graph is without cycles if a number rises along every connection. -/
theorem isAcyclic_of_rank {flow : Flow} (rank : Uuid → Nat)
    (rises : ∀ u v, flow.Edge u v → rank u < rank v) : flow.IsAcyclic := by
  have forward {u v : Uuid} (way : Relation.TransGen flow.Edge u v) : rank u < rank v := by
    induction way with
    | single edge => exact rises _ _ edge
    | tail _ edge ih => exact Nat.lt_trans ih (rises _ _ edge)
  intro u way
  exact Nat.lt_irrefl _ (forward way)

/-- A path in a graph without cycles comes to no uid twice. -/
theorem IsAcyclic.nodup {flow : Flow} (acyclic : flow.IsAcyclic) {path : List Uuid}
    (chain : path.IsChain flow.Edge) : path.Nodup := by
  have ways : path.IsChain (Relation.TransGen flow.Edge) := chain.imp fun _ _ => .single
  have onward : path.Pairwise (Relation.TransGen flow.Edge) := List.isChain_iff_pairwise.1 ways
  refine onward.imp ?_
  rintro u v way rfl
  exact acyclic u way

/-- The uids that the walk of a flow counts are a path from the one that it goes on at, and the
parts that it starts at its depth are those of the path, but for a last one that is refused. -/
structure Passed (flow : Flow) (uid : Uuid) (depth : Nat) (news : List Event)
    (path : List Uuid) : Prop where
  begins : ∀ v ∈ path.head?, v = uid
  chain : path.IsChain flow.Edge
  there : path ⊆ flow.parts.map Part.uid
  starts : ∃ visits : List (Part × Context),
    news.reverse.filterMap (Event.startAt? depth) = visits.map (fun v => (flow, v.1, v.2)) ∧
      (∀ v ∈ visits, v.1 ∈ flow.parts) ∧ visits.map (fun v => v.1.uid) <+: path

/-- From one standing to the other every part that starts at the depth is one of this flow, and no
two of them have one uid. -/
def StartsOnce (flow : Flow) (st st' : Standing) : Prop :=
  ∃ visits : List (Part × Context),
    (st'.ledger.since st.ledger).reverse.filterMap (Event.startAt? st.context.depth) =
        visits.map (fun v => (flow, v.1, v.2)) ∧
      (∀ v ∈ visits, v.1 ∈ flow.parts) ∧ (visits.map fun v => v.1.uid).Nodup

/-- A walk that starts nothing has passed nothing. -/
theorem Passed.still (flow : Flow) (uid : Uuid) {depth : Nat} {news : List Event}
    (quiet : news.reverse.filterMap (Event.startAt? depth) = []) :
    flow.Passed uid depth news [] where
  begins := nofun
  chain := .nil
  there := List.nil_subset _
  starts := ⟨[], quiet, nofun, List.prefix_refl _⟩

/-- A part that is refused is on the path and does not start. -/
theorem Passed.refused {flow : Flow} {part : Part} (there : part ∈ flow.parts) (depth : Nat) :
    flow.Passed part.uid depth [.refused flow part] [part.uid] where
  begins v head := by simpa using head.symm
  chain := .singleton _
  there := by simpa using ⟨part, there, rfl⟩
  starts := ⟨[], rfl, nofun, List.nil_prefix⟩

/-- A turn after which the walk ends. -/
theorem Passed.last {flow : Flow} {part : Part} {c : Context} {depth : Nat} {news : List Event}
    (there : part ∈ flow.parts)
    (starts : news.reverse.filterMap (Event.startAt? depth) = [(flow, part, c)]) :
    flow.Passed part.uid depth news [part.uid] where
  begins v head := by simpa using head.symm
  chain := .singleton _
  there := by simpa using ⟨part, there, rfl⟩
  starts := ⟨[(part, c)], starts, by simpa using there, List.prefix_refl _⟩

/-- A turn after which the walk goes on along an edge. -/
theorem Passed.next {flow : Flow} {part : Part} {c : Context} {uid : Uuid} {depth : Nat}
    {news later : List Event} {path : List Uuid} (there : part ∈ flow.parts)
    (starts : news.reverse.filterMap (Event.startAt? depth) = [(flow, part, c)])
    (edge : flow.Edge part.uid uid) (rest : flow.Passed uid depth later path) :
    flow.Passed part.uid depth (later ++ news) (part.uid :: path) := by
  obtain ⟨visits, starts', among, pre⟩ := rest.starts
  constructor
  · intro v head
    simpa using head.symm
  · refine List.isChain_cons.2 ⟨?_, rest.chain⟩
    intro v head
    rw [rest.begins v head]
    exact edge
  · exact List.cons_subset.2 ⟨List.mem_map_of_mem there, rest.there⟩
  · refine ⟨(part, c) :: visits, ?_, List.forall_mem_cons.2 ⟨there, among⟩, ?_⟩
    · rw [List.reverse_append, List.filterMap_append, starts, starts']
      rfl
    · exact List.cons_prefix_cons.2 ⟨rfl, pre⟩

/-- The uids that a walk has counted are no more than the parts of its flow. -/
theorem Passed.length_le {flow : Flow} {uid : Uuid} {depth : Nat} {news : List Event}
    {path : List Uuid} (h : flow.Passed uid depth news path) (acyclic : flow.IsAcyclic) :
    path.length ≤ flow.parts.length := by
  have within := (List.subperm_of_subset (acyclic.nodup h.chain) h.there).length_le
  rwa [List.length_map] at within

/-- What has passed along a path without cycles has started no part twice. -/
theorem Passed.startsOnce {flow : Flow} {uid : Uuid} {st st' : Standing} {path : List Uuid}
    (h : flow.Passed uid st.context.depth (st'.ledger.since st.ledger) path)
    (acyclic : flow.IsAcyclic) : flow.StartsOnce st st' := by
  obtain ⟨visits, starts, among, pre⟩ := h.starts
  exact ⟨visits, starts, among, (acyclic.nodup h.chain).sublist pre.sublist⟩

end Flow

/-- The part is there for a script, or for a step that walks no flow for files. -/
def Part.WalksNoFlow (registry : Registry) (p : Part) : Prop :=
  (∃ name, p.stepRef = .ok (.script name)) ∨
    ∃ name, p.stepRef = .ok (.native name) ∧
      ∀ m e, registry.create? name m ≠ some (.eachFile e)

section
variable {site : Site} {registry : Registry}

/-! ## Where turns lead -/

/-- A part that asks for a switch says so itself. -/
theorem Task.stepRef_of_gotoFlow {vars : Variables} {part : Part} {target : Flow}
    (asks : Task.ofPart registry vars part = .ok (.gotoFlow target)) :
    ∃ uid, part.stepRef = .ok (.gotoFlow uid) := by
  unfold Task.ofPart at asks
  split at asks
  · rename_i ref designated
    cases ref with
    | gotoFlow uid => exact ⟨uid, designated⟩
    | subFlow uid =>
      obtain ⟨_, _, same⟩ := Task.mem_of_withFlow asks
      cases same
    | subFlowInput => cases asks
    | script name | native name | subFlowOutput suffix =>
      simp only [Task.ofRef] at asks
      split at asks
      · cases asks
      · cases asks
  · cases asks

/-- A result leads along an edge. -/
theorem edge_of_next? {flow : Flow} {part : Part} {result : StepResult} {uid : Uuid}
    (there : part ∈ flow.parts) (h : Turn.next? flow part result = some uid) :
    flow.Edge part.uid uid := by
  obtain ⟨c, connects, rfl⟩ : ∃ c, Turn.connection? part result = some c ∧ c.target = uid := by
    have target := Option.eq_some_of_filter_eq_some h
    exact Option.map_eq_some_iff.1 target
  refine ⟨part, there, rfl, c, ?_, rfl⟩
  cases result with
  | output n => exact List.mem_append_left _ (List.mem_of_find?_eq_some connects)
  | failure =>
    have connects : part.errorConnection = some c := connects
    refine List.mem_append_right _ ?_
    rw [connects]
    exact List.mem_singleton_self c
  | completed | canceled | terminalExit => cases connects

/-- A turn of a part that asks for no switch leads along an edge of its flow. -/
theorem ComesTo.edge_of_follow {flow flow' : Flow} {part : Part} {uid : Uuid}
    {st st₁ st₂ : Standing} {reply : Reply}
    (work : ComesTo site registry (.attempt flow part) st reply st₁) (stays : flow.Stays)
    (there : part ∈ flow.parts)
    (leads : Turn.follow flow part (reply, st₁) = (.goOn flow' uid, st₂)) :
    flow' = flow ∧ flow.Edge part.uid uid := by
  cases reply with
  | done result =>
    simp only [Turn.follow, Turn.route] at leads
    split at leads
    · cases leads
      exact ⟨rfl, edge_of_next? there ‹_›⟩
    · cases leads
  | leave exit => cases leads
  | goOn target entry =>
    cases work with
    | switch task found =>
      obtain ⟨target, designated⟩ := Task.stepRef_of_gotoFlow task
      exact absurd designated (stays part there target)

/-! ## What a walk counts -/

theorem Part.WalksNoFlow.executesStep {part : Part} (h : part.WalksNoFlow registry) :
    part.ExecutesStep := by
  obtain script | ⟨name, native, -⟩ := h
  · exact .inr script
  · exact .inl ⟨name, native⟩

theorem Part.WalksNoFlow.step?_ne {part : Part} (h : part.WalksNoFlow registry) {vars : Variables}
    {e : EachFile} : part.step? registry vars ≠ some (.eachFile e) := by
  intro executes
  unfold Part.step? Task.ofPart at executes
  obtain ⟨name, ref⟩ | ⟨name, ref, makes⟩ := h
  · simp only [ref, Task.ofRef] at executes
    split at executes
    · cases executes
    · cases executes
  · simp only [ref, Task.ofRef] at executes
    split at executes
    · cases executes
      exact makes _ _ ‹_›
    · cases executes

/-- A part that walks no flow counts nothing when it is executed. -/
theorem ComesTo.executed_attempt {flow : Flow} {part : Part} {st st' : Standing} {reply : Reply}
    (h : ComesTo site registry (.attempt flow part) st reply st')
    (alone : part.WalksNoFlow registry) : st'.ledger.executed = st.ledger.executed := by
  cases h with
  | marker task | lost task | switch task | input task | call task =>
    cases alone.executesStep.step?_isSome task
  | unresolved task => rfl
  | barred executes bars =>
    rw [Turn.bar_ledger, Ledger.enter_executed, Turn.checked_ledger, Ledger.tell_executed]
  | plain executes admits => exact (Ledger.tell_executed _ _).trans (Ledger.tell_executed _ _)
  | unplanned executes | nothing executes | iterate executes => exact absurd executes alone.step?_ne

/-- A turn at a part that walks no flow counts one part. -/
theorem ComesTo.executed_turn {flow : Flow} {part : Part} {st st₁ st₂ : Standing} {reply : Reply}
    {turn : Turn} (work : ComesTo site registry (.attempt flow part)
      (Turn.start flow part st.count) reply st₁)
    (leads : Turn.follow flow part (reply, st₁) = (turn, st₂))
    (alone : part.WalksNoFlow registry) : st₂.ledger.executed = st.ledger.executed + 1 := by
  have followed : st₂.ledger.executed = st₁.ledger.executed := by
    obtain ⟨result, -, ledger⟩ | ledger := follow_ledger leads
    · rw [ledger]
      rfl
    · rw [ledger]
  have started : (Turn.start flow part st.count).ledger.executed = st.ledger.executed + 1 := by
    rw [Turn.start_ledger]
    rfl
  rw [followed, work.executed_attempt alone, started]

/-- **Going on in a flow without switches is a path in its graph.** -/
theorem ComesTo.passed {flow : Flow} (stays : flow.Stays) {work : Work} {st st' : Standing}
    {reply : Reply} (h : ComesTo site registry work st reply st') {uid : Uuid} {news : List Event}
    (goesOn : work = .goOn flow uid) (shallow : st.context.depth ≤ maxFlowDepth)
    (journal : st'.ledger.journal = news ++ st.ledger.journal) :
    ∃ path, flow.Passed uid st.context.depth news path ∧
      ((∀ p ∈ flow.parts, p.WalksNoFlow registry) →
        st'.ledger.executed = st.ledger.executed + path.length) := by
  induction h generalizing uid news with
  | canceled stopped =>
    cases goesOn
    obtain rfl : [] = news := List.append_cancel_right journal
    exact ⟨[], .still flow _ rfl, fun _ => rfl⟩
  | missing live none =>
    cases goesOn
    obtain rfl : [] = news := List.append_cancel_right journal
    exact ⟨[], .still flow _ rfl, fun _ => rfl⟩
  | @refused _ _ part st live found full =>
    cases goesOn
    obtain ⟨there, rfl⟩ := Flow.part?_eq_some found
    obtain rfl : [.refused flow part] = news := List.append_cancel_right journal
    exact ⟨_, .refused there _, fun _ => rfl⟩
  | @last _ _ part st st₁ st₂ _ _ live found room work leads =>
    cases goesOn
    obtain ⟨there, rfl⟩ := Flow.part?_eq_some found
    obtain ⟨turn, journal', starts⟩ := work.starts_turn leads shallow
    cases List.append_cancel_right (journal.symm.trans journal')
    exact ⟨_, .last there starts, fun alone => work.executed_turn leads (alone part there)⟩
  | @next _ _ _ _ part st st₁ st₂ st₃ _ _ live found room work leads rest ih ih' =>
    cases goesOn
    obtain ⟨there, rfl⟩ := Flow.part?_eq_some found
    obtain ⟨turn, journal', starts⟩ := work.starts_turn leads shallow
    obtain ⟨rfl, edge⟩ := work.edge_of_follow stays there leads
    have same := (work.depth_turn leads).2
    obtain ⟨path, passed, counts⟩ := ih' rfl (same ▸ shallow) rest.books.journal
    have whole : news = st₃.ledger.since st₂.ledger ++ turn := by
      refine List.append_cancel_right (journal.symm.trans (rest.books.journal.trans ?_))
      rw [journal', List.append_assoc]
    rw [same] at passed
    rw [whole]
    refine ⟨_, passed.next there starts edge, ?_⟩
    intro alone
    rw [counts alone, work.executed_turn leads (alone part there), List.length_cons]
    omega
  | _ => cases goesOn

/-- The walk of a flow without switches is a path in its graph. -/
theorem ComesTo.passed_walk {flow : Flow} (stays : flow.Stays) {st st' : Standing} {reply : Reply}
    (h : ComesTo site registry (.walk flow) st reply st') :
    ∃ uid path, flow.Passed uid st.context.depth (st'.ledger.since st.ledger) path ∧
      ((∀ p ∈ flow.parts, p.WalksNoFlow registry) →
        st'.ledger.executed = st.ledger.executed + path.length) := by
  have journal := h.books.journal
  cases h with
  | tooDeep deep =>
    rw [Ledger.since_eq (show _ = [.tooDeep flow] ++ st.ledger.journal from rfl)]
    exact ⟨default, [], .still flow _ rfl, fun _ => rfl⟩
  | noEntry shallow none =>
    rw [Standing.failAt_ledger, Ledger.since_eq (List.nil_append _).symm]
    exact ⟨default, [], .still flow _ rfl, fun _ => rfl⟩
  | enter shallow found rest =>
    exact ⟨_, rest.passed stays rfl shallow journal⟩

end

/-- **In a flow without cycles every part starts at most once in each walk.** If no part of the
flow asks for a switch, the parts that a walk of it starts, from wherever the run stands, are
parts of the flow no two of which have one uid; what starts deeper belongs to other walks. It is
so if the walk begins in this flow, and if it comes from another one by a switch, at whatever
part. If moreover the parts are there for scripts and for steps that walk no flow, and the ceiling
leaves room for as many as the flow has, then a run counts no more than these and none is
refused. -/
theorem acyclic_flow_starts_no_part_twice (site : Site) (registry : Registry) (flow : Flow)
    (st : Standing) (stays : flow.Stays) (acyclic : flow.IsAcyclic) :
    flow.StartsOnce st (walkFlow site registry flow st).2 ∧
      (∀ uid, st.context.depth ≤ maxFlowDepth →
        flow.StartsOnce st
          (Walk.turns site registry (nestedWalk site registry st) flow uid st).2) ∧
      ((∀ p ∈ flow.parts, p.WalksNoFlow registry) →
        st.ledger.executed + flow.parts.length ≤ site.settings.stepCeiling flow.maxNodes →
        (runFlow site registry flow st).2.ledger.executed ≤
            st.ledger.executed + flow.parts.length ∧
          ∀ f p, .refused f p ∉ (runFlow site registry flow st).2.ledger.since st.ledger) := by
  refine ⟨?_, ?_, ?_⟩
  · have walk : ComesTo site registry (.walk flow) st _ _ := comesTo_walk_iff.2 rfl
    obtain ⟨uid, path, passed, -⟩ := walk.passed_walk stays
    exact passed.startsOnce acyclic
  · intro uid shallow
    have inner := walksEndAt site registry (st.context.depth + 1)
    obtain ⟨exit, final, goesOn⟩ := (ends_goOn flow uid st inner).exit_goOn
    obtain ⟨path, passed, -⟩ := goesOn.passed stays rfl shallow goesOn.books.journal
    have reached : (Walk.turns site registry (nestedWalk site registry st) flow uid st).2 = final :=
      congrArg Prod.snd goesOn.value
    rw [reached]
    exact passed.startsOnce acyclic
  · intro alone room
    obtain ⟨exit, final, walk, run⟩ := runFlow_comesTo site registry flow st
    obtain ⟨uid, path, passed, counts⟩ := walk.passed_walk stays
    have counted : final.ledger.executed = st.ledger.executed + path.length := counts alone
    have within := passed.length_le acyclic
    rw [run, reportRun_ledger]
    refine ⟨by omega, ?_⟩
    intro f p refused
    have some : 0 < (final.ledger.since st.ledger).countP Event.isRefusal :=
      List.countP_pos_iff.2 ⟨_, refused, rfl⟩
    have above : site.settings.stepCeiling flow.maxNodes < final.ledger.executed :=
      walk.books.above some
    omega

namespace Sample

/-- The flow of three steps with a second part of a uid that is taken. -/
def doubled : Flow :=
  { stepping with parts := [opening, unknown, { closing with uid := uid 2 }, closing],
                  maxNodes := some 4 }

theorem forall_doubled {P : Part → Prop} (opens : P opening) (absent : P unknown)
    (second : P { closing with uid := uid 2 }) (closes : P closing) :
    ∀ p ∈ doubled.parts, P p := by
  simp only [doubled, List.forall_mem_cons]
  exact ⟨opens, absent, second, closes, by simp⟩

theorem stays_doubled : doubled.Stays :=
  forall_doubled (by simp [stepRef_opening]) (by simp [stepRef_unknown])
    (by
      have ref : ({ closing with uid := uid 2 } : Part).stepRef = closing.stepRef := rfl
      simp [ref, stepRef_closing])
    (by simp [stepRef_closing])

/-- Every connection of the flow leads to a greater uid. -/
theorem acyclic_doubled : doubled.IsAcyclic := by
  refine Flow.isAcyclic_of_rank
    (fun u => if u = uid 1 then 1 else if u = uid 2 then 2 else 3) ?_
  rintro u v ⟨p, there, rfl, c, connects, rfl⟩
  revert c
  revert p
  exact forall_doubled (by decide) (by decide) (by decide) (by decide)

theorem walksNoFlow_doubled : ∀ p ∈ doubled.parts, p.WalksNoFlow scripts :=
  forall_doubled (.inl ⟨_, stepRef_opening⟩)
    (.inr ⟨_, stepRef_unknown, fun m e made => by cases made⟩)
    (.inl ⟨_, stepRef_closing⟩) (.inl ⟨_, stepRef_closing⟩)

end Sample

/-- A run of the flow in which two parts have one uid stays within its four parts, and no uid
starts twice, neither in a walk from its entry nor in one that comes to the doubled uid. -/
theorem doubled_uid_starts_once :
    (runFlow Sample.site Sample.scripts Sample.doubled Sample.start).2.ledger.executed ≤ 4 ∧
      Sample.doubled.StartsOnce Sample.start
        (walkFlow Sample.site Sample.scripts Sample.doubled Sample.start).2 ∧
      Sample.doubled.StartsOnce Sample.start
        (Walk.turns Sample.site Sample.scripts
          (nestedWalk Sample.site Sample.scripts Sample.start) Sample.doubled (Sample.uid 2)
          Sample.start).2 := by
  obtain ⟨walk, goingOn, bound⟩ := acyclic_flow_starts_no_part_twice Sample.site
    Sample.scripts Sample.doubled Sample.start Sample.stays_doubled Sample.acyclic_doubled
  have room : Sample.start.ledger.executed + Sample.doubled.parts.length ≤
      Sample.site.settings.stepCeiling Sample.doubled.maxNodes := by decide
  have shallow : Sample.start.context.depth ≤ maxFlowDepth := by decide
  obtain ⟨counted, -⟩ := bound Sample.walksNoFlow_doubled room
  exact ⟨counted, walk, goingOn (Sample.uid 2) shallow⟩

end FlowGraph
