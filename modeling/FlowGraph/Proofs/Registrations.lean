import FlowGraph.Proofs.ByteOrder
import FlowGraph.Proofs.InnerPaths
import FlowGraph.Proofs.Lookup
import FlowGraph.Proofs.References
import FlowGraph.Registration

/-!
# What is registered last is what is found

What a registry has under a key is what was registered last under it, whatever the order of the
rest. The flows themselves are in no order, so the lookups that go through all of them, by name and
for a failure flow, must not depend on one: they do not where no two flows have the same name up to
letter case. The failure flow that nobody chose is the one of the least name, by its bytes.
-/

namespace FlowGraph

namespace Registration

/-- The flows that a registration gives. -/
def flows : Registration → List Flow
  | .flow f => [f]
  | .flowsIn files folder => (files.loadFlows folder).toOption.getD []
  | _ => []

/-- The scripts that a registration gives, by name. -/
def scripts : Registration → List (String × String)
  | .script name source => [(name, source)]
  | .scriptsIn files folder => (files.loadScripts folder).toOption.getD []
  | _ => []

/-- The failure flow that a registration chooses. -/
def choice? : Registration → Option Uuid
  | .failureFlow uid => some uid
  | _ => none

variable (regs : List Registration)

/-- The flow that is registered last under a uid. -/
def lastFlow? (uid : Uuid) : Option Flow :=
  ((regs.flatMap flows).filter fun f => f.uid == uid).getLast?

/-- The source that is registered last under the name of a script. -/
def lastSource? (name : String) : Option String :=
  ((regs.flatMap scripts).filter fun s => s.1 == name).getLast?.map Prod.snd

/-- The failure flow that is chosen last. -/
def lastChoice? : Option Uuid := (regs.filterMap choice?).getLast?

/-- No other flow is registered after this one under its uid. -/
def Survives (f : Flow) : Prop := lastFlow? regs f.uid = some f

/-- No two of the flows that survive have the same name, up to the case of ASCII letters. -/
def HaveDistinctNames : Prop :=
  ∀ f g, Survives regs f → Survives regs g → f.uid ≠ g.uid →
    Text.eqIgnoringCase f.name g.name = false

/-- The flow is one of the failure flows that survive, and it has the least name of these. -/
def IsLeastFailureFlow (f : Flow) : Prop :=
  Survives regs f ∧ f.kind = .failure ∧
    ∀ g, Survives regs g → g.kind = .failure → g ≠ f → Text.bytes f.name < Text.bytes g.name

/-- The same is registered last under every key. -/
structure EndAlike (regs regs' : List Registration) : Prop where
  flow : ∀ uid, lastFlow? regs uid = lastFlow? regs' uid
  source : ∀ name, lastSource? regs name = lastSource? regs' name
  choice : lastChoice? regs = lastChoice? regs'

variable {regs}

theorem Survives.mem {f : Flow} (survives : Survives regs f) : f ∈ regs.flatMap flows := by
  have mem := List.mem_of_getLast? survives
  exact (List.mem_filter.1 mem).1

end Registration

namespace Registry

open Registration

/-- A registry that some registrations build, with its flows in any order. -/
def IsBuiltBy (r : Registry) (regs : List Registration) : Prop :=
  ∃ made, ofRegistrations regs = .ok made ∧ r.steps = made.steps ∧ r.flows.Perm made.flows ∧
    r.scripts = made.scripts ∧ r.failureFlowUid = made.failureFlowUid

/-- A registry has what is registered last under each key, or else what another one has. -/
structure Adds (r : Registry) (regs : List Registration) (made : Registry) : Prop where
  flow : ∀ uid, made.flow? uid = (lastFlow? regs uid).or (r.flow? uid)
  source : ∀ name, made.scripts.get? name = (lastSource? regs name).or (r.scripts.get? name)
  choice : made.failureFlowUid = (lastChoice? regs).or r.failureFlowUid

/-! ## Building -/

/-- Of what is put in one after the other, what comes last under a key is found. -/
theorem lookup_foldl {σ α κ β : Type} [DecidableEq κ] {put : σ → α → σ} {look : σ → κ → Option β}
    {key : α → κ} (value : α → β)
    (once : ∀ s x k, look (put s x) k = if key x = k then some (value x) else look s k)
    (xs : List α) (s : σ) (k : κ) :
    look (xs.foldl put s) k =
      ((xs.filter fun x => key x == k).getLast?.map value).or (look s k) := by
  induction xs generalizing s with
  | nil => rfl
  | cons x xs ih =>
    rw [List.foldl_cons, ih, once, List.filter_cons]
    by_cases same : key x = k
    · rw [if_pos same, if_pos (beq_iff_eq.2 same), List.getLast?_cons]
      cases (xs.filter fun x => key x == k).getLast? <;> rfl
    · rw [if_neg same, if_neg (by simpa using same)]

theorem flow?_withFlows (r : Registry) (fs : List Flow) (uid : Uuid) :
    (r.withFlows fs).flow? uid =
      (fs.filter fun f => f.uid == uid).getLast?.or (r.flow? uid) := by
  have found := lookup_foldl id flow?_withFlow fs r uid
  rwa [Option.map_id] at found

/-- Registering flows leaves the rest of a registry as it is. -/
theorem withFlows_rest (r : Registry) (fs : List Flow) :
    (r.withFlows fs).scripts = r.scripts ∧ (r.withFlows fs).failureFlowUid = r.failureFlowUid := by
  induction fs generalizing r with
  | nil => exact ⟨rfl, rfl⟩
  | cons f fs ih => exact ih (r.withFlow f)

theorem get?_withScripts (r : Registry) (scripts : List (String × String)) (name : String) :
    (r.withScripts scripts).scripts.get? name =
      ((scripts.filter fun s => s.1 == name).getLast?.map Prod.snd).or (r.scripts.get? name) := by
  refine lookup_foldl Prod.snd ?_ scripts r.scripts name
  intro d s k
  simp only [Dict.get?_insert, @eq_comm _ k]

/-- What one registration does. -/
theorem Adds.of_register {r made : Registry} {reg : Registration}
    (registers : r.register reg = .ok made) : r.Adds [reg] made := by
  cases reg with
  | steps steps =>
    cases registers
    exact ⟨fun _ => rfl, fun _ => rfl, rfl⟩
  | flow f =>
    cases registers
    exact ⟨flow?_withFlows r [f], fun _ => rfl, rfl⟩
  | script name source =>
    cases registers
    exact ⟨fun _ => rfl, get?_withScripts r [(name, source)], rfl⟩
  | flowsIn files folder =>
    cases loads : files.loadFlows folder with
    | error e =>
      rw [register, loads] at registers
      cases registers
    | ok fs =>
      rw [register, loads] at registers
      cases registers
      obtain ⟨scripts, choice⟩ := withFlows_rest r fs
      have given : (flowsIn files folder).flows = fs := by
        rw [Registration.flows, loads]
        rfl
      refine ⟨fun uid => ?_, fun name => ?_, choice⟩
      · rw [flow?_withFlows, lastFlow?, List.flatMap_singleton, given]
      · rw [scripts]
        rfl
  | scriptsIn files folder =>
    cases loads : files.loadScripts folder with
    | error e =>
      rw [register, loads] at registers
      cases registers
    | ok sources =>
      rw [register, loads] at registers
      cases registers
      have given : (scriptsIn files folder).scripts = sources := by
        rw [Registration.scripts, loads]
        rfl
      refine ⟨fun _ => rfl, fun name => ?_, rfl⟩
      rw [get?_withScripts, lastSource?, List.flatMap_singleton, given]
  | failureFlow uid =>
    cases registers
    exact ⟨fun _ => rfl, fun _ => rfl, rfl⟩

theorem Adds.nil (r : Registry) : r.Adds [] r where
  flow _ := rfl
  source _ := rfl
  choice := rfl

theorem Adds.append {r s t : Registry} {regs regs' : List Registration} (first : r.Adds regs s)
    (second : s.Adds regs' t) : r.Adds (regs ++ regs') t where
  flow uid := by
    have last : lastFlow? (regs ++ regs') uid = (lastFlow? regs' uid).or (lastFlow? regs uid) := by
      simp [lastFlow?, List.getLast?_append]
    rw [second.flow, first.flow, last, Option.or_assoc]
  source name := by
    have last : lastSource? (regs ++ regs') name =
        (lastSource? regs' name).or (lastSource? regs name) := by
      simp [lastSource?, List.getLast?_append, Option.map_or]
    rw [second.source, first.source, last, Option.or_assoc]
  choice := by
    have last : lastChoice? (regs ++ regs') = (lastChoice? regs').or (lastChoice? regs) := by
      simp [lastChoice?, List.getLast?_append]
    rw [second.choice, first.choice, last, Option.or_assoc]

/-- What some registrations do, one after the other. -/
theorem Adds.of_registrations {regs : List Registration} {r made : Registry}
    (builds : regs.foldlM register r = .ok made) : r.Adds regs made := by
  induction regs generalizing r with
  | nil =>
    cases builds
    exact .nil _
  | cons reg regs ih =>
    rw [List.foldlM_cons] at builds
    cases registers : r.register reg with
    | error e =>
      rw [registers] at builds
      cases builds
    | ok s =>
      rw [registers] at builds
      exact (Adds.of_register registers).append (ih builds)

/-! ## The least name -/

theorem leastNamed_eq_none {fs : List Flow} : leastNamed fs = none ↔ fs = [] := by
  cases fs with
  | nil => exact ⟨fun _ => rfl, fun _ => rfl⟩
  | cons f fs =>
    simp only [leastNamed, reduceCtorEq, iff_false]
    cases leastNamed fs with
    | none => exact nofun
    | some g =>
      dsimp only
      split <;> exact nofun

/-- The flow that is found has the least name. -/
theorem leastNamed_eq_some {fs : List Flow} {f : Flow} (least : leastNamed fs = some f) :
    f ∈ fs ∧ ∀ g ∈ fs, f.name ≤ g.name := by
  induction fs generalizing f with
  | nil => cases least
  | cons g fs ih =>
    rw [leastNamed] at least
    cases rest : leastNamed fs with
    | none =>
      rw [rest] at least
      cases least
      rw [leastNamed_eq_none.1 rest]
      exact ⟨List.mem_cons_self, List.forall_mem_cons.2 ⟨le_rfl, List.forall_mem_nil _⟩⟩
    | some h =>
      obtain ⟨mem, below⟩ := ih rest
      rw [rest] at least
      dsimp only at least
      split at least
      · next less =>
        cases least
        exact ⟨List.mem_cons_of_mem _ mem, List.forall_mem_cons.2 ⟨less.le, below⟩⟩
      · next least' =>
        cases least
        have first := not_lt.1 least'
        exact ⟨List.mem_cons_self, List.forall_mem_cons.2
          ⟨le_rfl, fun k mem => first.trans (below k mem)⟩⟩

section
variable {r : Registry} {f g : Flow}

theorem HasDistinctNames.apart (names : r.HasDistinctNames) (mem : f ∈ r.flows)
    (mem' : g ∈ r.flows) (other : g ≠ f) : f.name ≠ g.name := by
  intro same
  have : Std.Symm fun f g : Flow => Text.eqIgnoringCase f.name g.name = false :=
    ⟨fun f g apart => (Text.eqIgnoringCase_comm g.name f.name).trans apart⟩
  have apart := List.Pairwise.forall names mem mem' other.symm
  rw [same, Text.eqIgnoringCase, beq_self_eq_true] at apart
  cases apart

/-- **The failure flow that nobody chose has the least name of all failure flows.** -/
theorem failureFlow?_eq_some (names : r.HasDistinctNames) (unchosen : r.failureFlowUid = none) :
    r.failureFlow? = some f ↔ f ∈ r.flows ∧ f.kind = .failure ∧
      ∀ g ∈ r.flows, g.kind = .failure → g ≠ f → Text.bytes f.name < Text.bytes g.name := by
  have mem_failures (g : Flow) :
      (g ∈ r.flows.filter fun g => g.kind == .failure) ↔ g ∈ r.flows ∧ g.kind = .failure := by
    rw [List.mem_filter, beq_iff_eq]
  have found : r.failureFlow? = leastNamed (r.flows.filter fun g => g.kind == .failure) := by
    rw [failureFlow?, unchosen]
  rw [found]
  constructor
  · intro least
    obtain ⟨mem, below⟩ := leastNamed_eq_some least
    obtain ⟨mem, failure⟩ := (mem_failures f).1 mem
    refine ⟨mem, failure, fun g mem' failure' other => ?_⟩
    rw [← Text.lt_iff_bytes_lt]
    exact lt_of_le_of_ne (below g ((mem_failures g).2 ⟨mem', failure'⟩))
      (names.apart mem mem' other)
  · rintro ⟨mem, failure, below⟩
    cases least : leastNamed (r.flows.filter fun g => g.kind == .failure) with
    | none =>
      have inside := (mem_failures f).2 ⟨mem, failure⟩
      rw [leastNamed_eq_none.1 least] at inside
      cases inside
    | some g =>
      obtain ⟨mem', least'⟩ := leastNamed_eq_some least
      obtain ⟨mem', failure'⟩ := (mem_failures g).1 mem'
      by_cases same : g = f
      · rw [same]
      · have less := Text.lt_iff_bytes_lt.2 (below g mem' failure' same)
        exact absurd (least' f ((mem_failures f).2 ⟨mem, failure⟩)) (not_le.2 less)

theorem failureFlow?_eq_none (unchosen : r.failureFlowUid = none) :
    r.failureFlow? = none ↔ ∀ f ∈ r.flows, f.kind ≠ .failure := by
  rw [failureFlow?, unchosen, leastNamed_eq_none, List.filter_eq_nil_iff]
  simp

end

/-! ## What survives -/

section
variable {r : Registry} {regs : List Registration} {f : Flow}

theorem IsBuiltBy.flow? (built : r.IsBuiltBy regs) (uid : Uuid) :
    r.flow? uid = lastFlow? regs uid := by
  obtain ⟨made, builds, -, flows, -, -⟩ := built
  have found := (Adds.of_registrations builds).flow uid
  have nothing : Registry.empty.flow? uid = none := rfl
  rw [nothing, Option.or_none] at found
  rw [← found]
  apply Option.ext
  intro f
  rw [flow?_eq_some, flow?_eq_some, flows.mem_iff]

theorem IsBuiltBy.mem_flows (built : r.IsBuiltBy regs) : f ∈ r.flows ↔ Survives regs f := by
  rw [Survives, ← built.flow?, flow?_eq_some, and_iff_left rfl]

theorem IsBuiltBy.source (built : r.IsBuiltBy regs) (name : String) :
    r.scripts.get? name = lastSource? regs name := by
  obtain ⟨made, builds, -, -, scripts, -⟩ := built
  have found := (Adds.of_registrations builds).source name
  have nothing : Registry.empty.scripts.get? name = none := rfl
  rw [scripts, found, nothing, Option.or_none]

theorem IsBuiltBy.choice (built : r.IsBuiltBy regs) : r.failureFlowUid = lastChoice? regs := by
  obtain ⟨made, builds, -, -, -, choice⟩ := built
  have found := (Adds.of_registrations builds).choice
  have nothing : Registry.empty.failureFlowUid = none := rfl
  rw [choice, found, nothing, Option.or_none]

theorem IsBuiltBy.hasDistinctNames (built : r.IsBuiltBy regs) (names : HaveDistinctNames regs) :
    r.HasDistinctNames := by
  refine r.distinct.imp_of_mem ?_
  intro f g mem mem' apart
  exact names f g (built.mem_flows.1 mem) (built.mem_flows.1 mem') apart

end

/-! ## Lookups -/

section
variable {r r' : Registry} {f : Flow}

theorem mem_of_flowByName? {name : String} (found : r.flowByName? name = some f) : f ∈ r.flows :=
  List.mem_of_find?_eq_some found

theorem mem_of_findFlow? {ref : String} (found : r.findFlow? ref = some f) : f ∈ r.flows := by
  unfold findFlow? at found
  split at found
  · exact mem_of_flow? found
  · exact mem_of_flowByName? found

theorem mem_of_failureFlow? (found : r.failureFlow? = some f) : f ∈ r.flows := by
  unfold failureFlow? at found
  split at found
  · exact mem_of_flow? found
  · exact (List.mem_filter.1 (leastNamed_eq_some found).1).1

/-- The flow of a name is the same wherever the same flows are, in whatever order. -/
theorem flowByName?_congr (names : r.HasDistinctNames) (names' : r'.HasDistinctNames)
    (flows : ∀ f, f ∈ r.flows ↔ f ∈ r'.flows) (name : String) :
    r.flowByName? name = r'.flowByName? name := by
  apply Option.ext
  intro f
  rw [flowByName?_eq_some names, flowByName?_eq_some names', flows]

theorem findFlow?_congr (names : r.HasDistinctNames) (names' : r'.HasDistinctNames)
    (flows : ∀ f, f ∈ r.flows ↔ f ∈ r'.flows) (ref : String) :
    r.findFlow? ref = r'.findFlow? ref := by
  apply Option.ext
  intro f
  rw [findFlow?_eq_some names, findFlow?_eq_some names', flows]

theorem failureFlow?_congr (names : r.HasDistinctNames) (names' : r'.HasDistinctNames)
    (flows : ∀ f, f ∈ r.flows ↔ f ∈ r'.flows) (choice : r.failureFlowUid = r'.failureFlowUid) :
    r.failureFlow? = r'.failureFlow? := by
  apply Option.ext
  intro f
  cases chosen : r.failureFlowUid with
  | some uid =>
    rw [failureFlow?, failureFlow?, ← choice, chosen]
    dsimp only
    rw [flow?_eq_some, flow?_eq_some, flows]
  | none =>
    rw [failureFlow?_eq_some names chosen, failureFlow?_eq_some names' (choice ▸ chosen)]
    simp only [flows]

end

/-! ## Registries that are built -/

section
variable {r r' : Registry} {regs regs' : List Registration}

/-- Registries that are built by registrations that end alike answer alike. -/
theorem IsBuiltBy.congr (built : r.IsBuiltBy regs) (built' : r'.IsBuiltBy regs')
    (alike : EndAlike regs regs') (names : HaveDistinctNames regs) :
    (∀ uid, r.flow? uid = r'.flow? uid) ∧ (∀ name, r.flowByName? name = r'.flowByName? name) ∧
      (∀ ref, r.findFlow? ref = r'.findFlow? ref) ∧
      (∀ name, r.scripts.get? name = r'.scripts.get? name) ∧ r.failureFlow? = r'.failureFlow? := by
  have survivors (f : Flow) : Survives regs f ↔ Survives regs' f := by
    rw [Survives, Survives, alike.flow]
  have flows (f : Flow) : f ∈ r.flows ↔ f ∈ r'.flows := by
    rw [built.mem_flows, built'.mem_flows, survivors]
  have names' : HaveDistinctNames regs' :=
    fun f g lives lives' => names f g ((survivors f).2 lives) ((survivors g).2 lives')
  have distinct := built.hasDistinctNames names
  have distinct' := built'.hasDistinctNames names'
  refine ⟨?_, flowByName?_congr distinct distinct' flows, findFlow?_congr distinct distinct' flows,
    ?_, failureFlow?_congr distinct distinct' flows ?_⟩
  · intro uid
    rw [built.flow?, built'.flow?, alike.flow]
  · intro name
    rw [built.source, built'.source, alike.source]
  · rw [built.choice, built'.choice, alike.choice]

/-- A flow that has been replaced is found no more. -/
theorem IsBuiltBy.replaced (built : r.IsBuiltBy regs) {f : Flow} (replaced : ¬Survives regs f) :
    (∀ uid, r.flow? uid ≠ some f) ∧ (∀ name, r.flowByName? name ≠ some f) ∧
      (∀ ref, r.findFlow? ref ≠ some f) ∧ r.failureFlow? ≠ some f := by
  have gone : f ∉ r.flows := fun mem => replaced (built.mem_flows.1 mem)
  exact ⟨fun _ found => gone (mem_of_flow? found), fun _ found => gone (mem_of_flowByName? found),
    fun _ found => gone (mem_of_findFlow? found), fun found => gone (mem_of_failureFlow? found)⟩

/-- A name that no flow has any more finds nothing. -/
theorem IsBuiltBy.flowByName?_eq_none (built : r.IsBuiltBy regs) {name : String}
    (unused : ∀ f, Survives regs f → Text.eqIgnoringCase f.name name = false) :
    r.flowByName? name = none := by
  apply List.find?_eq_none.2
  intro f mem
  rw [unused f (built.mem_flows.1 mem)]
  exact Bool.false_ne_true

/-- Where nobody chose a failure flow, it is the one of the least name. -/
theorem IsBuiltBy.failureFlow? (built : r.IsBuiltBy regs) (names : HaveDistinctNames regs)
    (unchosen : lastChoice? regs = none) :
    (∀ f, r.failureFlow? = some f ↔ IsLeastFailureFlow regs f) ∧
      (r.failureFlow? = none ↔ ∀ f, Survives regs f → f.kind ≠ .failure) := by
  have chosen := built.choice.trans unchosen
  constructor
  · intro f
    rw [failureFlow?_eq_some (built.hasDistinctNames names) chosen]
    simp only [built.mem_flows, IsLeastFailureFlow]
  · rw [failureFlow?_eq_none chosen]
    simp only [built.mem_flows]

end

end Registry

open Registration

/-- **Lookups depend on what is registered last under each key**, and not on the order of the
registrations: registries that registrations build which end alike answer alike. What has been
replaced is found no more, neither are names that only replaced flows had, and the failure flow that
nobody chose is the one of the least name. -/
theorem lookups_depend_on_last_registrations {regs regs' : List Registration} {r r' : Registry}
    (built : r.IsBuiltBy regs) (built' : r'.IsBuiltBy regs') (alike : EndAlike regs regs')
    (names : HaveDistinctNames regs) :
    ((∀ uid, r.flow? uid = r'.flow? uid) ∧ (∀ name, r.flowByName? name = r'.flowByName? name) ∧
      (∀ ref, r.findFlow? ref = r'.findFlow? ref) ∧
      (∀ name, r.scripts.get? name = r'.scripts.get? name) ∧ r.failureFlow? = r'.failureFlow?) ∧
    (∀ f ∈ regs.flatMap flows, ¬Survives regs f →
      (∀ uid, r.flow? uid ≠ some f) ∧ (∀ name, r.flowByName? name ≠ some f) ∧
      (∀ ref, r.findFlow? ref ≠ some f) ∧ r.failureFlow? ≠ some f ∧
      ((∀ g, Survives regs g → Text.eqIgnoringCase g.name f.name = false) →
        r.flowByName? f.name = none)) ∧
    (lastChoice? regs = none →
      (∀ f, r.failureFlow? = some f ↔ IsLeastFailureFlow regs f) ∧
      (r.failureFlow? = none ↔ ∀ f, Survives regs f → f.kind ≠ .failure)) := by
  refine ⟨built.congr built' alike names, ?_, built.failureFlow? names⟩
  intro f _ replaced
  obtain ⟨uid, name, ref, failure⟩ := built.replaced replaced
  exact ⟨uid, name, ref, failure, built.flowByName?_eq_none⟩

namespace Sample

/-- A folder with one script. -/
def scriptFiles : FileTree := .ofCurrent ["home"] [("tally.rhai", .file "1".toUTF8)]

theorem loadScripts_scriptFiles : scriptFiles.loadScripts ⟨"."⟩ = .ok [("tally", "1")] := by
  have folder : scriptFiles.find ⟨"."⟩ = .ok (.folder [("tally.rhai", .file "1".toUTF8)]) :=
    FileTree.find_here (by decide)
  have plain (target : String) : Entry.file "1".toUTF8 ≠ .link target := by
    intro same
    cases same
  have file : scriptFiles.find ((Path.mk ".").join "tally.rhai") = .ok (.file "1".toUTF8) :=
    FileTree.find_join folder (by decide) rfl plain
  have joined : (Path.mk ".").join "tally.rhai" = ⟨"./tally.rhai"⟩ := by decide
  rw [joined] at file
  have text : scriptFiles.loadText ⟨"./tally.rhai"⟩ = .ok "1" := by
    simp only [FileTree.loadText, FileTree.readText, FileTree.read, file, Text.fromUTF8?_toUTF8]
  have listed : scriptFiles.list ⟨"."⟩ = .ok [("tally.rhai", .file "1".toUTF8)] := by
    rw [FileTree.list, folder]
    exact congrArg Except.ok (List.mergeSort_singleton _)
  have paths : scriptFiles.filesWithExtension ⟨"."⟩ FileTree.scriptExtension =
      .ok [⟨"./tally.rhai"⟩] := by
    have isFile : scriptFiles.isFile ⟨"./tally.rhai"⟩ = true := by
      rw [FileTree.isFile, file]
      rfl
    have extension : FileTree.hasExtension FileTree.scriptExtension ⟨"./tally.rhai"⟩ = true := by
      decide
    rw [FileTree.filesWithExtension, listed]
    simp [joined, isFile, extension]
  have stem : (Path.mk "./tally.rhai").stem = "tally" := by decide
  simp [FileTree.loadScripts, paths, text, stem, bind, Except.bind, pure, Except.pure]

/-- A failure flow. -/
def mending : Flow := Flow.new "Mending" .failure (uid 1)

/-- What replaces it. -/
def patching : Flow := { mending with name := "Patching" }

/-- Another failure flow. -/
def saving : Flow := Flow.new "Saving" .failure (uid 2)

/-- Some registrations. -/
def registered : List Registration :=
  [.flow mending, .script "tally" "0", .flow saving, .scriptsIn scriptFiles ⟨"."⟩, .flow patching]

/-- Other ones, by which the same is registered last. -/
def registeredOtherwise : List Registration :=
  [.flow patching, .script "tally" "1", .flow saving]

/-- What they build. -/
def shelf : Registry :=
  ((((Registry.empty.withFlow mending).withScripts [("tally", "0")]).withFlow saving).withScripts
    [("tally", "1")]).withFlow patching

def shelfOtherwise : Registry :=
  ((Registry.empty.withFlow patching).withScripts [("tally", "1")]).withFlow saving

theorem isBuiltBy_shelf : shelf.IsBuiltBy registered := by
  refine ⟨shelf, ?_, rfl, .refl _, rfl, rfl⟩
  have scripts (r : Registry) : r.register (.scriptsIn scriptFiles ⟨"."⟩) =
      .ok (r.withScripts [("tally", "1")]) := by
    rw [Registry.register, loadScripts_scriptFiles]
    rfl
  simp only [registered, Registry.ofRegistrations, List.foldlM_cons, List.foldlM_nil, scripts]
  rfl

theorem isBuiltBy_shelfOtherwise : shelfOtherwise.IsBuiltBy registeredOtherwise :=
  ⟨shelfOtherwise, rfl, rfl, .refl _, rfl, rfl⟩

theorem flows_registered :
    registered.flatMap Registration.flows = [mending, saving, patching] := by
  rfl

theorem survives_registered {f : Flow} :
    Survives registered f ↔ f = saving ∨ f = patching := by
  have last (uid : Uuid) : lastFlow? registered uid =
      ([mending, saving, patching].filter fun f => f.uid == uid).getLast? := by
    rw [lastFlow?, flows_registered]
  constructor
  · intro survives
    have mem := survives.mem
    rw [flows_registered] at mem
    simp only [List.mem_cons, List.not_mem_nil, or_false] at mem
    rcases mem with rfl | rfl | rfl
    · have same : some patching = some mending := (last mending.uid).symm.trans survives
      exact absurd (congrArg Flow.name (Option.some.inj same)) (by decide)
    · exact .inl rfl
    · exact .inr rfl
  · rintro (rfl | rfl)
    · exact last saving.uid
    · exact last patching.uid

theorem scripts_registered :
    registered.flatMap Registration.scripts = [("tally", "0"), ("tally", "1")] := by
  simp [registered, Registration.scripts, loadScripts_scriptFiles, Except.toOption]

theorem endAlike_registered : EndAlike registered registeredOtherwise where
  flow uid := by
    rw [lastFlow?, flows_registered]
    by_cases first : mending.uid = uid
    · subst first
      rfl
    · by_cases second : saving.uid = uid
      · subst second
        rfl
      · have third : ¬patching.uid = uid := first
        simp [lastFlow?, registeredOtherwise, Registration.flows, first, second, third]
  source name := by
    rw [lastSource?, scripts_registered]
    by_cases same : "tally" = name
    · subst same
      rfl
    · simp [lastSource?, registeredOtherwise, Registration.scripts, same]
  choice := rfl

theorem haveDistinctNames_registered : HaveDistinctNames registered := by
  have each : ∀ f ∈ [mending, saving, patching], ∀ g ∈ [mending, saving, patching],
      f.uid ≠ g.uid → Text.eqIgnoringCase f.name g.name = false := by decide
  intro f g lives lives' apart
  exact each f (flows_registered ▸ lives.mem) g (flows_registered ▸ lives'.mem) apart

end Sample

/-- Both registries call the same failure flow, which the one built the longer way has in the place
of another one, whose name finds nothing there. -/
theorem shelves_answer_alike :
    Sample.shelf.failureFlow? = some Sample.patching ∧
      Sample.shelfOtherwise.failureFlow? = some Sample.patching ∧
      Sample.shelf.flowByName? Sample.mending.name = none ∧
      Sample.shelf.scripts.get? "tally" = Sample.shelfOtherwise.scripts.get? "tally" := by
  obtain ⟨⟨-, -, -, source, failure⟩, replaced, unchosen⟩ :=
    lookups_depend_on_last_registrations Sample.isBuiltBy_shelf Sample.isBuiltBy_shelfOtherwise
      Sample.endAlike_registered Sample.haveDistinctNames_registered
  have least : Sample.shelf.failureFlow? = some Sample.patching := by
    apply ((unchosen rfl).1 Sample.patching).2
    refine ⟨Sample.survives_registered.2 (.inr rfl), rfl, ?_⟩
    intro g survives _ other
    rw [(Sample.survives_registered.1 survives).resolve_right other]
    exact Text.lt_iff_bytes_lt.1 (by decide)
  have gone : ¬Survives Sample.registered Sample.mending := by
    rw [Sample.survives_registered]
    rintro (same | same)
    · exact absurd (congrArg Flow.name same) (by decide)
    · exact absurd (congrArg Flow.name same) (by decide)
  have given : Sample.mending ∈ Sample.registered.flatMap flows := List.mem_cons_self
  refine ⟨least, failure ▸ least, ?_, source "tally"⟩
  obtain ⟨-, -, -, -, unnamed⟩ := replaced Sample.mending given gone
  apply unnamed
  intro g survives
  rcases Sample.survives_registered.1 survives with rfl | rfl
  · decide
  · decide

end FlowGraph
