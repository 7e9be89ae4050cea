import FlowGraph.Proofs.Reach

/-!
# The variables that tell about files

The facts of the working file and of the original file are ordinary variables: seeds may hold
them, they are copied into forks, saved and put back around calls and rewritten as a whole after
scripts. `Scope.IsPublished` says that each of them is what is derived from the files that the
scope holds at that moment. It holds of every scope that is made for a file, whatever the seeds,
and `Scope.Edits` tells the changes that keep it: those that leave the names of the facts alone,
and a new working file, which has its facts published anew.
-/

namespace FlowGraph

namespace Scope

/-- What is known of the files of a scope, under the names of the variables that tell it. -/
def fileFacts (s : Scope) : List (String × Json) :=
  originalFileFacts s.originalFile ++ workingFileFacts s.workingFile

/-- The names of the variables that tell about the original file. -/
def originalFileKeys : List String :=
  ["file.Orig.FullName", "file.Orig.Name", "file.Orig.NameNoExtension", "file.Orig.Extension"]

/-- The names of the variables that tell about the working file. -/
def workingFileKeys : List String :=
  ["file.FullName", "file.Name", "file.NameNoExtension", "file.Extension", "folder.FullName"]

/-- The names of the variables that tell about files. -/
def fileKeys : List String := originalFileKeys ++ workingFileKeys

/-- The variables tell about the files of the scope. -/
def IsPublished (s : Scope) : Prop := ∀ fact ∈ s.fileFacts, s.vars.get? fact.1 = some fact.2

/-- Changes of a scope that leave the facts of files to the engine. -/
inductive Edits : Scope → Scope → Prop where
  | refl (s : Scope) : Edits s s
  | others {s : Scope} (vars : Variables)
      (spared : ∀ key ∈ fileKeys, vars.get? key = s.vars.get? key) : Edits s { s with vars := vars }
  | workingFile (s : Scope) (file : Path) : Edits s (s.setWorkingFile file)
  | reason (s : Scope) (reason : Option String) : Edits s { s with failureReason := reason }
  | trans {s t u : Scope} (first : Edits s t) (rest : Edits t u) : Edits s u

theorem mem_fileKeys_of_original {file : Path} {fact : String × Json}
    (mem : fact ∈ originalFileFacts file) : fact.1 ∈ originalFileKeys :=
  List.mem_map_of_mem (f := Prod.fst) mem

theorem mem_fileKeys_of_working {file : Path} {fact : String × Json}
    (mem : fact ∈ workingFileFacts file) : fact.1 ∈ workingFileKeys :=
  List.mem_map_of_mem (f := Prod.fst) mem

/-- No name tells about both files. -/
theorem notMem_workingFileKeys {key : String} (original : key ∈ originalFileKeys) :
    key ∉ workingFileKeys := by
  revert key
  decide

/-- The facts of a working file are found where they have been published last, and every other
variable is as it was. -/
theorem get?_published {file : Path} {fact : String × Json} (vars : Variables)
    (mem : fact ∈ workingFileFacts file) :
    (vars.insertAll (workingFileFacts file)).get? fact.1 = some fact.2 := by
  have distinct : ((workingFileFacts file).map Prod.fst).Nodup := by
    show workingFileKeys.Nodup
    decide
  exact Dict.get?_insertAll_of_mem distinct mem vars

/-- Publishing a working file leaves the facts of the original one. -/
theorem get?_original {file original : Path} {fact : String × Json} (vars : Variables)
    (mem : fact ∈ originalFileFacts original) :
    (vars.insertAll (workingFileFacts file)).get? fact.1 = vars.get? fact.1 :=
  Dict.get?_insertAll_of_notMem (notMem_workingFileKeys (mem_fileKeys_of_original mem)) vars

/-- **A scope that is made for a file tells about it**, whatever variables it is made over. -/
theorem isPublished_forFile (file : Path) (seeds : Variables) :
    (forFile file seeds).IsPublished := by
  intro fact mem
  rcases List.mem_append.1 mem with original | working
  · have distinct : ((originalFileFacts file).map Prod.fst).Nodup := by
      show originalFileKeys.Nodup
      decide
    have kept : (forFile file seeds).vars.get? fact.1 =
        (seeds.insertAll (originalFileFacts file)).get? fact.1 := get?_original _ original
    exact kept.trans (Dict.get?_insertAll_of_mem distinct original seeds)
  · exact get?_published _ working

/-- What an edit does to a scope that tells about its files, it tells about them still. -/
theorem Edits.isPublished {s t : Scope} (h : s.Edits t) (published : s.IsPublished) :
    t.IsPublished := by
  induction h with
  | refl s => exact published
  | @others s vars spared =>
    intro fact mem
    have key : fact.1 ∈ fileKeys := by
      rcases List.mem_append.1 mem with original | working
      · exact List.mem_append_left _ (mem_fileKeys_of_original original)
      · exact List.mem_append_right _ (mem_fileKeys_of_working working)
    exact (spared fact.1 key).trans (published fact mem)
  | workingFile s file =>
    intro fact mem
    rcases List.mem_append.1 mem with original | working
    · have told := published fact (List.mem_append_left _ original)
      exact (get?_original s.vars original).trans told
    · exact get?_published s.vars working
  | reason s reason => exact published
  | trans first rest ih ih' => exact ih' (ih published)

/-- Giving a reason is an edit. -/
theorem Edits.fail (s : Scope) (reason : String) : s.Edits (s.fail reason) := .reason s _

/-- Setting another variable than the facts is an edit. -/
theorem Edits.setVariable {s : Scope} {name : String} (value : Json) (other : name ∉ fileKeys) :
    s.Edits (s.setVariable name value) := by
  refine .others _ ?_
  intro key mem
  have apart : key ≠ name := fun same => other (same ▸ mem)
  rw [Dict.get?_insert, if_neg apart]

/-- Putting other variables over those of a scope is an edit. -/
theorem Edits.insertAll {s : Scope} {es : List (String × Json)}
    (other : ∀ key ∈ fileKeys, key ∉ es.map Prod.fst) :
    s.Edits { s with vars := s.vars.insertAll es } :=
  .others _ fun key mem => Dict.get?_insertAll_of_notMem (other key mem) s.vars

end Scope

/-! ## What steps write -/

/-- Neither the check of a plain step nor its run writes a fact by itself, from where a run
stands. -/
structure Turn.Edits (site : Site) (actions : Moment → Action) (st : Standing) : Prop where
  check : st.context.toScope.Edits (Turn.checked (.acting actions) st).context.toScope
  run : ((actions st.moment).check st.context.toScope).admitted = true →
    (Turn.checked (.acting actions) st).context.toScope.Edits
      (Turn.act site actions (Turn.checked (.acting actions) st)).2.context.toScope

/-- The script that runs where a run stands leaves every fact as it was in its variables, if it
leaves a map there at all. -/
def ScriptStep.SparesFacts (site : Site) (st : Standing) (step : ScriptStep) : Prop :=
  ∀ made, (site.scripts st.ledger.clock
      (step.input st.ledger.canceled st.context.toScope)).vars = some made →
    ∀ key ∈ Scope.fileKeys, made.get? key = (st.context.vars.get? key).map some

/-- The step writes no fact of a file when it is taken where a run stands: of the steps of every
node only the one that sets a variable could, if it named one. -/
inductive Step.SparesFacts (site : Site) (st : Standing) : Step → Prop where
  | log (m : Model) : SparesFacts site st (Step.log m)
  | failFlow (m : Model) : SparesFacts site st (Step.failFlow m)
  | executeCommand (m : Model) : SparesFacts site st (Step.executeCommand m)
  | setVariable (m : Model)
      (other : Text.trim (m.setting Json.text "Variable" "") ∉ Scope.fileKeys) :
      SparesFacts site st (Step.setVariable m)
  | eachFile (e : EachFile) : SparesFacts site st (.eachFile e)
  | plugin (actions : Moment → Action) (edits : Turn.Edits site actions st) :
      SparesFacts site st (.acting actions)

/-- What a part asks for writes no fact of a file when it starts where a run stands. -/
def Task.SparesFacts (site : Site) (st : Standing) : Task → Prop
  | .native step => step.SparesFacts site st
  | .script step => step.SparesFacts site st
  | .subFlow _ properties => ∀ key ∈ Scope.fileKeys, properties.contains key = false
  | .gotoFlow _ | .subFlowInput | .subFlowOutput _ => True

/-- What the part that starts, as the ledger then is, asks for writes no fact of a file. -/
def Event.SparesFacts (site : Site) (registry : Registry) (l : Ledger) : Event → Prop
  | .started _ part c =>
    ∀ task, Task.ofPart registry c.vars part = .ok task → task.SparesFacts site ⟨c, l⟩
  | _ => True

/-- If the event starts a part, the variables tell about the files of its context. -/
def Event.IsPublished : Event → Prop
  | .started _ _ c => c.toScope.IsPublished
  | _ => True

/-- The flow declares no fact of a file. -/
def Flow.SparesFacts (flow : Flow) : Prop :=
  ∀ key ∈ Scope.fileKeys, flow.vars.contains key = false

theorem Dict.get?_eq_none {α : Type} {d : Dict α} {key : String} (h : d.contains key = false) :
    d.get? key = none := by
  simpa [Dict.contains] using h

/-- Under a key that a script leaves is what it made of it, or else what was there before. -/
theorem ScriptStep.get?_variablesAfter (before : Variables) (made : Dict (Option Json))
    (key : String) :
    (variablesAfter before made).get? key =
      (made.get? key).bind fun value? => value?.or (before.get? key) := by
  have entries : made.entries.lookup key = made.get? key := rfl
  have kept := Dict.get?_insertAll (Dict.rising_filterMap made.rising)
    (before.filter fun key _ => made.contains key) key
  rw [Dict.lookup_filterMap made.rising, Dict.get?_filter_key, entries, Dict.contains] at kept
  refine kept.trans ?_
  cases made.get? key with
  | none => rfl
  | some value? => cases value? <;> rfl

/-- What a script leaves is an edit if it spares the facts: its variables are taken over before
its working file. -/
theorem Scope.Edits.conclude {s : Scope} {e : Evaluation} (name : String)
    (spares : ∀ made, e.vars = some made →
      ∀ key ∈ fileKeys, made.get? key = (s.vars.get? key).map some) :
    s.Edits (ScriptStep.conclude name s e).scope := by
  have taken : s.Edits (ScriptStep.scopeAfter s e) := by
    unfold ScriptStep.scopeAfter
    extract_lets overlaid moved
    have kept : s.Edits overlaid := by
      unfold overlaid
      split
      · refine .others _ ?_
        intro key mem
        rw [ScriptStep.get?_variablesAfter, spares _ ‹_› key mem]
        cases s.vars.get? key <;> rfl
      · exact .refl s
    have file : overlaid.Edits moved := by
      unfold moved
      split
      · exact .workingFile overlaid _
      · exact .refl overlaid
    split
    · exact (kept.trans file).trans (.fail moved _)
    · exact kept.trans file
  unfold ScriptStep.conclude
  split
  · exact .refl s
  · exact taken.trans (.fail _ _)
  · exact taken.trans (.fail _ _)
  · split
    · exact taken
    · exact taken.trans (.fail _ _)

/-- A script that spares the facts edits the scope. -/
theorem ScriptStep.SparesFacts.edits {site : Site} {st : Standing} {step : ScriptStep}
    (spares : step.SparesFacts site st) : Turn.Edits site (step.action ·) st where
  check := .refl _
  run _ := by
    have told : (Turn.checked (.acting (step.action ·)) st).ledger = st.ledger :=
      Ledger.tell_nil _
    rw [Turn.act, Standing.moment, told]
    exact .conclude step.name spares

/-- A plain step edits every scope if its check and its run do so at every moment. -/
theorem Turn.Edits.of_scopes {site : Site} {actions : Moment → Action}
    (check : ∀ (m : Moment) (s : Scope), s.Edits ((actions m).check s).scope)
    (run : ∀ (m : Moment) (canceled : Bool) (s : Scope),
      s.Edits ((actions m).run site canceled s).scope) (st : Standing) :
    Turn.Edits site actions st where
  check := check _ _
  run _ := run _ _ _

/-- The steps of every node edit the scope, unless they set a fact. -/
theorem Step.SparesFacts.edits {site : Site} {st : Standing} {actions : Moment → Action}
    (spares : (Step.acting actions).SparesFacts site st) : Turn.Edits site actions st := by
  generalize same : Step.acting actions = step at spares
  cases spares with
  | log m =>
    cases same
    exact .of_scopes (fun _ s => .refl s) (fun _ _ s => .refl s) st
  | failFlow m =>
    cases same
    exact .of_scopes (fun _ s => .refl s) (fun _ _ s => .fail s _) st
  | executeCommand m =>
    cases same
    refine .of_scopes ?_ ?_ st
    · intro _ s
      dsimp only
      split
      · exact .fail s _
      · exact .refl s
    · intro _ _ s
      dsimp only
      split
      · exact .fail s _
      · apply Scope.Edits.insertAll
        show ∀ key ∈ Scope.fileKeys, key ∉ ["ExecuteCommand.ExitCode", "ExecuteCommand.Output"]
        decide
  | setVariable m other =>
    cases same
    refine .of_scopes ?_ ?_ st
    · intro _ s
      dsimp only
      split
      · exact .fail s _
      · exact .refl s
    · exact fun _ _ s => .setVariable _ other
  | eachFile e => cases same
  | plugin actions' edits =>
    cases same
    exact edits

/-- The check of an iteration gives no more than a reason. -/
theorem EachFile.edits_check (e : EachFile) (s : Scope) : s.Edits (e.check s).scope := by
  unfold EachFile.check
  split
  · exact .fail s _
  · split
    · exact .fail s _
    · exact .refl s

/-! ## What runs do to a scope -/

section
variable {site : Site} {registry : Registry}

theorem Turn.edits_start (flow : Flow) (part : Part) (st : Standing) :
    st.context.toScope.Edits (Turn.start flow part st).context.toScope := by
  unfold Turn.start
  split
  · exact .refl _
  · exact .reason _ none

theorem Turn.edits_route (flow : Flow) (part : Part) (result : StepResult) (st : Standing) :
    st.context.toScope.Edits (Turn.route flow part result st).2.context.toScope := by
  unfold Turn.route
  split
  · exact .refl _
  · split
    · exact .reason _ _
    · exact .refl _

theorem Turn.edits_follow {flow : Flow} {part : Part} {reply : Reply} {st st' : Standing}
    {turn : Turn} (leads : Turn.follow flow part (reply, st) = (turn, st')) :
    st.context.toScope.Edits st'.context.toScope := by
  cases reply with
  | done result =>
    have routed := Turn.edits_route flow part result (Turn.note flow part result st)
    rw [← Turn.follow, leads] at routed
    exact routed
  | leave exit | goOn flow' uid =>
    cases leads
    exact .refl _

/-- Variables of a flow that declares no fact may be put over those of a scope. -/
theorem Flow.SparesFacts.edits_overlay {flow : Flow} (spares : flow.SparesFacts) (s : Scope) :
    s.Edits { s with vars := s.vars.overlay flow.vars } := by
  refine .others _ ?_
  intro key mem
  have absent := Dict.get?_eq_none (spares key mem)
  rw [Dict.get?_overlay, absent]
  rfl

/-- A flow is called with the facts of its caller if neither it nor the call sets one. -/
theorem Turn.edits_callStart {flow : Flow} {properties : Variables} (spares : flow.SparesFacts)
    (given : ∀ key ∈ Scope.fileKeys, properties.contains key = false) (st : Standing) :
    st.context.toScope.Edits (Turn.callStart flow properties st).context.toScope := by
  refine .others _ ?_
  intro key mem
  have declared := Dict.get?_eq_none (spares key mem)
  have passed := Dict.get?_eq_none (given key mem)
  rw [Turn.get?_callVariables, declared, passed]
  rfl

/-- A call that sets no fact comes back with the facts as the flow left them. -/
theorem Turn.edits_callEnd {flow : Flow} {properties : Variables} (spares : flow.SparesFacts)
    (given : ∀ key ∈ Scope.fileKeys, properties.contains key = false) (before after : Standing) :
    after.context.toScope.Edits (Turn.callEnd flow properties before after).context.toScope := by
  refine .others _ ?_
  intro key mem
  have unset : Turn.sets flow properties key = false := by
    rw [Turn.sets, spares key mem, given key mem]
    rfl
  have kept := Turn.get?_returnContext before.context after.context flow properties key
  rw [unset, if_neg Bool.false_ne_true] at kept
  exact kept

/-- The scope of a walk for a file tells about that file. -/
theorem Iteration.isPublished_fileStart {flow : Flow} (spares : flow.SparesFacts) (file : Path)
    (st : Standing) : (Iteration.fileStart flow file st).context.toScope.IsPublished :=
  (spares.edits_overlay _).isPublished (Scope.isPublished_forFile file st.context.vars)

variable (site registry) in
/-- What a part asks for writes no fact, and an iteration walks a flow that declares none. -/
def Work.SparesFacts (st : Standing) : Work → Prop
  | .attempt flow part =>
    (Event.started flow part st.context).SparesFacts site registry st.ledger
  | .visit flow _ _ _ => flow.SparesFacts
  | .walk _ | .goOn _ _ => True

/-- The step of a part that writes no fact writes none. -/
theorem Work.SparesFacts.step {flow : Flow} {part : Part} {st : Standing} {step : Step}
    (spares : (Work.attempt flow part).SparesFacts site registry st)
    (executes : part.step? registry st.context.vars = some step) :
    step.SparesFacts site st := by
  unfold Part.step? at executes
  cases asks : Task.ofPart registry st.context.vars part with
  | error e => simp [asks, Except.toOption] at executes
  | ok task =>
    rw [asks] at executes
    have spares := spares task asks
    cases task with
    | native native =>
      cases executes
      exact spares
    | script script =>
      cases executes
      exact .plugin _ (ScriptStep.SparesFacts.edits spares)
    | _ => cases executes

/-- The start of a turn and the end of its part tell no more than what the part asks for. -/
theorem Ledger.Tells.published_turn {flow : Flow} {part : Part} {st st₁ st₂ : Standing}
    {reply : Reply} {turn : Turn}
    (inner : (Turn.start flow part st.count).ledger.Tells Event.IsPublished st₁.ledger)
    (start : (Turn.start flow part st.count).context.toScope.IsPublished)
    (leads : Turn.follow flow part (reply, st₁) = (turn, st₂)) :
    st.ledger.Tells Event.IsPublished st₂.ledger := by
  have started : st.ledger.Tells Event.IsPublished (Turn.start flow part st.count).ledger := by
    rw [Turn.start_ledger]
    exact .enter st.ledger.count start
  refine (started.trans inner).trans ?_
  obtain ⟨result, -, ledger⟩ | ledger := follow_ledger leads
  · rw [ledger]
    exact .enter _ trivial
  · rw [ledger]
    exact .refl _

theorem Ledger.Tells.published_notices (l : Ledger) (ns : List Notice) :
    l.Tells Event.IsPublished (l.tell ns) :=
  .tell l ns fun _ => trivial

/-- **Work that writes no fact of a file edits the scope**, and every part that it starts finds
the facts of the files of its own context. -/
theorem ComesTo.edits {work : Work} {st st' : Standing} {reply : Reply}
    (h : ComesTo site registry work st reply st')
    (registered : ∀ g ∈ registry.flows, g.SparesFacts) (spares : work.SparesFacts site registry st)
    (writes : st.ledger.Throughout (Event.SparesFacts site registry)
      (st'.ledger.since st.ledger))
    (published : st.context.toScope.IsPublished) :
    st.context.toScope.Edits st'.context.toScope ∧
      st.ledger.Tells Event.IsPublished st'.ledger := by
  induction h with
  | tooDeep deep => exact ⟨.reason _ _, .enter _ trivial⟩
  | noEntry | missing | unresolved => exact ⟨.reason _ _, .refl _⟩
  | lost => exact ⟨.reason _ _, .refl _⟩
  | enter shallow found rest ih => exact ih trivial writes published
  | canceled | input | visitedAll | visitCanceled => exact ⟨.refl _, .refl _⟩
  | refused live found full => exact ⟨.reason _ _, .enter _ trivial⟩
  | @last flow uid part st st₁ st₂ reply exit live found room work leads ih =>
    obtain ⟨begins, inner⟩ := work.throughout_turn room leads writes
    have started := Turn.edits_start flow part st.count
    have start := started.isPublished published
    obtain ⟨edits, told⟩ := ih begins inner start
    exact ⟨(started.trans edits).trans (Turn.edits_follow leads), told.published_turn start leads⟩
  | @next flow flow' uid uid' part st st₁ st₂ st₃ reply exit live found room work leads rest
      ih ih' =>
    have turn := Ledger.Books.lawful.turn room (work.account Ledger.Books.lawful) leads
    obtain ⟨first, later⟩ := writes.split turn (rest.account Ledger.Books.lawful)
    obtain ⟨begins, inner⟩ := work.throughout_turn room leads first
    have started := Turn.edits_start flow part st.count
    have start := started.isPublished published
    obtain ⟨edits, told⟩ := ih begins inner start
    have turned := (started.trans edits).trans (Turn.edits_follow leads)
    obtain ⟨edits', told'⟩ := ih' trivial later (turned.isPublished published)
    exact ⟨turned.trans edits', (told.published_turn start leads).trans told'⟩
  | marker task => exact ⟨.refl _, .enter _ trivial⟩
  | @switch flow target part entry st task found =>
    have declares := registered target (Task.mem_of_ofPart task rfl)
    exact ⟨declares.edits_overlay st.context.toScope, .refl _⟩
  | @call flow target part st st' properties exit task walk ih =>
    have declares := registered target (Task.mem_of_ofPart task rfl)
    have given := spares _ task
    have begins := Turn.edits_callStart declares given st
    obtain ⟨edits, told⟩ := ih trivial writes (begins.isPublished published)
    exact ⟨(begins.trans edits).trans (Turn.edits_callEnd declares given st st'), told⟩
  | @barred flow part st step executes bars =>
    have checked : st.context.toScope.Edits (Turn.checked step st).context.toScope := by
      cases step with
      | acting actions => exact (spares.step executes).edits.check
      | eachFile e => exact e.edits_check _
    refine ⟨checked.trans (.reason _ _), ?_⟩
    exact (Ledger.Tells.published_notices _ _).trans (.enter _ trivial)
  | plain executes admits =>
    have edits := (spares.step executes).edits
    refine ⟨edits.check.trans (edits.run admits), ?_⟩
    exact (Ledger.Tells.published_notices _ _).trans (.published_notices _ _)
  | @unplanned flow part st e reason executes admits plan =>
    exact ⟨(e.edits_check _).trans (.reason _ _), .published_notices _ _⟩
  | @nothing flow target part st e executes admits plan =>
    exact ⟨e.edits_check _, .published_notices _ _⟩
  | @iterate flow target part st st' e file files result executes admits plan visits ih =>
    have checked := Ledger.Books.lawful.tell st.ledger (e.check st.context.toScope).notices
    have edits := e.edits_check st.context.toScope
    obtain ⟨-, inner⟩ := writes.split checked (visits.account Ledger.Books.lawful)
    have declares := registered target (Iteration.mem_of_plan plan)
    obtain ⟨edits', told⟩ := ih declares inner (edits.isPublished published)
    exact ⟨edits.trans edits', (Ledger.Tells.published_notices _ _).trans told⟩
  -- The files are walked in forks, so that only reasons come back from their walks.
  | @visitNext flow total done file files st st₁ st₂ exit result live walk graded rest ih ih' =>
    obtain ⟨inner, later⟩ := walk.throughout_visit rest writes
    obtain ⟨-, told⟩ := ih trivial inner (Iteration.isPublished_fileStart spares file st)
    obtain ⟨edits, told'⟩ := ih' spares later published
    exact ⟨edits, told.trans ((Ledger.Tells.published_notices _ _).trans told')⟩
  | @fileCanceled flow total done file files st st' exit live walk graded ih =>
    obtain ⟨-, told⟩ := ih trivial writes (Iteration.isPublished_fileStart spares file st)
    exact ⟨.refl _, told⟩
  | @fileTerminal flow total done file files st st' exit live walk graded ih =>
    obtain ⟨-, told⟩ := ih trivial writes (Iteration.isPublished_fileStart spares file st)
    exact ⟨.reason _ _, told⟩
  | @fileFailed flow total done file files st st' exit live walk graded ih =>
    obtain ⟨-, told⟩ := ih trivial writes (Iteration.isPublished_fileStart spares file st)
    exact ⟨.reason _ _, told⟩

end

/-- In a scope that tells about its files every fact is a variable. -/
theorem Scope.IsPublished.exists_get? {s : Scope} (published : s.IsPublished) {key : String}
    (mem : key ∈ fileKeys) : ∃ value, s.vars.get? key = some value := by
  obtain ⟨fact, there, rfl⟩ := List.mem_map.1 (show key ∈ s.fileFacts.map Prod.fst from mem)
  exact ⟨fact.2, published fact there⟩

/-- The variables that a flow declares fill in for absent ones only, so a run begins with the facts
as they are. -/
theorem edits_prepareRun (site : Site) (flow : Flow) {st : Standing}
    (published : st.context.toScope.IsPublished) :
    st.context.toScope.Edits (prepareRun site flow st).context.toScope := by
  refine .others _ ?_
  intro key mem
  obtain ⟨value, there⟩ := published.exists_get? mem
  rw [Dict.get?_overlay, there]
  rfl

/-- **Every part that starts finds the facts of its files.** Let a run begin with a context that
was made for a file, whatever its seeds held, and that was edited since. If no registered flow
declares a fact of a file, and no part that starts writes one by a call, by setting a variable or
by what its script makes of the variables, then whenever a part starts, at any depth and also in
the walks for the files of a folder, the variables of its context tell what is derived from the
working file and from the original file of that context. In the end the context is edited again,
so this holds of the runs that follow as well. -/
theorem starting_parts_find_the_facts_of_their_files (site : Site) (registry : Registry)
    (flow : Flow) (file : Path) (seeds : Variables) (st : Standing)
    (begins : (Scope.forFile file seeds).Edits st.context.toScope)
    (declares : ∀ g ∈ registry.flows, g.SparesFacts)
    (writes : (prepareRun site flow st).ledger.Throughout (Event.SparesFacts site registry)
      ((runFlow site registry flow st).2.ledger.since st.ledger)) :
    (∀ f part c,
      .started f part c ∈ (runFlow site registry flow st).2.ledger.since st.ledger →
        ∀ fact ∈ Scope.originalFileFacts c.originalFile ++ Scope.workingFileFacts c.workingFile,
          c.vars.get? fact.1 = some fact.2) ∧
      (Scope.forFile file seeds).Edits (runFlow site registry flow st).2.context.toScope := by
  have published : st.context.toScope.IsPublished :=
    begins.isPublished (Scope.isPublished_forFile file seeds)
  have prepared := edits_prepareRun site flow published
  obtain ⟨exit, final, walk, run⟩ := runFlow_comesTo site registry flow st
  rw [run] at writes ⊢
  rw [reportRun_ledger] at writes ⊢
  obtain ⟨edits, told⟩ := walk.edits declares trivial writes (prepared.isPublished published)
  refine ⟨?_, ?_⟩
  · intro f part c started
    exact told.since _ started
  · have reported : final.context.toScope.Edits (reportRun flow exit final).2.context.toScope := by
      unfold reportRun
      dsimp only
      split
      · exact .refl _
      · exact .refl _
    exact ((begins.trans prepared).trans edits).trans reported

namespace Sample

/-- A node whose scripts keep the variables and go on with another file. -/
def movingSite : Site :=
  { site with
    scripts := fun _ input =>
      ⟨.integer 1, some (input.vars.map fun _ v => some v), [.setWorkingFile "out/b.mkv"]⟩ }

/-- The start of a run with a seed that tells of another file. -/
def misled : Standing :=
  .fresh ⟨"in/a.txt"⟩ (.ofList [("file.FullName", .str "elsewhere")]) false

/-- The run of the flow of three steps on that node. -/
def movingRun : RunResult × Standing := runFlow movingSite scripts stepping misled

theorem comesTo_moving {part : Part} (ref : part.stepRef = .ok (.script "tally"))
    (st : Standing) :
    ComesTo movingSite scripts (.attempt stepping part) st (.done .success)
      (Turn.act movingSite (tally part st.context.vars)
        (Turn.checked (.acting (tally part st.context.vars)) st)).2 :=
  .plain (step?_tally ref st.context.vars) rfl

/-- The first script moves to another file, which the later parts start with. -/
theorem journal_movingRun : ∃ c₁ c₂ c₃ : Context,
    c₃.workingFile = ⟨"out/b.mkv"⟩ ∧ c₃.originalFile = ⟨"in/a.txt"⟩ ∧
      movingRun.2.ledger.journal =
        [.finished stepping closing .success 0, .started stepping closing c₃,
          .finished stepping unknown .failure 0, .started stepping unknown c₂,
          .finished stepping opening .success 0, .started stepping opening c₁] := by
  have walk : ComesTo movingSite scripts (.walk stepping) (prepareRun movingSite stepping misled)
      (.leave .completed) _ :=
    .enter (by decide) rfl
      (.next rfl rfl (by decide) (comesTo_moving stepRef_opening _) rfl
        (.next rfl rfl (by decide) (.unresolved (ofPart_unknown _)) rfl
          (.last rfl rfl (by decide) (comesTo_moving stepRef_closing _) rfl)))
  rw [movingRun, runFlow, comesTo_walk_iff.1 walk, reportRun_ledger]
  refine ⟨_, _, _, ?_, ?_, rfl⟩
  · rfl
  · rfl

/-- No part of the flow writes a fact of a file. -/
theorem sparesFacts_started {flow : Flow} {part : Part} (c : Context) (l : Ledger)
    (among : part = opening ∨ part = unknown ∨ part = closing) :
    (Event.started flow part c).SparesFacts movingSite scripts l := by
  have script {part : Part} (ref : part.stepRef = .ok (.script "tally")) :
      (Event.started flow part c).SparesFacts movingSite scripts l := by
    intro task asks
    rw [Task.ofPart_of_stepRef ref] at asks
    cases asks
    rintro made ⟨⟩ key -
    exact Dict.get?_map _ _ _
  rcases among with rfl | rfl | rfl
  · exact script stepRef_opening
  · intro task asks
    rw [ofPart_unknown] at asks
    cases asks
  · exact script stepRef_closing

end Sample

/-- The last part starts with the facts of the file that the script before it has moved to. -/
theorem last_part_finds_the_moved_file : ∃ c : Context,
    .started Sample.stepping Sample.closing c ∈
      Sample.movingRun.2.ledger.since Sample.misled.ledger ∧
    c.vars.get? "file.FullName" = some (.str "out/b.mkv") ∧
    c.vars.get? "file.Orig.FullName" = some (.str "in/a.txt") := by
  obtain ⟨c₁, c₂, c₃, working, original, journal⟩ := Sample.journal_movingRun
  have since : (runFlow Sample.movingSite Sample.scripts Sample.stepping
      Sample.misled).2.ledger.since Sample.misled.ledger = _ :=
    Ledger.since_eq (journal.trans (List.append_nil _).symm)
  obtain ⟨finds, -⟩ := starting_parts_find_the_facts_of_their_files Sample.movingSite
    Sample.scripts Sample.stepping ⟨"in/a.txt"⟩ (.ofList [("file.FullName", .str "elsewhere")])
    Sample.misled (.refl _) nofun (by
      rw [since]
      exact ⟨trivial, Sample.sparesFacts_started _ _ (.inr (.inr rfl)), trivial,
        Sample.sparesFacts_started _ _ (.inr (.inl rfl)), trivial,
        Sample.sparesFacts_started _ _ (.inl rfl), trivial⟩)
  have started : .started Sample.stepping Sample.closing c₃ ∈ (runFlow Sample.movingSite
      Sample.scripts Sample.stepping Sample.misled).2.ledger.since Sample.misled.ledger := by
    rw [since]
    simp
  have facts := finds _ _ _ started
  rw [working, original] at facts
  refine ⟨c₃, started, ?_, ?_⟩
  · exact facts ("file.FullName", .str "out/b.mkv") (by simp [Scope.workingFileFacts])
  · exact facts ("file.Orig.FullName", .str "in/a.txt") (by simp [Scope.originalFileFacts])

end FlowGraph
