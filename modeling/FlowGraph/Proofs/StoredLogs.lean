import FlowGraph.Proofs.FileWriting
import FlowGraph.Proofs.StoredFlows
import FlowGraph.Run.LogFile

/-!
# Run logs survive storage

A log is written as indented JSON and read from the bytes of its file. What is absent is written
as null, but for the state of the failure flow, which is left out; both are read as absent again.
So the log that is loaded from a run folder is the one that was written there last.
-/

namespace FlowGraph

/-- The numbers of the record have the bits of their fields. -/
structure ExecutedStep.Fits (s : ExecutedStep) : Prop where
  step : s.step < UInt32.size
  resultCode : -0x80000000 ≤ s.resultCode ∧ s.resultCode ≤ 0x7fffffff
  durationMs : s.durationMs < UInt64.size
  depth : s.depth < UInt32.size

/-- The numbers of the log and its records have the bits of their fields. -/
structure RunLog.Fits (log : RunLog) : Prop where
  version : log.version < UInt32.size
  steps : ∀ s ∈ log.steps, s.Fits

/-! ## What was written is read -/

/-- The values of the fields of a record. -/
def ExecutedStep.values (s : ExecutedStep) : Json.Values [Nat, String, String, Int, Nat, Nat] :=
  (s.step, s.name, s.element, s.resultCode, s.durationMs, s.depth, ())

/-- The values of the fields of a log. -/
def RunLog.values (log : RunLog) : Json.Values [Nat, String, String, String, Option String,
    Option RunState, Option String, List ExecutedStep, Option RunState] :=
  (log.version, log.flow, log.file, log.startedAt, log.finishedAt, log.finalState,
    log.failureReason, log.steps, log.failureFlowState, ())

theorem ExecutedStep.reads {s : ExecutedStep} (fits : s.Fits) :
    ExecutedStep.decoder.Reads s.toJson s := by
  refine Json.reads_record (?_ : Json.Writes _ s.values _) (by decide) "ExecutedStep" _
  exact .written (Json.reads_natural32 fits.step) <|
    .written (Json.reads_text s.name) <|
    .written (Json.reads_text s.element) <|
    .written (Json.reads_int32 fits.resultCode) <|
    .written (Json.reads_natural64 fits.durationMs) <|
    .written (Json.reads_natural32 fits.depth) .nil

theorem RunState.lookup_text (state : RunState) :
    RunState.named.lookup state.text = some state := by
  cases state with
  | completed | failed | canceled | terminalExit => rfl

theorem RunState.reads (state : RunState) :
    (Json.variant RunState.named).Reads (.str state.text) state :=
  Json.reads_variant state.lookup_text

/-- A text that may be absent is written as null then. -/
theorem Json.reads_text? (s? : Option String) :
    (Json.optional Json.text).Reads (.ofText? s?) s? := by
  cases s? with
  | none => exact Json.reads_optional_none Json.text
  | some s => exact (Json.reads_text s).optional nofun

/-- A state that may be absent is written as null then. -/
theorem RunLog.reads_state? (state? : Option RunState) :
    (Json.optional (Json.variant RunState.named)).Reads (RunLog.stateJson? state?) state? := by
  cases state? with
  | none => exact Json.reads_optional_none (Json.variant RunState.named)
  | some state => exact state.reads.optional nofun

theorem RunLog.reads {log : RunLog} (fits : log.Fits) : RunLog.decoder.Reads log.toJson log := by
  have steps : (Json.list ExecutedStep.decoder).Reads
      (.arr (log.steps.map ExecutedStep.toJson)) log.steps :=
    Json.reads_list fun s mem => ExecutedStep.reads (fits.steps s mem)
  have left := Json.Writes.present "failure_flow_state"
    (fun state (_ : state ∈ log.failureFlowState) => state.reads) (fun _ => nofun) .nil
  rw [List.append_nil] at left
  refine Json.reads_record (?_ : Json.Writes _ log.values _) (by decide) "RunLog" _
  exact .written (Json.reads_natural32 fits.version) <|
    .written (Json.reads_text log.flow) <|
    .written (Json.reads_text log.file) <|
    .written (Json.reads_text log.startedAt) <|
    .written (Json.reads_text? log.finishedAt) <|
    .written (RunLog.reads_state? log.finalState) <|
    .written (Json.reads_text? log.failureReason) <|
    .written steps left

/-! ## What is written -/

theorem ExecutedStep.isWhole_toJson {s : ExecutedStep} (fits : s.Fits) : s.toJson.IsWhole :=
  ⟨Json.isWhole_natural32 fits.step, trivial, trivial, Json.isWhole_int32 fits.resultCode,
    Json.isWhole_natural64 fits.durationMs, Json.isWhole_natural32 fits.depth, trivial⟩

/-- What holds of texts, of null, of the version and of the list of records holds of every value
that is written of a log. -/
theorem RunLog.forall_toJson (Q : Json → Prop) {log : RunLog} {fields : List (String × Json)}
    (object : log.toJson = .obj fields) (texts : ∀ s, Q (.str s)) (null : Q .null)
    (version : Q (.int log.version)) (steps : Q (.arr (log.steps.map ExecutedStep.toJson))) :
    ∀ e ∈ fields, Q e.2 := by
  have text? (s? : Option String) : Q (.ofText? s?) := by
    cases s? with
    | none => exact null
    | some s => exact texts s
  have state? : Q (stateJson? log.finalState) := by
    cases log.finalState with
    | none => exact null
    | some state => exact texts state.text
  cases object
  simp only [List.forall_mem_append, List.forall_mem_cons]
  refine ⟨⟨version, texts _, texts _, texts _, text? _, state?, text? _, steps, ?_⟩, ?_⟩
  · exact List.forall_mem_nil _
  · exact Json.forall_present fun _ _ => texts _

theorem RunLog.isWhole_toJson {log : RunLog} (fits : log.Fits) : log.toJson.IsWhole := by
  refine Json.wholeFields_iff.2 (RunLog.forall_toJson Json.IsWhole rfl (fun _ => trivial) trivial
    (Json.isWhole_natural32 fits.version) ?_)
  exact Json.isWhole_map fun s mem => ExecutedStep.isWhole_toJson (fits.steps s mem)

theorem RunLog.depth_toJson_le (log : RunLog) : log.toJson.depth ≤ 3 := by
  have flat (s : ExecutedStep) : s.toJson.depth = 1 := rfl
  refine Nat.succ_le_succ (Json.depthOfFields_le.2 (RunLog.forall_toJson (fun v => v.depth ≤ 2)
    rfl (fun _ => Nat.zero_le _) (Nat.zero_le _) (Nat.zero_le _) ?_))
  exact Json.depth_map_le fun s _ => Nat.le_of_eq (flat s)

/-! ## There and back -/

theorem FileTree.jsonChars_toUTF8 (s : String) : FileTree.jsonChars s.toUTF8 = s.toList := by
  simp only [FileTree.jsonChars, Text.fromUTF8?_toUTF8]

/-- A log is loaded from a file that holds its bytes. -/
theorem RunLog.Fits.load {log : RunLog} (fits : log.Fits) {files : FileTree} {p : Path}
    (holds : files.read p = .ok log.bytes) : RunLog.load files p = .ok log := by
  have shallow : log.toJson.depth ≤ Json.maxDepth :=
    Nat.le_trans log.depth_toJson_le (by decide)
  obtain ⟨-, decodes⟩ := (RunLog.reads fits).decodeText (RunLog.isWhole_toJson fits) shallow
  have decoded : FileTree.decodeBytes RunLog.decoder log.bytes = .ok log := by
    unfold FileTree.decodeBytes RunLog.bytes
    rw [FileTree.jsonChars_toUTF8]
    exact decodes
  simp only [RunLog.load, holds, decoded]

/-- Writing a log makes its run folder and writes its bytes there. -/
theorem RunLog.writes_of_writeTo {log : RunLog} {runDir p : Path} {files files' : FileTree}
    (writes : log.writeTo runDir files = .ok (files', p)) :
    p = pathIn runDir ∧ ∃ folders, files.createFolders runDir = .ok folders ∧
      folders.write (pathIn runDir) log.bytes = .ok files' := by
  cases made : files.createFolders runDir with
  | error e =>
    simp only [writeTo, made, bind, Except.bind] at writes
    cases writes
  | ok folders =>
    cases written : folders.write (pathIn runDir) log.bytes with
    | error e =>
      simp only [writeTo, made, written, bind, Except.bind] at writes
      cases writes
    | ok after =>
      simp only [writeTo, made, written, bind, Except.bind] at writes
      cases writes
      exact ⟨rfl, folders, rfl, written⟩

/-- The file of a log that was written holds its bytes. -/
theorem RunLog.read_writeTo {log : RunLog} {runDir p : Path} {files files' : FileTree}
    (writes : log.writeTo runDir files = .ok (files', p)) : files'.read p = .ok log.bytes := by
  obtain ⟨rfl, folders, -, written⟩ := RunLog.writes_of_writeTo writes
  exact FileTree.read_write written

/-- **Run logs survive storage.** A log that was written into a run folder, whatever lay there
before, is loaded from the path that writing returned, the same in every field. So the log of a
run that has finished tells the state of its result, the reason and exactly the executed steps. -/
theorem log_is_read_back :
    (∀ (log : RunLog) (runDir p : Path) (files files' : FileTree), log.Fits →
      log.writeTo runDir files = .ok (files', p) → RunLog.load files' p = .ok log) ∧
    ∀ (flow file startedAt finishedAt : String) (result : RunResult) (runDir p : Path)
      (files files' : FileTree), (∀ s ∈ result.executedSteps, s.Fits) →
      ((RunLog.started flow file startedAt).finish result finishedAt).writeTo runDir files =
        .ok (files', p) →
      ∃ log, RunLog.load files' p = .ok log ∧ log.finalState = some result.state ∧
        log.failureReason = result.failureReason ∧ log.steps = result.executedSteps := by
  constructor
  · intro log runDir p files files' fits writes
    exact fits.load (RunLog.read_writeTo writes)
  · intro flow file startedAt finishedAt result runDir p files files' fits writes
    have version : RunLog.currentVersion < UInt32.size := by decide
    have finished : ((RunLog.started flow file startedAt).finish result finishedAt).Fits :=
      ⟨version, fits⟩
    exact ⟨_, finished.load (RunLog.read_writeTo writes), rfl, rfl, rfl⟩

namespace Sample

open FileTree

/-- The record of a step with the greatest numbers that it can hold. -/
def lastRecord : ExecutedStep :=
  { step := 0xffffffff, name := "a \"b\"\n", element := "Basic.Log", resultCode := -0x80000000,
    durationMs := 0xffffffffffffffff, depth := 0xffffffff }

/-- What a run reported that failed without a reason. -/
def failedResult : RunResult :=
  { state := .failed, failureReason := none, executedSteps := [lastRecord], lastCode := none,
    failedStep := none, failedFlow := none, vars := .empty }

/-- The log of that run. -/
def failedLog : RunLog :=
  (RunLog.started "listed" "in/a.txt" "2026-02-14T10:00:00Z").finish failedResult
    "2026-02-14T10:01:00Z"

theorem fits_lastRecord : lastRecord.Fits where
  step := by decide
  resultCode := by decide
  durationMs := by decide
  depth := by decide

/-- Where a run folder is a link to a folder in which the log has these bytes. -/
def linkedRuns (bytes : ByteArray) : FileTree :=
  ⟨[("home", .folder [("runs", .link "/old")]), ("old", .folder [(RunLog.fileName, .file bytes)])],
    ["home"]⟩

/-- The current folder. -/
def atHome (bytes : ByteArray) : Cursor :=
  ⟨.folder [("runs", .link "/old")], [("home", .folder (linkedRuns bytes).root)]⟩

/-- The folder with the log. -/
def oldRuns (bytes : ByteArray) : Cursor :=
  ⟨.folder [(RunLog.fileName, .file bytes)], [("old", .folder (linkedRuns bytes).root)]⟩

section
variable (bytes : ByteArray)

theorem lookup_home :
    (linkedRuns bytes).root.lookup "home" = some (.folder [("runs", .link "/old")]) := by
  rfl

theorem lookup_old :
    (linkedRuns bytes).root.lookup "old" = some (.folder [(RunLog.fileName, .file bytes)]) := by
  rfl

theorem lookup_runs : [("runs", Entry.link "/old")].lookup "runs" = some (.link "/old") := by
  rfl

theorem base_runs :
    (atHome bytes).base (linkedRuns bytes).start.entry "/old" = (linkedRuns bytes).start :=
  if_pos (by decide)

theorem follow_home (rest : List String) :
    follow (linkedRuns bytes).start.entry maxLinks (linkedRuns bytes).start ("home" :: rest) =
      follow (linkedRuns bytes).start.entry maxLinks (atHome bytes) rest :=
  follow_child rfl (by decide) (by decide) (lookup_home bytes) (fun _ => nofun)

theorem follow_runs :
    follow (linkedRuns bytes).start.entry maxLinks (atHome bytes) ["runs"] =
      .ok (oldRuns bytes) := by
  have target : steps "/old" ++ [] = ["", "old"] := by rfl
  rw [maxLinks, follow_link rfl (by decide) (by decide) lookup_runs (by decide), base_runs, target,
    follow_blank rfl (.inl rfl),
    follow_child rfl (by decide) (by decide) (lookup_old bytes) (fun _ => nofun), follow]
  rfl

/-- The run folder is there already. -/
theorem createFolders_runs :
    (linkedRuns bytes).createFolders ⟨"runs"⟩ = .ok (linkedRuns bytes) := by
  have chain : withAncestors 5 ⟨"runs"⟩ = [⟨"runs"⟩] := by rfl
  have last : (spokenSteps ⟨"runs"⟩).reverse = ["runs"] := by rfl
  have piece : steps "runs" = ["runs"] := by rfl
  have base : (linkedRuns bytes).base ⟨"runs"⟩ = ["home"] := if_neg (by decide)
  have there : (linkedRuns bytes).create ⟨"runs"⟩ (.folder []) = .error .exists := by
    have home : (linkedRuns bytes).goTo ⟨"runs"⟩ [].reverse = .ok (atHome bytes) := by
      rw [goTo, base, List.reverse_nil, List.append_nil, follow_home, follow]
    simp only [create, last, home]
    rfl
  have folder : (linkedRuns bytes).isFolder ⟨"runs"⟩ = true := by
    have found : (linkedRuns bytes).goTo ⟨"runs"⟩ (steps "runs") = .ok (oldRuns bytes) := by
      rw [goTo, base, piece, List.singleton_append, follow_home, follow_runs]
    simp only [isFolder, find, found]
    rfl
  show (linkedRuns bytes).createChain (withAncestors 5 ⟨"runs"⟩) = _
  rw [chain]
  simp only [createChain, there, folder]
  rfl

theorem place_folder {root : Entry} {links : Nat} {c : Cursor}
    {entries children : List (String × Entry)} (inFolder : c.entry = .folder entries)
    {step : String} (blank : ¬(step = "" ∨ step = ".")) (up : step ≠ "..")
    (found : entries.lookup step = some (.folder children)) (rest : List String) :
    place root links c (step :: rest) =
      place root links ⟨.folder children, (step, .folder entries) :: c.above⟩ rest := by
  rw [place, inFolder]
  simp only [if_neg blank, if_neg up, found]
  exact if_neg fun last => Bool.false_ne_true last.2

/-- The log goes into the folder behind the link. -/
theorem place_runs :
    place (linkedRuns bytes).start.entry maxLinks (linkedRuns bytes).start
        ["home", "runs", RunLog.fileName] =
      .ok (oldRuns bytes, RunLog.fileName) := by
  have target : steps "/old" ++ [RunLog.fileName] = ["", "old", RunLog.fileName] := by rfl
  have through : place (linkedRuns bytes).start.entry maxLinks (atHome bytes)
      ["runs", RunLog.fileName] =
        place (linkedRuns bytes).start.entry 39 (linkedRuns bytes).start
          ["", "old", RunLog.fileName] := by
    rw [← target, ← base_runs, place, atHome]
    simp only [lookup_runs, maxLinks]
    rfl
  have blank : place (linkedRuns bytes).start.entry 39 (linkedRuns bytes).start
      ["", "old", RunLog.fileName] =
        place (linkedRuns bytes).start.entry 39 (linkedRuns bytes).start
          ["old", RunLog.fileName] := by
    rw [place]
    rfl
  have last : place (linkedRuns bytes).start.entry 39 (oldRuns bytes) [RunLog.fileName] =
      .ok (oldRuns bytes, RunLog.fileName) := by
    have file : [(RunLog.fileName, Entry.file bytes)].lookup RunLog.fileName =
        some (.file bytes) := by
      rfl
    have notBlank : ¬(RunLog.fileName = "" ∨ RunLog.fileName = ".") := by decide
    have notUp : RunLog.fileName ≠ ".." := by decide
    rw [oldRuns, place]
    simp only [if_neg notBlank, if_neg notUp, file]
    rfl
  rw [place_folder rfl (by decide) (by decide) (lookup_home bytes), ← last]
  refine through.trans (blank.trans ?_)
  exact place_folder rfl (by decide) (by decide) (lookup_old bytes) _

end

theorem writeTo_runs (before : ByteArray) (log : RunLog) :
    log.writeTo ⟨"runs"⟩ (linkedRuns before) =
      .ok (linkedRuns log.bytes, ⟨"runs/run.log.json"⟩) := by
  have path : RunLog.pathIn ⟨"runs"⟩ = ⟨"runs/run.log.json"⟩ := by rfl
  have base : (linkedRuns before).base ⟨"runs/run.log.json"⟩ = ["home"] := if_neg (by decide)
  have pieces : steps "runs/run.log.json" = ["runs", RunLog.fileName] := by rfl
  have written : (linkedRuns before).write ⟨"runs/run.log.json"⟩ log.bytes =
      .ok (linkedRuns log.bytes) := by
    rw [write, if_neg (by decide), base, pieces, List.singleton_append, place_runs]
    rfl
  simp only [RunLog.writeTo, path, createFolders_runs, written, bind, Except.bind]
  rfl

end Sample

/-- The log with the greatest numbers is read back, and so is what it tells of its run. -/
theorem linked_log_is_read_back :
    RunLog.load (Sample.linkedRuns Sample.failedLog.bytes) ⟨"runs/run.log.json"⟩ =
        .ok Sample.failedLog ∧
      ∃ log, RunLog.load (Sample.linkedRuns Sample.failedLog.bytes) ⟨"runs/run.log.json"⟩ =
          .ok log ∧
        log.finalState = some .failed ∧ log.failureReason = none ∧
        log.steps = [Sample.lastRecord] := by
  obtain ⟨whole, outcome⟩ := log_is_read_back
  have steps : ∀ s ∈ Sample.failedResult.executedSteps, s.Fits := by
    intro s mem
    rw [List.mem_singleton.1 mem]
    exact Sample.fits_lastRecord
  have fits : Sample.failedLog.Fits := ⟨by decide, steps⟩
  have writes := Sample.writeTo_runs ⟨#[]⟩ Sample.failedLog
  constructor
  · exact whole Sample.failedLog ⟨"runs"⟩ _ _ _ fits writes
  · exact outcome "listed" "in/a.txt" _ _ Sample.failedResult ⟨"runs"⟩ _ _ _ steps writes

end FlowGraph
