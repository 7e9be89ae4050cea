import FlowGraph.Proofs.InnerPaths
import FlowGraph.Proofs.Trail

/-!
# How far an iteration goes

An iteration walks its flow for one file after the other and reports after each of them how many
are done. It goes on for as long as the walks are acceptable and the run is not canceled; the first
file at which that is not so decides what it comes to (`Iterates`). What it tells is the news of
the walks, in order, each followed by the report of the iteration itself (`Iterates.journal`).
-/

namespace FlowGraph

/-- After the walk for a file that ended so, the next file may follow. -/
def Exit.IsAcceptable (exit : Exit) : Prop :=
  exit = .completed ∨ exit = .returned .completed ∨ exit = .returned (.output 1)

namespace Iteration

section
variable (walk : Walk) (flow : Flow) (files : List Path) (st : Standing)

/-- Where an iteration stands after the walk for a file, with its report that so many are done. -/
def passed (done : Nat) (file : Path) (st : Standing) : Standing :=
  let walked := walk.go flow (fileStart flow file st)
  (st.withLedger walked.2.ledger).tell [.progress (.share done files.length)]

/-- Where an iteration stands before the file of an index, if it goes on after all before it. -/
def before : Nat → Standing
  | 0 => st
  | i + 1 =>
    match files[i]? with
    | some file => passed walk flow files (i + 1) file (before i)
    | none => before i

/-- What the walk for the file of an index tells, in order. -/
def news (i : Nat) : List Event :=
  match files[i]? with
  | some file =>
    let start := before walk flow files st i
    ((walk.go flow (fileStart flow file start)).2.ledger.since start.ledger).reverse
  | none => []

/-- What is told up to the file of an index, in order: the news of each walk before it, and after
them the report of the iteration. -/
def told (i : Nat) : List Event :=
  (List.range i).flatMap fun j =>
    news walk flow files st j ++ [.notice (.progress (.share (j + 1) files.length))]

/-- Where the walks start that an iteration starts if it goes on after so many files. The walk for
the next file is one of them, unless the run is canceled by then. -/
def starts (i : Nat) : List Standing :=
  let at_ := before walk flow files st
  (List.range (if (at_ i).ledger.canceled then i else i + 1)).filterMap fun j =>
    files[j]?.map fun file => fileStart flow file (at_ j)

/-- An iteration that comes to the file of an index goes on after it. -/
structure GoesOn (i : Nat) : Prop where
  live : (before walk flow files st i).ledger.canceled = false
  acceptable : ∃ file, files[i]? = some file ∧
    (walk.go flow (fileStart flow file (before walk flow files st i))).1.IsAcceptable

/-- An iteration comes to the file of an index, and the walk for it is not acceptable. -/
structure EndsAt (i : Nat) (file : Path) (exit : Exit) (after : Standing) : Prop where
  earlier : ∀ j < i, GoesOn walk flow files st j
  live : (before walk flow files st i).ledger.canceled = false
  found : files[i]? = some file
  walked : walk.go flow (fileStart flow file (before walk flow files st i)) = (exit, after)
  unacceptable : ¬ exit.IsAcceptable

/-- An iteration goes on after so many files, and then comes to a result and a standing. The
failure of a walk is taken over: its reason and its place, as far as it has them. -/
inductive Iterates : Nat → StepResult → Standing → Prop where
  | nothing (none : files = []) : Iterates 0 (.output 2) st
  | all (some : files ≠ []) (on : ∀ i < files.length, GoesOn walk flow files st i) :
      Iterates files.length (.output 1) (before walk flow files st files.length)
  | signaled {i : Nat} (inside : i < files.length) (on : ∀ j < i, GoesOn walk flow files st j)
      (signal : (before walk flow files st i).ledger.canceled = true) :
      Iterates i .canceled (before walk flow files st i)
  | canceled {i : Nat} {file : Path} {exit : Exit} {after : Standing}
      (ends : EndsAt walk flow files st i file exit after) (is : exit.asStepResult = .canceled) :
      Iterates i .canceled ⟨st.context, after.ledger⟩
  | terminal {i : Nat} {file : Path} {exit : Exit} {after : Standing}
      (ends : EndsAt walk flow files st i file exit after)
      (is : exit.asStepResult = .terminalExit) :
      Iterates i .terminalExit
        ⟨{ st.context with
            failureReason := after.context.failureReason.or st.context.failureReason
            failedAt := after.context.failedAt.or st.context.failedAt }, after.ledger⟩
  | failed {i : Nat} {file : Path} {exit : Exit} {after : Standing}
      (ends : EndsAt walk flow files st i file exit after)
      (is : exit.asStepResult.isStop = false) :
      Iterates i .failure
        ⟨{ st.context with
            failureReason := some ((after.context.failureReason.or st.context.failureReason).getD
              (fallbackReason file exit))
            failedAt := after.context.failedAt.or st.context.failedAt }, after.ledger⟩

end

section
variable {walk : Walk} {flow : Flow} {files : List Path} {st : Standing}

/-! ## Grades -/

/-- The next file may follow exactly after the exits that are acceptable. -/
theorem grade_eq_acceptable_iff {exit : Exit} : grade exit = .acceptable ↔ exit.IsAcceptable := by
  constructor
  · intro graded
    unfold grade at graded
    split at graded
    · exact .inl rfl
    · exact .inr (.inl rfl)
    · exact .inr (.inr rfl)
    all_goals cases graded
  · rintro (rfl | rfl | rfl) <;> rfl

/-! ## Where an iteration stands -/

theorem before_succ {i : Nat} {file : Path} (found : files[i]? = some file) :
    before walk flow files st (i + 1) =
      passed walk flow files (i + 1) file (before walk flow files st i) := by
  rw [before, found]

/-- As long as it goes on, an iteration leaves its context as it was. -/
theorem before_context (i : Nat) : (before walk flow files st i).context = st.context := by
  induction i with
  | zero => rfl
  | succ i ih =>
    unfold before
    split
    · exact ih
    · exact ih

/-- The walks of an iteration are nested as deeply as its context says. -/
theorem nestedWalk_before {site : Site} {registry : Registry} (flow : Flow) (files : List Path)
    (file : Path) (st : Standing) (i : Nat) :
    let start := before (nestedWalk site registry st) flow files st i
    (nestedWalk site registry st).go flow (fileStart flow file start) =
      walkFlow site registry flow (fileStart flow file start) := by
  intro start
  have depth : st.context.depth = start.context.depth := congrArg Context.depth
    (before_context i).symm
  rw [← nestedWalk_fileStart, ← nestedWalk_congr depth]

/-- The walk for a file tells its news. -/
theorem journal_walk {i : Nat} {file : Path} (found : files[i]? = some file) :
    (walk.go flow (fileStart flow file (before walk flow files st i))).2.ledger.journal =
      (news walk flow files st i).reverse ++ (before walk flow files st i).ledger.journal := by
  have onward := walk.onward flow (fileStart flow file (before walk flow files st i))
  rw [news, found, ← onward.ledger.since_append]
  simp

/-- Going on after a file tells the news of its walk and then the report. -/
theorem told_succ (i : Nat) :
    told walk flow files st (i + 1) =
      told walk flow files st i ++ (news walk flow files st i ++
        [.notice (.progress (.share (i + 1) files.length))]) := by
  simp [told, List.range_succ]

theorem before_journal {i : Nat} (inside : i ≤ files.length) :
    (before walk flow files st i).ledger.journal =
      (told walk flow files st i).reverse ++ st.ledger.journal := by
  induction i with
  | zero => rfl
  | succ i ih =>
    obtain ⟨file, found⟩ : ∃ file, files[i]? = some file :=
      ⟨_, List.getElem?_eq_getElem inside⟩
    have earlier := ih (Nat.le_of_succ_le inside)
    rw [before_succ found, told_succ, passed]
    simp [journal_walk found, earlier]

/-! ## What an iteration comes to -/

theorem drop_of_found {files : List Path} {i : Nat} {file : Path} (found : files[i]? = some file) :
    files.drop i = file :: files.drop (i + 1) := by
  obtain ⟨inside, rfl⟩ := List.getElem?_eq_some_iff.1 found
  exact List.drop_eq_getElem_cons inside

/-- An iteration that goes on after the first files has the others left. -/
theorem visit_of_goesOn {i : Nat} (on : ∀ j < i, GoesOn walk flow files st j) :
    visit walk flow files.length 0 files st =
      visit walk flow files.length i (files.drop i) (before walk flow files st i) := by
  induction i with
  | zero => rfl
  | succ i ih =>
    have earlier : ∀ j < i, GoesOn walk flow files st j := fun j less =>
      on j (Nat.lt_succ_of_lt less)
    have goesOn := on i (Nat.lt_succ_self i)
    obtain ⟨file, found, acceptable⟩ := goesOn.acceptable
    have graded := grade_eq_acceptable_iff.2 acceptable
    have left := drop_of_found found
    rw [ih earlier, left, visit, goesOn.live, if_neg Bool.false_ne_true]
    simp only [graded]
    rw [before_succ found, passed]

/-- At a file whose walk is not acceptable an iteration ends, with the failure of the walk. -/
theorem EndsAt.iterates {i : Nat} {file : Path} {exit : Exit} {after : Standing}
    (h : EndsAt walk flow files st i file exit after) :
    let visited := visit walk flow files.length 0 files st
    Iterates walk flow files st i visited.1 visited.2 := by
  have left := drop_of_found h.found
  have context : (before walk flow files st i).context = st.context := before_context i
  rw [visit_of_goesOn h.earlier, left, visit, h.live, if_neg Bool.false_ne_true]
  simp only [h.walked]
  cases graded : grade exit with
  | acceptable => exact absurd (grade_eq_acceptable_iff.1 graded) h.unacceptable
  | canceled =>
    have is := asStepResult_of_grade (congrArg Grade.stop? graded)
    have canceled := Iterates.canceled h is
    rw [← context] at canceled
    exact canceled
  | terminal =>
    have is := asStepResult_of_grade (congrArg Grade.stop? graded)
    have terminal := Iterates.terminal h is
    rw [← context] at terminal
    exact terminal
  | failed =>
    have is := isStop_of_grade (congrArg Grade.stop? graded)
    have failed := Iterates.failed h is
    have reason : adoptFailed file exit after.context
        ((before walk flow files st i).withLedger after.ledger) =
          ⟨{ (before walk flow files st i).context with
            failureReason := some ((after.context.failureReason.or
              (before walk flow files st i).context.failureReason).getD (fallbackReason file exit))
            failedAt := after.context.failedAt.or
              (before walk flow files st i).context.failedAt }, after.ledger⟩ := by
      rw [← Option.or_some]
      rfl
    rw [← context, ← reason] at failed
    exact failed

/-- An iteration that has come to the file of an index ends there or later. -/
theorem visit_iterates_from (some : files ≠ []) {i : Nat} (inside : i ≤ files.length)
    (on : ∀ j < i, GoesOn walk flow files st j) :
    let visited := visit walk flow files.length 0 files st
    ∃ k, Iterates walk flow files st k visited.1 visited.2 := by
  generalize remain : files.length - i = left
  induction left generalizing i with
  | zero =>
    obtain rfl : i = files.length := by omega
    have all := Iterates.all some on
    rw [visit_of_goesOn on, List.drop_length]
    exact ⟨files.length, all⟩
  | succ left ih =>
    have further : i < files.length := by omega
    obtain ⟨file, found⟩ : ∃ file, files[i]? = .some file :=
      ⟨_, List.getElem?_eq_getElem further⟩
    by_cases signal : (before walk flow files st i).ledger.canceled = true
    · have left := drop_of_found found
      rw [visit_of_goesOn on, left, visit, if_pos signal]
      exact ⟨i, .signaled further on signal⟩
    · have live := Bool.eq_false_iff.2 signal
      cases walked : walk.go flow (fileStart flow file (before walk flow files st i)) with
      | mk exit after =>
      by_cases acceptable : exit.IsAcceptable
      · have goesOn : GoesOn walk flow files st i := ⟨live, file, found, by rwa [walked]⟩
        refine ih further (fun j less => ?_) (by omega)
        rcases Nat.lt_succ_iff_lt_or_eq.1 less with less | rfl
        · exact on j less
        · exact goesOn
      · have ends : EndsAt walk flow files st i file exit after :=
          ⟨on, live, found, walked, acceptable⟩
        exact ⟨i, ends.iterates⟩

/-- **An iteration goes on until the first file at which it does not.** -/
theorem run_iterates (walk : Walk) {site : Site} {registry : Registry} {e : EachFile}
    (plan : plan site registry e st = .ok (flow, files)) :
    let step := run site registry walk e st
    ∃ i, Iterates walk flow files st i step.1 step.2 := by
  unfold run
  rw [plan]
  cases files with
  | nil => exact ⟨0, .nothing rfl⟩
  | cons file rest =>
    exact visit_iterates_from (List.cons_ne_nil file rest) (Nat.zero_le _)
      (fun _ less => nomatch less)

/-- An iteration that has walked all files had some, and has gone on after each of them. -/
theorem Iterates.all_of_output {i : Nat} {final : Standing}
    (h : Iterates walk flow files st i (.output 1) final) :
    i = files.length ∧ files ≠ [] ∧ (∀ j < files.length, GoesOn walk flow files st j) ∧
      final = before walk flow files st files.length := by
  cases h with
  | all some on => exact ⟨rfl, some, on, rfl⟩

/-- After the last file there are no news. -/
theorem news_length : news walk flow files st files.length = [] := by
  simp [news]

/-- The walk that ends an iteration tells the last news of it. -/
theorem EndsAt.journal {i : Nat} {file : Path} {exit : Exit} {after : Standing}
    (h : EndsAt walk flow files st i file exit after) :
    after.ledger.journal =
      (told walk flow files st i ++
        if (before walk flow files st i).ledger.canceled then []
        else news walk flow files st i).reverse ++ st.ledger.journal := by
  have inside : i < files.length := (List.getElem?_eq_some_iff.1 h.found).1
  have journal :
      (walk.go flow (fileStart flow file (before walk flow files st i))).2.ledger.journal =
        (news walk flow files st i).reverse ++ (before walk flow files st i).ledger.journal :=
    journal_walk h.found
  rw [h.walked, before_journal (Nat.le_of_lt inside)] at journal
  rw [h.live, if_neg Bool.false_ne_true, List.reverse_append, List.append_assoc]
  exact journal

/-- **What an iteration tells** are the news of the walks that it starts, in order, and after each
that it goes on from its own report. -/
theorem Iterates.journal {i : Nat} {result : StepResult} {final : Standing}
    (h : Iterates walk flow files st i result final) :
    final.ledger.journal =
      (told walk flow files st i ++
        if (before walk flow files st i).ledger.canceled then []
        else news walk flow files st i).reverse ++ st.ledger.journal := by
  cases h with
  | nothing none =>
    subst none
    simp [told, news]
  | all some on =>
    rw [news_length, ite_self, List.append_nil]
    exact before_journal (Nat.le_refl _)
  | signaled inside on signal =>
    rw [if_pos signal, List.append_nil]
    exact before_journal (Nat.le_of_lt inside)
  | canceled ends is => exact ends.journal
  | terminal ends is => exact ends.journal
  | failed ends is => exact ends.journal

/-! ## The walks that are started -/

theorem mem_starts {i j : Nat} {file : Path} (found : files[j]? = some file)
    (started : j < i ∨ j = i ∧ (before walk flow files st i).ledger.canceled = false) :
    fileStart flow file (before walk flow files st j) ∈ starts walk flow files st i := by
  refine List.mem_filterMap.2 ⟨j, List.mem_range.2 ?_, by rw [found]; rfl⟩
  obtain less | ⟨rfl, live⟩ := started
  · split
    · exact less
    · exact Nat.lt_succ_of_lt less
  · rw [live]
    exact Nat.lt_succ_self j

/-- A walk that does the same from where the first walks start leaves the iteration at the same
places. -/
theorem before_congr {other : Walk} {i : Nat}
    (same : ∀ start ∈ starts walk flow files st i, other.go flow start = walk.go flow start) :
    ∀ j ≤ i, before other flow files st j = before walk flow files st j := by
  intro j inside
  induction j with
  | zero => rfl
  | succ j ih =>
    have earlier := ih (Nat.le_of_succ_le inside)
    unfold before
    split
    · next file found =>
      have walked := same _ (mem_starts found (.inl inside))
      rw [passed, passed, earlier, walked]
    · exact earlier

/-- **No other walk matters**: what an iteration comes to depends on the walks that it starts. -/
theorem Iterates.visit_congr {other : Walk} {i : Nat} {result : StepResult} {final : Standing}
    (h : Iterates walk flow files st i result final)
    (same : ∀ start ∈ starts walk flow files st i, other.go flow start = walk.go flow start) :
    visit other flow files.length 0 files st = visit walk flow files.length 0 files st := by
  have at_ := before_congr same
  have goesOn (on : ∀ j < i, GoesOn walk flow files st j) :
      ∀ j < i, GoesOn other flow files st j := by
    intro j less
    obtain ⟨live, file, found, acceptable⟩ := on j less
    have walked := same _ (mem_starts found (.inl less))
    rw [← at_ j (Nat.le_of_lt less)] at live walked acceptable
    exact ⟨live, file, found, by rwa [walked]⟩
  have stopped {file : Path} {exit : Exit} {after : Standing}
      (ends : EndsAt walk flow files st i file exit after) :
      visit other flow files.length 0 files st = visit walk flow files.length 0 files st := by
    have left := drop_of_found ends.found
    have walked := same _ (mem_starts ends.found (.inr ⟨rfl, ends.live⟩))
    rw [visit_of_goesOn ends.earlier, visit_of_goesOn (goesOn ends.earlier), at_ i (Nat.le_refl i),
      left, visit, visit, walked, ends.walked]
    simp only [ends.live, Bool.false_eq_true, if_false]
    cases graded : grade exit with
    | acceptable => exact absurd (grade_eq_acceptable_iff.1 graded) ends.unacceptable
    | canceled | terminal | failed => rfl
  cases h with
  | nothing none =>
    subst none
    rfl
  | all some on =>
    rw [visit_of_goesOn on, visit_of_goesOn (goesOn on), at_ _ (Nat.le_refl _), List.drop_length,
      visit, visit]
  | signaled inside on signal =>
    have left := drop_of_found (List.getElem?_eq_getElem inside)
    rw [visit_of_goesOn on, visit_of_goesOn (goesOn on), at_ i (Nat.le_refl i), left, visit, visit,
      if_pos signal, if_pos signal]
  | canceled ends is => exact stopped ends
  | terminal ends is => exact stopped ends
  | failed ends is => exact stopped ends

/-- A failed iteration has a reason: that of the walk, if it gives one. -/
theorem Iterates.reason {i : Nat} {final : Standing}
    (h : Iterates walk flow files st i .failure final) :
    ∃ file exit after, EndsAt walk flow files st i file exit after ∧
      final.context.failureReason =
        some (after.context.failureReason.getD
          (st.context.failureReason.getD (fallbackReason file exit))) := by
  cases h with
  | @failed i file exit after ends is =>
    refine ⟨file, exit, after, ends, ?_⟩
    cases after.context.failureReason with
    | none => rfl
    | some reason => rfl

/-! ## Iterations that parts ask for -/

/-- A folder can be read for the files that match. -/
theorem exists_matchingFiles {tree : FileTree} {folder : Path}
    (isFolder : tree.isFolder folder = true) (pattern : FilePattern) (recursive : Bool) :
    ∃ files, tree.matchingFiles folder pattern recursive = .ok files := by
  unfold FileTree.isFolder at isFolder
  unfold FileTree.matchingFiles
  cases found : tree.find folder with
  | error e =>
    rw [found] at isFolder
    cases isFolder
  | ok entry =>
    rw [found] at isFolder
    cases entry with
    | folder entries => exact ⟨_, rfl⟩
    | file | link => cases isFolder

/-- A folder, a pattern and a flow make a plan. -/
theorem plan_of_matching {site : Site} {registry : Registry} {e : EachFile} {st : Standing}
    {pattern : FilePattern} {uid : Uuid} {flow : Flow} {files : List Path}
    (isFolder : (site.filesAt st.ledger.clock).isFolder (e.folder st.context.vars) = true)
    (valid : FilePattern.parse? e.pattern = some pattern) (configured : e.flow = some uid)
    (registered : registry.flow? uid = some flow)
    (matching : (site.filesAt st.ledger.clock).matchingFiles (e.folder st.context.vars) pattern
      e.recursive = .ok files) :
    plan site registry e st = .ok (flow, files) := by
  simp only [plan, isFolder, valid, configured, registered, matching, Bool.not_true,
    Bool.false_eq_true, if_false]

/-- An iteration whose check admits it is where it was. -/
theorem checked_eq_self {e : EachFile} {st : Standing}
    (admits : (e.check st.context.toScope).admitted = true) :
    Turn.checked (.eachFile e) st = st := by
  have passes : e.check st.context.toScope = .pass st.context.toScope := by
    unfold EachFile.check at admits ⊢
    split at admits
    · cases admits
    · split at admits
      · cases admits
      · rw [if_neg ‹_›, if_neg ‹_›]
  rw [Turn.checked, Turn.admission, passes, Standing.absorb, Standing.tell]
  show (⟨st.context, st.ledger.tell []⟩ : Standing) = st
  rw [Ledger.tell_nil]

/-- A part whose iteration is admitted runs it from where the part starts. -/
theorem attempt_of_admitted {site : Site} {registry : Registry} {caller : Flow} {part : Part}
    {e : EachFile} {st : Standing} (walk : Walk)
    (executes : part.step? registry st.context.vars = some (.eachFile e))
    (admits : (e.check st.context.toScope).admitted = true) :
    Turn.attempt site registry walk caller part st =
      (.done (run site registry walk e st).1, (run site registry walk e st).2) := by
  rw [FlowGraph.attempt_of_admitted executes admits, checked_eq_self admits, Turn.perform]

end

end Iteration

/-- **An iteration ends at the first bad file.** A part iterates over a folder that exists, with a
valid pattern and a flow that is registered. Then the files are those that match, and the flow is
walked for one after the other, until the run is canceled or a walk is not acceptable
(`Iteration.Iterates`). What is told are the news of these walks, each followed by one report, and
no other walk has an influence. A failure has a reason, that of the walk if it gives one. -/
theorem iteration_ends_at_first_bad_file (site : Site) (registry : Registry) (nested : Walk)
    (caller : Flow) (part : Part) (e : EachFile) (pattern : FilePattern) (uid : Uuid) (flow : Flow)
    (st : Standing) (executes : part.step? registry st.context.vars = some (.eachFile e))
    (admits : (e.check st.context.toScope).admitted = true)
    (isFolder : (site.filesAt st.ledger.clock).isFolder (e.folder st.context.vars) = true)
    (valid : FilePattern.parse? e.pattern = some pattern) (configured : e.flow = some uid)
    (registered : registry.flow? uid = some flow) :
    ∃ files i result final,
      (site.filesAt st.ledger.clock).matchingFiles (e.folder st.context.vars) pattern
        e.recursive = .ok files ∧
      Turn.attempt site registry nested caller part st = (.done result, final) ∧
      Iteration.Iterates nested flow files st i result final ∧
      (final.ledger.since st.ledger).reverse =
        Iteration.told nested flow files st i ++
          (if (Iteration.before nested flow files st i).ledger.canceled then []
          else Iteration.news nested flow files st i) ∧
      (∀ other : Walk,
        (∀ start ∈ Iteration.starts nested flow files st i,
          other.go flow start = nested.go flow start) →
        Turn.attempt site registry other caller part st =
          Turn.attempt site registry nested caller part st) ∧
      (result = .failure → ∃ file exit after,
        Iteration.EndsAt nested flow files st i file exit after ∧
        final.context.failureReason =
          some (after.context.failureReason.getD
            (st.context.failureReason.getD (Iteration.fallbackReason file exit)))) := by
  obtain ⟨files, matching⟩ := Iteration.exists_matchingFiles isFolder pattern e.recursive
  have plan : Iteration.plan site registry e st = .ok (flow, files) :=
    Iteration.plan_of_matching isFolder valid configured registered matching
  have attempt (walk : Walk) : Turn.attempt site registry walk caller part st =
      (.done (Iteration.run site registry walk e st).1,
        (Iteration.run site registry walk e st).2) :=
    Iteration.attempt_of_admitted walk executes admits
  obtain ⟨i, iterates⟩ := Iteration.run_iterates nested plan
  refine ⟨files, i, _, _, matching, attempt nested, iterates, ?_, ?_, ?_⟩
  · rw [Ledger.since_eq iterates.journal, List.reverse_reverse]
  · intro other same
    have visits := iterates.visit_congr same
    rw [attempt, attempt, Iteration.run, Iteration.run, plan]
    cases files with
    | nil => rfl
    | cons file rest => exact congrArg (fun step => (Reply.done step.1, step.2)) visits
  · intro failed
    rw [failed] at iterates
    exact iterates.reason

namespace Sample

/-- Two files. -/
def twoFiles : List (String × Entry) := [("a.txt", .file ⟨#[]⟩), ("b.txt", .file ⟨#[]⟩)]

/-- A node that always has these files in one folder. -/
def folders : Site := { site with files := .ofCurrent ["home"] [("in", .folder twoFiles)] }

/-- A part that iterates over a folder. -/
def visiting (folder : String) (flow : Uuid) : Part :=
  ((Part.new "Basic.DirectoryIterator" (uid 1)).entry.withModel "Path" (.str folder)).withModel
    "Flow" (.str flow.text)

/-- A flow without parts. -/
def blank : Flow := Flow.new "blank" .subFlow (uid 2)

/-- A worker with that flow. -/
def perFile : Registry := (Registry.empty.withSteps Step.basics).withFlow blank

/-- The files of the folder, in order. -/
def inFiles : List Path := [⟨"in/a.txt"⟩, ⟨"in/b.txt"⟩]

/-- What the part asks for. -/
def inEach : EachFile := ⟨"in", "", false, some (uid 2)⟩

theorem folder_inEach (vars : Variables) : inEach.folder vars = ⟨"in"⟩ := by
  rfl

theorem isStill_folders : folders.IsStill := fun _ _ => rfl

theorem find_in (time : Nat) : (folders.filesAt time).find ⟨"in"⟩ = .ok (.folder twoFiles) := by
  rw [isStill_folders.filesAt]
  exact FileTree.find_relative (by decide) (by decide) rfl (by decide)

theorem isFolder_in (time : Nat) : (folders.filesAt time).isFolder ⟨"in"⟩ = true := by
  rw [FileTree.isFolder, find_in]
  rfl

theorem matchingFiles_in (time : Nat) :
    (folders.filesAt time).matchingFiles ⟨"in"⟩ .any false = .ok inFiles := by
  have sorted : FileTree.inOrder twoFiles = twoFiles := by
    refine List.mergeSort_of_pairwise ?_
    decide
  rw [FileTree.matchingFiles, find_in]
  show Except.ok (FileTree.matchingHere _ _ _ _) = _
  rw [FileTree.matchingHere, sorted]
  rfl

theorem step?_visiting :
    (visiting "in" (uid 2)).step? perFile start.context.vars = some (.eachFile inEach) := by
  rfl

/-- The walk of a flow without parts fails. -/
theorem go_blank (file : Path) :
    (nestedWalk folders perFile start).go blank (Iteration.fileStart blank file start) =
      (.failed, (Iteration.fileStart blank file start).failAt blank "entry"
        "flow 'blank' has no entry part") := by
  have shallow : (Iteration.fileStart blank file start).context.depth ≤ maxFlowDepth := by
    show 1 ≤ maxFlowDepth
    decide
  rw [nestedWalk_fileStart]
  have none : blank.entryPart = .error (.noEntryPart "blank") := rfl
  exact comesTo_walk_iff.1 (.noEntry shallow none)

end Sample

/-- The walk for the first file fails; it is the only one, and its reason is taken over. -/
theorem failing_file_ends_iteration : ∃ final,
    Turn.attempt Sample.folders Sample.perFile
        (nestedWalk Sample.folders Sample.perFile Sample.start) Sample.caller
        (Sample.visiting "in" (Sample.uid 2)) Sample.start = (.done .failure, final) ∧
      Iteration.Iterates (nestedWalk Sample.folders Sample.perFile Sample.start) Sample.blank
        Sample.inFiles Sample.start 0 .failure final ∧
      final.context.failureReason = some "flow 'blank' has no entry part" := by
  have folder := Sample.folder_inEach Sample.start.context.vars
  obtain ⟨files, i, result, final, matching, attempt, iterates, -, -, reason⟩ :=
    iteration_ends_at_first_bad_file Sample.folders Sample.perFile
      (nestedWalk Sample.folders Sample.perFile Sample.start) Sample.caller
      (Sample.visiting "in" (Sample.uid 2)) Sample.inEach .any (Sample.uid 2) Sample.blank
      Sample.start Sample.step?_visiting (by rfl) (folder ▸ Sample.isFolder_in _) (by rfl) rfl
      (by rfl)
  rw [folder] at matching
  obtain rfl : Sample.inFiles = files :=
    Except.ok.inj ((Sample.matchingFiles_in _).symm.trans matching)
  have first : ¬ Iteration.GoesOn (nestedWalk Sample.folders Sample.perFile Sample.start)
      Sample.blank Sample.inFiles Sample.start 0 := by
    rintro ⟨-, file, -, acceptable⟩
    rw [Iteration.before, Sample.go_blank] at acceptable
    obtain ended | ended | ended := acceptable <;> cases ended
  have ended {i : Nat} {file : Path} {exit : Exit} {after : Standing}
      (ends : Iteration.EndsAt (nestedWalk Sample.folders Sample.perFile Sample.start) Sample.blank
        Sample.inFiles Sample.start i file exit after) :
      i = 0 ∧ exit = .failed ∧
        after.context.failureReason = some "flow 'blank' has no entry part" := by
    cases i with
    | zero =>
      have walked := ends.walked
      rw [Iteration.before, Sample.go_blank] at walked
      cases walked
      exact ⟨rfl, rfl, rfl⟩
    | succ i => exact absurd (ends.earlier 0 (Nat.succ_pos i)) first
  have failed : i = 0 ∧ result = .failure := by
    cases iterates with
    | nothing none => cases none
    | all some on => exact absurd (on 0 (by decide)) first
    | signaled inside on signal =>
      cases i with
      | zero => cases signal
      | succ i => exact absurd (on 0 (Nat.succ_pos i)) first
    | canceled ends is | terminal ends is =>
      rw [(ended ends).2.1] at is
      cases is
    | failed ends is => exact ⟨(ended ends).1, rfl⟩
  obtain ⟨rfl, rfl⟩ := failed
  obtain ⟨file, exit, after, ends, taken⟩ := reason rfl
  rw [(ended ends).2.2] at taken
  exact ⟨final, attempt, iterates, taken⟩

end FlowGraph
