import FlowGraph.Proofs.Iterating
import FlowGraph.Proofs.Records
import Mathlib.Algebra.Order.Field.Basic
import Mathlib.Algebra.Order.Field.Rat
import Mathlib.Data.List.Basic
import Mathlib.Tactic.NormNum

/-!
# Progress of iterations

All walks of a run report their progress to the same listener. So what is delivered while an
iteration is performed are the reports of the walks that it starts, and after each of them its own
(`iteration_delivers_progress`). Its own reports rise to 100 percent, one for each file. Those of
an iteration in one of the walks come between them, and there they start anew.
-/

namespace FlowGraph

/-- The progress that an event reports. -/
def Event.progress? : Event → Option Percent
  | .notice (.progress p) => some p
  | _ => none

/-- The progress that events report, in the same order. -/
def delivered (events : List Event) : List Percent := events.filterMap Event.progress?

/-- The progress as an exact fraction of the whole, whichever fractions the numbers of single
precision are read as that plugins give. None is delivered below nothing or above the whole. -/
def Percent.fraction (read : Float32 → ℚ) : Percent → ℚ
  | .share done total => done / total
  | .given x => max 0 (min (read x) 1)

theorem delivered_enter (l : Ledger) {e : Event} (silent : e.progress? = none) :
    delivered (l.enter e).journal.reverse = delivered l.journal.reverse := by
  simp [delivered, silent]

/-- A report is delivered after those before it. -/
theorem delivered_tell (l : Ledger) (report : Percent) :
    delivered (l.tell [.progress report]).journal.reverse =
      delivered l.journal.reverse ++ [report] := by
  simp [delivered, Event.progress?]

theorem Percent.fraction_nonneg (read : Float32 → ℚ) (report : Percent) :
    0 ≤ report.fraction read := by
  cases report with
  | share done total => exact div_nonneg (Nat.cast_nonneg done) (Nat.cast_nonneg total)
  | given x => exact le_max_left _ _

/-- Progress as exact fractions. -/
def fractions (read : Float32 → ℚ) (reports : List Percent) : List ℚ :=
  reports.map (Percent.fraction read)

theorem nonneg_of_mem_fractions {read : Float32 → ℚ} {reports : List Percent} {x : ℚ}
    (h : x ∈ fractions read reports) : 0 ≤ x := by
  obtain ⟨report, -, rfl⟩ := List.mem_map.1 h
  exact report.fraction_nonneg read

/-! ## Blocks of reports -/

/-- Blocks of numbers; after each of them comes the share of the blocks so far. -/
def withShares (total : Nat) (inner : Nat → List ℚ) (blocks : Nat) : List ℚ :=
  (List.range blocks).flatMap fun i => inner i ++ [((i + 1 : Nat) : ℚ) / total]

theorem withShares_succ (total : Nat) (inner : Nat → List ℚ) (blocks : Nat) :
    withShares total inner (blocks + 1) =
      withShares total inner blocks ++ (inner blocks ++ [((blocks + 1 : Nat) : ℚ) / total]) := by
  simp [withShares, List.range_succ]

/-- A block with a share after it and numbers after that never decreases exactly if the block and
the numbers do not, and the share is between them. -/
theorem pairwise_block {xs ys : List ℚ} {share : ℚ} :
    (xs ++ [share] ++ ys).Pairwise (· ≤ ·) ↔
      (xs.Pairwise (· ≤ ·) ∧ ∀ x ∈ xs, x ≤ share) ∧
        ys.Pairwise (· ≤ ·) ∧ ∀ y ∈ ys, share ≤ y := by
  simp only [List.pairwise_append, List.mem_append, List.mem_singleton]
  constructor
  · rintro ⟨⟨sorted, -, below⟩, sorted', above⟩
    exact ⟨⟨sorted, fun x mem => below x mem share rfl⟩, sorted',
      fun y mem => above share (.inr rfl) y mem⟩
  · rintro ⟨⟨sorted, below⟩, sorted', above⟩
    refine ⟨⟨sorted, List.pairwise_singleton _ _, ?_⟩, sorted', ?_⟩
    · rintro x mem _ rfl
      exact below x mem
    · rintro x (mem | rfl) y mem'
      · exact (below x mem).trans (above y mem')
      · exact above y mem'

/-- **Blocks with shares never decrease** exactly if each block is between the shares around it. -/
theorem pairwise_withShares {total : Nat} {inner : Nat → List ℚ}
    (nonneg : ∀ i, ∀ x ∈ inner i, 0 ≤ x) {blocks : Nat} {rest : List ℚ}
    (nonneg_rest : ∀ x ∈ rest, 0 ≤ x) :
    (withShares total inner blocks ++ rest).Pairwise (· ≤ ·) ↔
      (∀ i < blocks, (inner i).Pairwise (· ≤ ·) ∧
        ∀ x ∈ inner i, (i : ℚ) / total ≤ x ∧ x ≤ ((i + 1 : Nat) : ℚ) / total) ∧
      rest.Pairwise (· ≤ ·) ∧ ∀ x ∈ rest, (blocks : ℚ) / total ≤ x := by
  induction blocks generalizing rest with
  | zero =>
    have empty : withShares total inner 0 = [] := rfl
    simp only [empty, List.nil_append, Nat.cast_zero, zero_div]
    constructor
    · intro sorted
      exact ⟨fun i less => absurd less (Nat.not_lt_zero i), sorted, nonneg_rest⟩
    · rintro ⟨-, sorted, -⟩
      exact sorted
  | succ blocks ih =>
    have share : (0 : ℚ) ≤ ((blocks + 1 : Nat) : ℚ) / total :=
      div_nonneg (Nat.cast_nonneg _) (Nat.cast_nonneg _)
    have rises : (blocks : ℚ) / total ≤ ((blocks + 1 : Nat) : ℚ) / total :=
      div_le_div_of_nonneg_right (Nat.cast_le.2 (Nat.le_succ blocks)) (Nat.cast_nonneg _)
    have nonneg_later :
        ∀ x ∈ inner blocks ++ [((blocks + 1 : Nat) : ℚ) / total] ++ rest, 0 ≤ x := by
      intro x mem
      rw [List.append_assoc, List.mem_append, List.singleton_append, List.mem_cons] at mem
      rcases mem with mem | rfl | mem
      · exact nonneg blocks x mem
      · exact share
      · exact nonneg_rest x mem
    rw [withShares_succ, List.append_assoc, ih nonneg_later, pairwise_block]
    constructor
    · rintro ⟨earlier, ⟨⟨sorted, below⟩, sorted_rest, above⟩, lower⟩
      refine ⟨fun i less => ?_, sorted_rest, above⟩
      rcases Nat.lt_succ_iff_lt_or_eq.1 less with less | rfl
      · exact earlier i less
      · exact ⟨sorted, fun x mem => ⟨lower x (by simp [mem]), below x mem⟩⟩
    · rintro ⟨all, sorted_rest, above⟩
      obtain ⟨sorted, between⟩ := all blocks (Nat.lt_succ_self blocks)
      refine ⟨fun i less => all i (Nat.lt_succ_of_lt less),
        ⟨⟨sorted, fun x mem => (between x mem).2⟩, sorted_rest, above⟩, ?_⟩
      intro x mem
      rw [List.append_assoc, List.mem_append, List.singleton_append, List.mem_cons] at mem
      rcases mem with mem | rfl | mem
      · exact (between x mem).1
      · exact rises
      · exact rises.trans (above x mem)

/-! ## What an iteration delivers -/

namespace Iteration

section
variable {walk : Walk} {flow : Flow} {files : List Path} {st : Standing}

/-- Up to the file of an index the reports are those of the walks, each followed by the report of
the iteration. -/
theorem delivered_told (i : Nat) :
    delivered (told walk flow files st i) =
      (List.range i).flatMap fun j =>
        delivered (news walk flow files st j) ++ [.share (j + 1) files.length] := by
  induction i with
  | zero => rfl
  | succ i ih =>
    have report : delivered [.notice (.progress (.share (i + 1) files.length))] =
        [.share (i + 1) files.length] := rfl
    rw [told_succ, delivered, List.filterMap_append, List.filterMap_append]
    rw [← delivered, ← delivered, ← delivered, ih, report, List.range_succ, List.flatMap_append]
    simp

/-- What an iteration delivers, up to its end. -/
theorem Iterates.delivered {i : Nat} {result : StepResult} {final : Standing}
    (h : Iterates walk flow files st i result final) :
    delivered (final.ledger.since st.ledger).reverse =
      (List.range i).flatMap (fun j =>
        FlowGraph.delivered (news walk flow files st j) ++ [.share (j + 1) files.length]) ++
      if (before walk flow files st i).ledger.canceled then []
      else FlowGraph.delivered (news walk flow files st i) := by
  rw [Ledger.since_eq h.journal, List.reverse_reverse, ← delivered_told, FlowGraph.delivered,
    List.filterMap_append]
  split
  · rfl
  · rfl

theorem Iterates.le_length {i : Nat} {result : StepResult} {final : Standing}
    (h : Iterates walk flow files st i result final) : i ≤ files.length := by
  have ended {i : Nat} {file : Path} {exit : Exit} {after : Standing}
      (ends : EndsAt walk flow files st i file exit after) : i ≤ files.length :=
    Nat.le_of_lt (List.getElem?_eq_some_iff.1 ends.found).1
  cases h with
  | nothing none => exact Nat.zero_le _
  | all some on => exact Nat.le_refl _
  | signaled inside on signal => exact Nat.le_of_lt inside
  | canceled ends is => exact ended ends
  | terminal ends is => exact ended ends
  | failed ends is => exact ended ends

end

end Iteration

/-- The blocks of reports have the values of their shares. -/
theorem fractions_blocks (read : Float32 → ℚ) (total : Nat) (inner : Nat → List Percent)
    (blocks : Nat) :
    fractions read ((List.range blocks).flatMap fun i => inner i ++ [.share (i + 1) total]) =
      withShares total (fun i => fractions read (inner i)) blocks := by
  induction blocks with
  | zero => rfl
  | succ blocks ih =>
    have share : fractions read [.share (blocks + 1) total] =
        [((blocks + 1 : Nat) : ℚ) / total] :=
      rfl
    rw [withShares_succ, ← ih, ← share, List.range_succ, List.flatMap_append]
    simp [fractions]

/-- There is one report for each block besides those in the blocks. -/
theorem length_blocks (total : Nat) (inner : Nat → List Percent) (blocks : Nat) :
    ((List.range blocks).flatMap fun i => inner i ++ [.share (i + 1) total]).length =
      blocks + ((List.range blocks).map fun i => (inner i).length).sum := by
  induction blocks with
  | zero => rfl
  | succ blocks ih =>
    rw [List.range_succ, List.flatMap_append, List.length_append, ih, List.map_append,
      List.sum_append]
    simp
    omega

/-! ## Walks that deliver nothing -/

/-- Neither the check nor the run of a plain step reports progress. -/
structure Action.IsSilent (site : Site) (a : Action) : Prop where
  check : ∀ s, ∀ n ∈ (a.check s).notices, (Event.notice n).progress? = none
  run : ∀ canceled s, ∀ n ∈ (a.run site canceled s).notices, (Event.notice n).progress? = none

/-- The plain steps of every node report no progress. -/
theorem Step.IsBasic.isSilent {actions : Moment → Action} (basic : (Step.acting actions).IsBasic)
    (site : Site) (moment : Moment) : (actions moment).IsSilent site := by
  obtain ⟨⟨name, make⟩, mem, m, made⟩ := basic
  simp only [Step.basics, List.mem_cons, List.not_mem_nil, or_false, Prod.mk.injEq] at mem
  rcases mem with ⟨-, rfl⟩ | ⟨-, rfl⟩ | ⟨-, rfl⟩ | ⟨-, rfl⟩ | ⟨-, rfl⟩
  · cases made
  · cases made
    constructor
    · intro s n told
      dsimp only at told
      split at told <;> cases told
    · intro canceled s n told
      dsimp only at told
      split at told
      · cases told
      · cases told with
        | head => rfl
        | tail _ told => cases told
  · cases made
    constructor
    · intro s n told
      cases told
    · intro canceled s n told
      cases told
  · cases made
    constructor
    · intro s n told
      cases told
    · intro canceled s n told
      cases told with
      | head => rfl
      | tail _ told => cases told
  · cases made
    constructor
    · intro s n told
      dsimp only at told
      split at told <;> cases told
    · intro canceled s n told
      cases told

/-- Scripts report no progress. -/
theorem ScriptStep.isSilent (script : ScriptStep) (site : Site) (moment : Moment) :
    (script.action moment).IsSilent site where
  check := fun s n told => by cases told
  run := by
    intro canceled s n told
    let e := site.scripts moment.clock (script.input canceled s)
    have notices : ((script.action moment).run site canceled s).notices =
        e.calls.filterMap ScriptCall.notice? := by
      show (conclude script.name s e).notices = _
      unfold conclude
      cases e.outcome with
      | integer code =>
        dsimp only
        split <;> rfl
      | value | failed | terminated => rfl
    rw [notices] at told
    obtain ⟨call, -, is⟩ := List.mem_filterMap.1 told
    cases call with
    | log text =>
      cases is
      rfl
    | _ => cases is

/-- The step does not iterate and is no plugin that reports progress. -/
inductive Step.IsQuiet (site : Site) : Step → Prop where
  | basic {actions : Moment → Action} (basic : (Step.acting actions).IsBasic) :
      IsQuiet site (.acting actions)
  | script (script : ScriptStep) : IsQuiet site (.acting (script.action ·))
  | plugin {actions : Moment → Action} (silent : ∀ moment, (actions moment).IsSilent site) :
      IsQuiet site (.acting actions)

/-- A quiet step is a plain one and reports no progress. -/
theorem Step.IsQuiet.isSilent {site : Site} {step : Step} (quiet : step.IsQuiet site) :
    ∃ actions, step = .acting actions ∧ ∀ moment, (actions moment).IsSilent site := by
  cases quiet with
  | basic basic => exact ⟨_, rfl, basic.isSilent site⟩
  | script script => exact ⟨_, rfl, script.isSilent site⟩
  | plugin silent => exact ⟨_, rfl, silent⟩

/-- **Without iterations nothing is delivered**, unless a plugin does it. -/
theorem ComesTo.silent {site : Site} {registry : Registry} {work : Work} {st st' : Standing}
    {reply : Reply} (h : ComesTo site registry work st reply st')
    (flat : st.ledger.Tells (Event.Starts registry (Step.IsQuiet site)) st'.ledger)
    (own : work.Starts registry (Step.IsQuiet site) st) :
    st.ledger.Tells (fun e => e.progress? = none) st'.ledger := by
  have turn {flow : Flow} {part : Part} {st st₁ st₂ : Standing} {reply : Reply} {turn : Turn}
      (inner : (Turn.start flow part st.count).ledger.Tells (fun e => e.progress? = none)
        st₁.ledger)
      (leads : Turn.follow flow part (reply, st₁) = (turn, st₂)) :
      st.ledger.Tells (fun e => e.progress? = none) st₂.ledger := by
    have start : st.ledger.Tells (fun e => e.progress? = none)
        (Turn.start flow part st.count).ledger := by
      rw [Turn.start_ledger]
      exact .enter st.ledger.count rfl
    obtain ⟨result, rfl, ledger⟩ | ledger := follow_ledger leads
    · rw [ledger]
      exact (start.trans inner).trans (.enter _ rfl)
    · rw [ledger]
      exact start.trans inner
  induction h with
  | tooDeep deep => exact .enter _ rfl
  | noEntry | canceled | missing | unresolved | lost | switch | input => exact .refl _
  | enter shallow found rest ih => exact ih flat trivial
  | refused live found full => exact .enter _ rfl
  | last live found room work leads ih =>
    obtain ⟨starts, inner⟩ := work.tells_turn leads flat
    exact turn (ih inner starts) leads
  | next live found room work leads rest ih ih' =>
    obtain ⟨before, after⟩ := flat.split (work.onward_turn leads).ledger rest.onward.ledger
    obtain ⟨starts, inner⟩ := work.tells_turn leads before
    exact (turn (ih inner starts) leads).trans (ih' after trivial)
  | marker task => exact .enter _ rfl
  | call task walk ih => exact ih flat trivial
  | @barred flow part st step executes bars =>
    obtain ⟨actions, rfl, silent⟩ := (own step executes).isSilent
    exact (Ledger.Tells.tell_of_mem _ ((silent _).check _)).trans (.enter _ rfl)
  | @plain flow part st actions executes admits =>
    obtain ⟨_, ⟨⟩, silent⟩ := (own _ executes).isSilent
    exact (Ledger.Tells.tell_of_mem _ ((silent _).check _)).trans
      (.tell_of_mem _ ((silent _).run _ _))
  | unplanned executes | nothing executes | iterate executes =>
    obtain ⟨_, ⟨⟩, -⟩ := (own _ executes).isSilent
  | visitedAll | visitCanceled | visitNext | fileCanceled | fileTerminal | fileFailed =>
    obtain ⟨e, quiet⟩ := own
    obtain ⟨_, ⟨⟩, -⟩ := quiet.isSilent

/-- A walk for a file in which only quiet steps start delivers nothing. -/
theorem Iteration.delivered_news {site : Site} {registry : Registry}
    {flow : Flow} {files : List Path} {st : Standing} {i : Nat}
    (flat : ∀ event ∈ news (nestedWalk site registry st) flow files st i,
      event.Starts registry (Step.IsQuiet site)) :
    FlowGraph.delivered (news (nestedWalk site registry st) flow files st i) = [] := by
  cases found : files[i]? with
  | none => simp [news, found, FlowGraph.delivered]
  | some file =>
    cases walked : walkFlow site registry flow
        (fileStart flow file (before (nestedWalk site registry st) flow files st i)) with
    | mk exit after =>
    have journal : after.ledger.journal =
        (news (nestedWalk site registry st) flow files st i).reverse ++
          (before (nestedWalk site registry st) flow files st i).ledger.journal := by
      rw [← journal_walk found, nestedWalk_before, walked]
    have walk : ComesTo site registry (.walk flow)
        (fileStart flow file (before (nestedWalk site registry st) flow files st i))
        (.leave exit) after := comesTo_walk_iff.2 walked
    obtain ⟨told, journal', silent⟩ := walk.silent
      ⟨_, journal, fun event mem => flat event (List.mem_reverse.1 mem)⟩ trivial
    have same := List.append_cancel_right (journal.symm.trans journal')
    refine List.filterMap_eq_nil_iff.2 fun event mem => silent event ?_
    rw [← same]
    exact List.mem_reverse.2 mem

/-- An iteration in whose walks only quiet steps start delivers its own reports alone. -/
theorem Iteration.Iterates.delivered_of_flat {site : Site} {registry : Registry}
    {flow : Flow} {files : List Path} {st final : Standing} {i : Nat}
    {result : StepResult}
    (h : Iterates (nestedWalk site registry st) flow files st i result final)
    (flat : ∀ event ∈ final.ledger.since st.ledger, event.Starts registry (Step.IsQuiet site)) :
    FlowGraph.delivered (final.ledger.since st.ledger).reverse =
      (List.range i).flatMap fun j => [] ++ [.share (j + 1) files.length] := by
  rw [h.delivered]
  rw [Ledger.since_eq h.journal] at flat
  have walks : ∀ j < i,
      FlowGraph.delivered (news (nestedWalk site registry st) flow files st j) = [] := by
    intro j less
    refine delivered_news fun event mem => flat event ?_
    refine List.mem_reverse.2 (List.mem_append_left _ ?_)
    exact List.mem_flatMap.2 ⟨j, List.mem_range.2 less, List.mem_append_left _ mem⟩
  have last : (if (before (nestedWalk site registry st) flow files st i).ledger.canceled then []
      else FlowGraph.delivered (news (nestedWalk site registry st) flow files st i)) = [] := by
    split
    · rfl
    · next live =>
      refine delivered_news fun event mem => flat event ?_
      rw [if_neg live]
      exact List.mem_reverse.2 (List.mem_append_right _ mem)
  rw [last, List.append_nil]
  refine List.flatMap_congr fun j mem => ?_
  rw [walks j (List.mem_range.1 mem)]

/-- The reports never decrease exactly if those of each walk do not and are between the shares
before and after it. -/
theorem pairwise_reports_iff (read : Float32 → ℚ) (total m : Nat) (inner : Nat → List Percent)
    (rest : List Percent) :
    (fractions read ((List.range m).flatMap (fun i => inner i ++ [.share (i + 1) total]) ++
        rest)).Pairwise (· ≤ ·) ↔
      (∀ i < m, (fractions read (inner i)).Pairwise (· ≤ ·) ∧
        ∀ x ∈ fractions read (inner i),
          (i : ℚ) / total ≤ x ∧ x ≤ ((i + 1 : Nat) : ℚ) / total) ∧
      (fractions read rest).Pairwise (· ≤ ·) ∧ ∀ x ∈ fractions read rest, (m : ℚ) / total ≤ x := by
  rw [fractions, List.map_append, ← fractions, ← fractions, fractions_blocks]
  exact pairwise_withShares (fun i x mem => nonneg_of_mem_fractions mem)
    fun x mem => nonneg_of_mem_fractions mem

/-- The reports of an iteration alone never decrease. -/
theorem pairwise_shares (read : Float32 → ℚ) (total blocks : Nat) :
    (fractions read ((List.range blocks).flatMap fun i => [] ++ [.share (i + 1) total])).Pairwise
      (· ≤ ·) := by
  rw [← List.append_nil (List.flatMap _ _)]
  refine (pairwise_reports_iff read total blocks (fun _ => []) []).2 ⟨?_, .nil, ?_⟩
  · intro i less
    exact ⟨.nil, fun x mem => nomatch mem⟩
  · exact fun x mem => nomatch mem

/-- An iteration without a plan enters nothing. -/
theorem Iteration.run_ledger_of_unplanned {site : Site} {registry : Registry} {walk : Walk}
    {e : EachFile} {st : Standing} {reason : String}
    (plan : Iteration.plan site registry e st = .error reason) :
    (Iteration.run site registry walk e st).2.ledger = st.ledger := by
  rw [Iteration.run, plan]
  rfl

/-- When all files were walked, the last report is the whole, and there is one for each file besides
those of the walks. -/
theorem Iteration.Iterates.reports_of_output {walk : Walk} {flow : Flow} {files : List Path}
    {st final : Standing} {m : Nat}
    (h : Iterates walk flow files st m (.output 1) final) :
    m = files.length ∧
      (FlowGraph.delivered (final.ledger.since st.ledger).reverse).getLast? =
        some (.share files.length files.length) ∧
      (FlowGraph.delivered (final.ledger.since st.ledger).reverse).length =
        files.length + ((List.range files.length).map fun i =>
          (FlowGraph.delivered (news walk flow files st i)).length).sum := by
  obtain ⟨rfl, some, -, -⟩ := h.all_of_output
  have rest : FlowGraph.delivered [] = [] := rfl
  rw [h.delivered, news_length, rest, ite_self, List.append_nil]
  refine ⟨rfl, ?_, length_blocks _ _ _⟩
  obtain ⟨last, total⟩ : ∃ last, files.length = last + 1 :=
    Nat.exists_eq_succ_of_ne_zero (mt List.length_eq_zero_iff.1 some)
  rw [total, List.range_succ, List.flatMap_append]
  simp

/-- **What is delivered while an iteration is performed** are, for one walk after the other, the
reports of the walk and then the share of the files that are done, and at last the reports of the
walk that ends the iteration. So they never decrease exactly if the reports of each walk do not and
are between the shares before and after it. If all files were walked, the last report is the whole,
and there is one for each file besides those of the walks. If no iteration and no plugin that
reports progress starts in the walks, there are no others. -/
theorem iteration_delivers_progress (site : Site) (registry : Registry) (e : EachFile)
    (st : Standing) (read : Float32 → ℚ) :
    let nested := nestedWalk site registry st
    let step := performStep site registry (.eachFile e) st
    let reports := delivered (step.2.ledger.since st.ledger).reverse
    (∀ reason, Iteration.plan site registry e st = .error reason → reports = []) ∧
    (∀ flow files, Iteration.plan site registry e st = .ok (flow, files) →
      ∃ m ≤ files.length,
        let inner (i : Nat) := delivered (Iteration.news nested flow files st i)
        let rest := if (Iteration.before nested flow files st m).ledger.canceled then []
          else inner m
        Iteration.Iterates nested flow files st m step.1 step.2 ∧
        reports =
          (List.range m).flatMap (fun i => inner i ++ [.share (i + 1) files.length]) ++ rest ∧
        ((fractions read reports).Pairwise (· ≤ ·) ↔
          (∀ i < m, (fractions read (inner i)).Pairwise (· ≤ ·) ∧
            ∀ x ∈ fractions read (inner i),
              (i : ℚ) / files.length ≤ x ∧ x ≤ ((i + 1 : Nat) : ℚ) / files.length) ∧
          (fractions read rest).Pairwise (· ≤ ·) ∧
            ∀ x ∈ fractions read rest, (m : ℚ) / files.length ≤ x) ∧
        (step.1 = .output 1 → m = files.length ∧
          reports.getLast? = some (.share files.length files.length) ∧
          reports.length =
            files.length + ((List.range files.length).map fun i => (inner i).length).sum) ∧
        ((∀ event ∈ step.2.ledger.since st.ledger, event.Starts registry (Step.IsQuiet site)) →
          reports = (List.range m).map (fun i => .share (i + 1) files.length) ∧
            (fractions read reports).Pairwise (· ≤ ·))) := by
  have plain : performStep site registry (.eachFile e) st =
      Iteration.run site registry (nestedWalk site registry st) e st := by
    rw [performStep, Turn.perform, nestedWalk]
  rw [plain]
  constructor
  · intro reason plan
    rw [Iteration.run_ledger_of_unplanned plan, Ledger.since_eq (List.nil_append _).symm]
    rfl
  · intro flow files plan
    obtain ⟨m, iterates⟩ := Iteration.run_iterates (nestedWalk site registry st) plan
    generalize Iteration.run site registry (nestedWalk site registry st) e st = step at iterates
    refine ⟨m, iterates.le_length, iterates, iterates.delivered, ?_, ?_, ?_⟩
    · rw [iterates.delivered]
      exact pairwise_reports_iff read files.length m _ _
    · intro output
      rw [output] at iterates
      exact iterates.reports_of_output
    · intro flat
      have alone := iterates.delivered_of_flat flat
      rw [alone]
      exact ⟨List.map_eq_flatMap.symm, pairwise_shares read files.length m⟩

/-- An iteration for which there is a plan with files is the walk for these. -/
theorem performStep_of_visit {site : Site} {registry : Registry} {e : EachFile} {flow : Flow}
    {file : Path} {files : List Path} {st st' : Standing} {result : StepResult}
    (plan : Iteration.plan site registry e st = .ok (flow, file :: files))
    (visits : ComesTo site registry (.visit flow (files.length + 1) 0 (file :: files)) st
      (.done result) st') :
    performStep site registry (.eachFile e) st = (result, st') := by
  have value := visits.value
  simp only [Work.value, Prod.mk.injEq, Reply.done.injEq] at value
  rw [performStep, Turn.perform, Iteration.run, plan]
  exact Prod.ext value.1 value.2

namespace Sample

/-- A part whose step is a plugin. -/
def breather : Part := (Part.new "Rest" (uid 1)).entry

/-- A flow of that part. -/
def restful : Flow := { Flow.new "restful" .subFlow (uid 2) with parts := [breather] }

/-- What the plugin does: nothing. -/
def rest : Action := ⟨.pass, fun _ _ s => .success s⟩

/-- A worker with the plugin, and with another one that reports progress. -/
def plugged : Registry :=
  ((Registry.empty.withSteps Step.basics).withSteps
    [("Meter", fun _ => .plain ⟨.pass, fun _ _ s => ⟨.success, s, [.progress (.given 50)]⟩⟩),
      ("Rest", fun _ => .plain rest)]).withFlow restful

theorem step?_breather (vars : Variables) :
    breather.step? plugged vars = some (.plain rest) := by
  have ref : breather.stepRef = .ok (.native "Rest") := by rfl
  have asks : Task.ofPart plugged vars breather = .ok (.native (.plain rest)) :=
    Task.ofPart_of_stepRef ref vars
  exact Part.step?_of_task asks

/-- The plugin reports no progress. -/
theorem isQuiet_rest : (Step.plain rest).IsQuiet folders :=
  .plugin fun _ => ⟨fun _ _ told => (nomatch told), fun _ _ _ told => (nomatch told)⟩

theorem plan_restful : Iteration.plan folders plugged inEach start = .ok (restful, inFiles) :=
  Iteration.plan_of_matching (isFolder_in _) (by rfl) rfl (by rfl) (matchingFiles_in _)

/-- The plugin is started once for each of the two files. -/
theorem journal_restful : ∃ c₁ c₂ after,
    performStep folders plugged (.eachFile inEach) start = (.output 1, after) ∧
      after.ledger.journal =
        [.notice (.progress (.share 2 2)), .finished restful breather .success 1,
          .started restful breather c₂, .notice (.progress (.share 1 2)),
          .finished restful breather .success 1, .started restful breather c₁] := by
  have rests (st : Standing) : ComesTo folders plugged (.attempt restful breather) st
      (.done .success) (Turn.act folders (fun _ => rest) (Turn.checked (.plain rest) st)).2 :=
    .plain (step?_breather _) rfl
  have visits : ComesTo folders plugged (.visit restful 2 0 inFiles) start (.done (.output 1)) _ :=
    .visitNext rfl (.enter (by decide) rfl (.last rfl rfl (by decide) (rests _) rfl)) rfl
      (.visitNext rfl (.enter (by decide) rfl (.last rfl rfl (by decide) (rests _) rfl)) rfl
        .visitedAll)
  exact ⟨_, _, _, performStep_of_visit plan_restful visits, rfl⟩

end Sample

/-- Two walks in which a plugin is started that reports no progress: the reports are those of the
iteration, though a plugin is at hand that would report. -/
theorem quiet_iteration_delivers_shares :
    let step := performStep Sample.folders Sample.plugged (.eachFile Sample.inEach) Sample.start
    let reports := delivered (step.2.ledger.since Sample.start.ledger).reverse
    Iteration.plan Sample.folders Sample.plugged Sample.inEach Sample.start =
        .ok (Sample.restful, Sample.inFiles) ∧
      (∀ event ∈ step.2.ledger.since Sample.start.ledger,
        event.Starts Sample.plugged (Step.IsQuiet Sample.folders)) ∧
      step.1 = .output 1 ∧ reports = [.share 1 2, .share 2 2] ∧
      ∀ read, (fractions read reports).Pairwise (· ≤ ·) := by
  intro step reports
  obtain ⟨c₁, c₂, after, performed, journal⟩ := Sample.journal_restful
  have output : step.1 = .output 1 := congrArg Prod.fst performed
  have since : step.2.ledger.since Sample.start.ledger = after.ledger.journal := by
    rw [show step = (.output 1, after) from performed]
    exact Ledger.since_eq (List.append_nil _).symm
  have quiet : ∀ event ∈ step.2.ledger.since Sample.start.ledger,
      event.Starts Sample.plugged (Step.IsQuiet Sample.folders) := by
    have started (c : Context) : (Event.started Sample.restful Sample.breather c).Starts
        Sample.plugged (Step.IsQuiet Sample.folders) := by
      intro step executes
      rw [Sample.step?_breather] at executes
      cases executes
      exact Sample.isQuiet_rest
    simp only [since, journal, List.forall_mem_cons]
    exact ⟨trivial, trivial, started c₂, trivial, trivial, started c₁, fun _ mem => nomatch mem⟩
  have delivers (read : Float32 → ℚ) :
      reports = [.share 1 2, .share 2 2] ∧ (fractions read reports).Pairwise (· ≤ ·) := by
    obtain ⟨-, planned⟩ := iteration_delivers_progress Sample.folders Sample.plugged
      Sample.inEach Sample.start read
    obtain ⟨m, -, -, -, -, all, alone⟩ := planned _ _ Sample.plan_restful
    obtain ⟨rfl, -, -⟩ := all output
    exact alone quiet
  exact ⟨Sample.plan_restful, quiet, output, (delivers fun _ => 0).1, fun read => (delivers read).2⟩

namespace Sample

/-- A flow that does nothing. -/
def pause : Flow :=
  { Flow.new "pause" .subFlow (uid 2) with parts := [(Part.new "SubFlowInput" (uid 1)).entry] }

/-- A flow that iterates over the folder once more. -/
def revisiting : Flow :=
  { Flow.new "revisiting" .subFlow (uid 3) with parts := [visiting "in" (uid 2)] }

/-- A worker with both flows. -/
def revisited : Registry :=
  ((Registry.empty.withSteps Step.basics).withFlow pause).withFlow revisiting

/-- The iteration over the folder for each file of which it is iterated over once more. -/
def twice : EachFile := ⟨"in", "", false, some (uid 3)⟩

/-- The work comes to a reply, has counted so many parts and has delivered some reports. -/
def Delivers (work : Work) (st : Standing) (reply : Reply) (parts : Nat)
    (reports : List Percent) : Prop :=
  ∃ after, ComesTo folders revisited work st reply after ∧ after.ledger.canceled = false ∧
    after.ledger.executed = st.ledger.executed + parts ∧
    after.ledger.ceiling = st.ledger.ceiling ∧
    delivered after.ledger.journal.reverse = delivered st.ledger.journal.reverse ++ reports

/-- An iteration over the two files delivers what the walks deliver and its own reports. -/
theorem delivers_both {flow : Flow} {c : Context} {parts : Nat} {reports : List Percent}
    (walks : ∀ file ∈ inFiles, ∀ st : Standing, st.context = c → st.ledger.canceled = false →
      st.ledger.executed + parts ≤ st.ledger.ceiling →
      Delivers (.walk flow) (Iteration.fileStart flow file st) (.leave .completed) parts reports)
    (st : Standing) (at_ : st.context = c) (live : st.ledger.canceled = false)
    (room : st.ledger.executed + 2 * parts ≤ st.ledger.ceiling) :
    Delivers (.visit flow 2 0 inFiles) st (.done (.output 1)) (2 * parts)
      (reports ++ .share 1 2 :: (reports ++ [.share 2 2])) := by
  obtain ⟨after, walk, live₁, executed, ceiling, told⟩ :=
    walks ⟨"in/a.txt"⟩ (.head _) st at_ live (by omega)
  rw [Iteration.fileStart_ledger] at executed ceiling told
  let between := (st.withLedger after.ledger).tell [.progress (.share 1 2)]
  have still : between.ledger.canceled = false := by
    show (after.ledger.canceled || false) = false
    rw [live₁]
    rfl
  have room' : between.ledger.executed + parts ≤ between.ledger.ceiling := by
    show after.ledger.executed + parts ≤ after.ledger.ceiling
    omega
  obtain ⟨after', walk', live₂, executed', ceiling', told'⟩ :=
    walks ⟨"in/b.txt"⟩ (.tail _ (.head _)) between at_ still room'
  rw [Iteration.fileStart_ledger] at executed' ceiling' told'
  refine ⟨_, .visitNext live walk rfl (.visitNext still walk' rfl .visitedAll), ?_, ?_, ?_, ?_⟩
  · show (after'.ledger.canceled || false) = false
    rw [live₂]
    rfl
  · show after'.ledger.executed = _
    have same : between.ledger.executed = after.ledger.executed := rfl
    omega
  · show after'.ledger.ceiling = _
    exact ceiling'.trans ceiling
  · have second : delivered (after'.ledger.tell [.progress (.share 2 2)]).journal.reverse =
        delivered after'.ledger.journal.reverse ++ [.share 2 2] := delivered_tell _ _
    have first : delivered between.ledger.journal.reverse =
        delivered after.ledger.journal.reverse ++ [.share 1 2] := delivered_tell _ _
    refine second.trans ?_
    rw [told', first, told]
    simp

/-- The walk of the flow that does nothing delivers nothing. -/
theorem delivers_pause (file : Path) (st : Standing) (shallow : st.context.depth < maxFlowDepth)
    (live : st.ledger.canceled = false) (room : st.ledger.executed + 1 ≤ st.ledger.ceiling) :
    Delivers (.walk pause) (Iteration.fileStart pause file st) (.leave .completed) 1 [] := by
  refine ⟨_, .enter shallow rfl (.last live rfl room (.input rfl) rfl), live, rfl, rfl, ?_⟩
  rw [List.append_nil]
  exact (delivered_enter _ rfl).trans (delivered_enter _ rfl)

/-- The walk of the other flow delivers the reports of its iteration. -/
theorem delivers_revisiting (file : Path) (mem : file ∈ inFiles) (st : Standing)
    (at_ : st.context = start.context) (live : st.ledger.canceled = false)
    (room : st.ledger.executed + 3 ≤ st.ledger.ceiling) :
    Delivers (.walk revisiting) (Iteration.fileStart revisiting file st) (.leave .completed) 3
      [.share 1 2, .share 2 2] := by
  let started := Turn.start revisiting (visiting "in" (uid 2))
    (Iteration.fileStart revisiting file st).count
  have executes : (visiting "in" (uid 2)).step? revisited started.context.vars =
      some (.eachFile inEach) := by
    have vars : started.context.vars =
        (Iteration.childContext start.context revisiting file).vars := by
      rw [← at_]
      rfl
    rw [vars]
    simp only [inFiles, List.mem_cons, List.not_mem_nil, or_false] at mem
    rcases mem with rfl | rfl
    · rfl
    · rfl
  have depth : started.context.depth = 1 := by
    show st.context.depth + 1 = 1
    rw [at_]
    rfl
  have plan : Iteration.plan folders revisited inEach started = .ok (pause, inFiles) :=
    Iteration.plan_of_matching (isFolder_in _) (by rfl) rfl (by rfl) (matchingFiles_in _)
  have walks : ∀ file ∈ inFiles, ∀ st : Standing, st.context = started.context →
      st.ledger.canceled = false → st.ledger.executed + 1 ≤ st.ledger.ceiling →
      Delivers (.walk pause) (Iteration.fileStart pause file st) (.leave .completed) 1 [] := by
    intro file _ st at_ live room
    have shallow : st.context.depth < maxFlowDepth := by
      rw [at_, depth]
      decide
    exact delivers_pause file st shallow live room
  have left : started.ledger.executed + 2 * 1 ≤ started.ledger.ceiling := by
    show st.ledger.executed + 1 + 2 ≤ st.ledger.ceiling
    omega
  obtain ⟨after, visits, live', executed, ceiling, told⟩ :=
    delivers_both walks started rfl live left
  have checked : Turn.checked (.eachFile inEach) started = started :=
    Iteration.checked_eq_self (by rfl)
  rw [← checked] at plan visits
  have shallow : (Iteration.fileStart revisiting file st).context.depth ≤ maxFlowDepth := by
    show st.context.depth + 1 ≤ maxFlowDepth
    rw [at_]
    decide
  have work : ComesTo folders revisited (.attempt revisiting (visiting "in" (uid 2))) started
      (.done (.output 1)) after := .iterate executes (by rfl) plan visits
  have first : st.ledger.executed < st.ledger.ceiling := by omega
  refine ⟨_, .enter shallow rfl (.last live rfl first work rfl), live', ?_, ceiling, ?_⟩
  · show after.ledger.executed = st.ledger.executed + 3
    have counted : started.ledger.executed = st.ledger.executed + 1 := rfl
    omega
  · refine (delivered_enter _ rfl).trans (told.trans ?_)
    exact congrArg (· ++ _) (delivered_enter _ rfl)

end Sample

/-- An iteration in the walks for two files starts anew for each of them: the reports fall from the
whole to the half, and there are six of them. -/
theorem nested_iteration_lowers_progress :
    let step := performStep Sample.folders Sample.revisited (.eachFile Sample.twice) Sample.start
    let reports := delivered (step.2.ledger.since Sample.start.ledger).reverse
    Iteration.plan Sample.folders Sample.revisited Sample.twice Sample.start =
        .ok (Sample.revisiting, Sample.inFiles) ∧
      step.1 = .output 1 ∧ reports = [.share 1 2, .share 2 2, .share 1 2, .share 1 2, .share 2 2,
        .share 2 2] ∧
      (∀ read, ¬ (fractions read reports).Pairwise (· ≤ ·)) ∧
      reports.length ≠ Sample.inFiles.length := by
  have plan : Iteration.plan Sample.folders Sample.revisited Sample.twice Sample.start =
      .ok (Sample.revisiting, Sample.inFiles) :=
    Iteration.plan_of_matching (Sample.isFolder_in _) (by rfl) rfl (by rfl)
      (Sample.matchingFiles_in _)
  obtain ⟨after, visits, -, -, -, told⟩ :=
    Sample.delivers_both Sample.delivers_revisiting Sample.start rfl rfl (by decide)
  have performed : performStep Sample.folders Sample.revisited (.eachFile Sample.twice)
      Sample.start = (.output 1, after) :=
    performStep_of_visit plan visits
  have reports : delivered (after.ledger.since Sample.start.ledger).reverse =
      [.share 1 2, .share 2 2, .share 1 2, .share 1 2, .share 2 2, .share 2 2] := by
    rw [Ledger.since_eq (List.append_nil after.ledger.journal).symm]
    exact told
  rw [performed]
  dsimp only
  rw [reports]
  refine ⟨plan, rfl, rfl, ?_, by decide⟩
  intro read sorted
  have falls : ((2 : Nat) : ℚ) / (2 : Nat) ≤ ((1 : Nat) : ℚ) / (2 : Nat) :=
    (List.pairwise_cons.1 (List.pairwise_cons.1 sorted).2).1 _ (.head _)
  norm_num at falls

end FlowGraph
