import FlowGraph.Proofs.StoredFlows
import FlowGraph.Proofs.Trail
import Mathlib.Data.List.Count
import Mathlib.Data.List.Nodup

/-!
# What the problems of a flow tell

The problems of a flow are exactly those of its graph: `Flow.occurrences` counts, in terms of the
graph alone, how often it has a problem, and that is how often the problem is reported. So a flow
without problems is well formed, and every well-formed flow is without problems.
-/

namespace FlowGraph

/-- The bits of a number that is not negative stand for that number. -/
theorem Part.unwrapOutput_of_nonneg {n : Int} (nonneg : 0 ≤ n) (fits : n < UInt32.size) :
    (unwrapOutput n : Int) = n := by
  rw [unwrapOutput, Int.emod_eq_of_lt nonneg fits, Int.toNat_of_nonneg nonneg]

/-- The part has the output that the connection leaves from. -/
def Connection.LeavesFrom (c : Connection) (p : Part) : Prop := 1 ≤ c.output ∧ c.output ≤ p.outputs

instance (c : Connection) (p : Part) : Decidable (c.LeavesFrom p) :=
  inferInstanceAs (Decidable (_ ∧ _))

namespace Flow

/-- The number of parts that a flow could start at. -/
def entries (flow : Flow) : Nat := flow.parts.countP fun p => p.inputs = 0

/-- The output connections of a flow, each with the part that it leaves. -/
def outputEdges (flow : Flow) : List (Part × Connection) :=
  flow.parts.flatMap fun p => p.outputConnections.map (Prod.mk p)

/-- The connections of a flow, each with the part that it leaves. -/
def edges (flow : Flow) : List (Part × Connection) :=
  flow.parts.flatMap fun p => (p.outputConnections ++ p.errorConnection.toList).map (Prod.mk p)

/-- One part of the flow has no inputs, no two have one uid, and every connection leads from an
output that there is to a part that there is. -/
structure IsWellFormed (flow : Flow) : Prop where
  entry : flow.entries = 1
  distinct : (flow.parts.map Part.uid).Nodup
  leaves : ∀ e ∈ flow.outputEdges, e.2.LeavesFrom e.1
  leads : ∀ e ∈ flow.edges, e.2.target ∈ flow.parts.map Part.uid

/-- How often the graph of a flow has a problem. -/
def occurrences (flow : Flow) : Problem → Nat
  | .noEntryPart name => if flow.name = name ∧ flow.entries = 0 then 1 else 0
  | .multipleEntryParts name count =>
    if flow.name = name ∧ flow.entries = count ∧ 2 ≤ count then 1 else 0
  | .duplicatePart name uid =>
    if flow.name = name then (flow.parts.map Part.uid).count uid - 1 else 0
  | .outputOutOfRange uid output outputs =>
    flow.outputEdges.countP fun e =>
      e.1.uid = uid ∧ e.2.output = output ∧ e.1.outputs = outputs ∧ ¬e.2.LeavesFrom e.1
  | .danglingConnection uid target =>
    flow.edges.countP fun e =>
      e.1.uid = uid ∧ e.2.target = target ∧ target ∉ flow.parts.map Part.uid

variable {flow : Flow}

/-! ## How often a problem is reported -/

theorem entryProblems_eq (flow : Flow) :
    flow.entryProblems =
      if flow.entries = 0 then [.noEntryPart flow.name]
      else if 2 ≤ flow.entries then [.multipleEntryParts flow.name flow.entries] else [] := by
  have length : flow.entries = (flow.parts.filter Part.isEntry).length := by
    rw [entries, List.countP_eq_length_filter]
    rfl
  rw [length, entryProblems, entryPart]
  rcases flow.parts.filter Part.isEntry with _ | ⟨first, _ | ⟨second, rest⟩⟩ <;> simp

/-- A uid is repeated by every part of that uid, but not by the first one. -/
theorem count_repeated (uid : Uuid) (seen : List Uuid) (parts : List Part) :
    (repeated seen parts).count uid =
      (parts.map Part.uid).count uid - if uid ∈ seen then 0 else 1 := by
  induction parts generalizing seen with
  | nil => simp [repeated]
  | cons part parts ih =>
    by_cases same : part.uid = uid
    · subst same
      by_cases old : part.uid ∈ seen
      · simp [repeated, old, ih]
      · simp [repeated, old, ih]
    · have unequal : ¬uid = part.uid := fun eq => same eq.symm
      by_cases old : part.uid ∈ seen
      · simp [repeated, old, ih, same]
      · simp [repeated, old, ih, same, unequal]

theorem isOutOfRange_iff {p : Part} {c : Connection} (fits : c.Fits) :
    isOutOfRange p c = true ↔ ¬c.LeavesFrom p := by
  obtain ⟨-, below⟩ := fits
  rw [isOutOfRange, Bool.or_eq_true, decide_eq_true_iff, decide_eq_true_iff, Connection.LeavesFrom]
  by_cases low : c.output < 1
  · exact iff_of_true (.inl low) fun inside => absurd inside.1 (Int.not_le.2 low)
  · have value : (Part.unwrapOutput c.output : Int) = c.output :=
      Part.unwrapOutput_of_nonneg (by omega) (by simp [UInt32.size]; omega)
    omega

theorem isNone_part?_iff {target : Uuid} :
    (flow.part? target).isNone = true ↔ target ∉ flow.parts.map Part.uid := by
  rw [Option.isNone_iff_eq_none, part?_eq_none, List.mem_map]
  grind

/-- The problem of an edge that leaves from an output that is not there. -/
def outOfRange (e : Part × Connection) : Problem :=
  .outputOutOfRange e.1.uid e.2.output e.1.outputs

/-- The problem of an edge that leads to a part that is not there. -/
def dangling (e : Part × Connection) : Problem := .danglingConnection e.1.uid e.2.target

/-- A problem is reported for each of those that have it. -/
theorem count_reports {α : Type} (report : α → Problem) (has : α → Bool) (l : List α)
    (problem : Problem) :
    ((l.filter has).map report).count problem = l.countP fun a => report a == problem && has a := by
  rw [List.count, List.countP_map, List.countP_filter]
  rfl

/-- Reports of another kind are not reports of the problem. -/
theorem countP_reports_of_other {α : Type} {report : α → Problem} {problem : Problem}
    (other : ∀ a, report a ≠ problem) (has : α → Bool) (l : List α) :
    (l.countP fun a => report a == problem && has a) = 0 := by
  simp [other]

theorem count_entryProblems (problem : Problem) :
    flow.entryProblems.count problem =
      (if Problem.noEntryPart flow.name = problem ∧ flow.entries = 0 then 1 else 0) +
        if Problem.multipleEntryParts flow.name flow.entries = problem ∧ 2 ≤ flow.entries then 1
        else 0 := by
  rw [entryProblems_eq]
  by_cases none : flow.entries = 0
  · simp [none, List.count_singleton]
  · by_cases many : 2 ≤ flow.entries
    · simp [none, many, List.count_singleton]
    · simp [none, many]

theorem count_duplicates (flow : Flow) (name : String) (uid : Uuid) :
    ((repeated [] flow.parts).map (Problem.duplicatePart flow.name)).count
        (.duplicatePart name uid) =
      if flow.name = name then (flow.parts.map Part.uid).count uid - 1 else 0 := by
  by_cases own : flow.name = name
  · subst own
    have injective : Function.Injective (Problem.duplicatePart flow.name) :=
      fun _ _ same => (Problem.duplicatePart.inj same).2
    rw [List.count_map_of_injective _ _ injective, count_repeated]
    simp
  · simp [List.count_eq_zero, own]

theorem count_duplicates_of_other {problem : Problem}
    (other : ∀ uid, Problem.duplicatePart flow.name uid ≠ problem) :
    ((repeated [] flow.parts).map (Problem.duplicatePart flow.name)).count problem = 0 := by
  simp [List.count_eq_zero, other]

/-- What is wrong with the connections of each part is wrong with the edges of the flow. -/
theorem count_connectionProblems (problem : Problem) :
    (flow.parts.flatMap flow.connectionProblems).count problem =
      flow.outputEdges.countP (fun e => outOfRange e == problem && isOutOfRange e.1 e.2) +
        flow.edges.countP fun e => dangling e == problem && (flow.part? e.2.target).isNone := by
  unfold outputEdges edges
  generalize flow.parts = parts
  induction parts with
  | nil => rfl
  | cons part parts ih =>
    simp only [List.flatMap_cons, List.count_append, List.countP_append, ih, connectionProblems,
      count_reports, List.countP_map, Function.comp_def, outOfRange, dangling]
    omega

/-- **Each problem is reported as often as the graph has it.** -/
theorem count_problems (fits : ∀ e ∈ flow.outputEdges, e.2.Fits) (problem : Problem) :
    flow.problems.count problem = flow.occurrences problem := by
  have ranges : flow.outputEdges.countP (fun e => outOfRange e == problem && isOutOfRange e.1 e.2) =
      flow.outputEdges.countP fun e => outOfRange e == problem && !e.2.LeavesFrom e.1 := by
    refine List.countP_congr ?_
    intro e mem
    simp [isOutOfRange_iff (fits e mem)]
  rw [problems, List.count_append, List.count_append, count_entryProblems,
    count_connectionProblems, ranges]
  cases problem with
  | noEntryPart name =>
    rw [count_duplicates_of_other (by simp), countP_reports_of_other (by simp [outOfRange]),
      countP_reports_of_other (by simp [dangling])]
    simp [occurrences]
  | multipleEntryParts name count =>
    rw [count_duplicates_of_other (by simp), countP_reports_of_other (by simp [outOfRange]),
      countP_reports_of_other (by simp [dangling])]
    simp only [occurrences, reduceCtorEq, false_and, if_false, Problem.multipleEntryParts.injEq]
    grind
  | duplicatePart name uid =>
    rw [count_duplicates, countP_reports_of_other (by simp [outOfRange]),
      countP_reports_of_other (by simp [dangling])]
    simp [occurrences]
  | outputOutOfRange uid output outputs =>
    have other : ∀ e, dangling e ≠ .outputOutOfRange uid output outputs := by simp [dangling]
    rw [count_duplicates_of_other (by simp), countP_reports_of_other other]
    have same : ∀ e ∈ flow.outputEdges,
        ((outOfRange e == .outputOutOfRange uid output outputs && !e.2.LeavesFrom e.1) = true ↔
          decide (e.1.uid = uid ∧ e.2.output = output ∧ e.1.outputs = outputs ∧
            ¬e.2.LeavesFrom e.1) = true) := by
      simp [outOfRange, and_assoc]
    rw [occurrences, List.countP_congr same]
    simp
  | danglingConnection uid target =>
    have other : ∀ e, outOfRange e ≠ .danglingConnection uid target := by simp [outOfRange]
    rw [count_duplicates_of_other (by simp), countP_reports_of_other other]
    have same : ∀ e ∈ flow.edges,
        ((dangling e == .danglingConnection uid target && (flow.part? e.2.target).isNone) = true ↔
          decide (e.1.uid = uid ∧ e.2.target = target ∧
            target ∉ flow.parts.map Part.uid) = true) := by
      intro e mem
      rw [Bool.and_eq_true, isNone_part?_iff]
      simp only [dangling, beq_iff_eq, Problem.danglingConnection.injEq, decide_eq_true_eq]
      grind
    rw [occurrences, List.countP_congr same]
    simp

/-- A flow without problems is well formed. -/
theorem problems_eq_nil_iff (fits : ∀ e ∈ flow.outputEdges, e.2.Fits) :
    flow.problems = [] ↔ flow.IsWellFormed := by
  have none : flow.problems = [] ↔ ∀ problem, flow.occurrences problem = 0 := by
    simp only [List.eq_nil_iff_forall_not_mem, ← List.count_eq_zero, count_problems fits]
  rw [none]
  constructor
  · intro none
    refine ⟨?_, ?_, ?_, ?_⟩
    · have some := none (.noEntryPart flow.name)
      have few := none (.multipleEntryParts flow.name flow.entries)
      simp only [occurrences] at some few
      grind
    · refine List.nodup_iff_count_le_one.2 ?_
      intro uid
      have once := none (.duplicatePart flow.name uid)
      simp only [occurrences, if_true] at once
      omega
    · intro e mem
      have there := none (outOfRange e)
      simp only [occurrences, outOfRange, List.countP_eq_zero] at there
      simpa using there e mem
    · intro e mem
      have there := none (dangling e)
      simp only [occurrences, dangling, List.countP_eq_zero] at there
      simpa using there e mem
  · intro formed problem
    cases problem with
    | noEntryPart name => simp [occurrences, formed.entry]
    | multipleEntryParts name count =>
      simp only [occurrences, formed.entry]
      grind
    | duplicatePart name uid =>
      have once := List.nodup_iff_count_le_one.1 formed.distinct uid
      simp only [occurrences]
      split <;> omega
    | outputOutOfRange uid output outputs =>
      refine List.countP_eq_zero.2 ?_
      intro e mem
      have leaves := formed.leaves e mem
      simp [leaves]
    | danglingConnection uid target =>
      refine List.countP_eq_zero.2 ?_
      intro e mem
      have leads := formed.leads e mem
      simp only [decide_eq_true_eq]
      rintro ⟨-, rfl, missing⟩
      exact missing leads

end Flow

/-- **The problems of a flow are those of its graph.** A flow has none just if one part of it has no
inputs, no two of its parts have one uid, every output connection has a number from 1 to the number
of outputs of its part, and every connection leads to a part of the flow. Any problem is reported
as often as the graph has it: a missing or an ambiguous entry once, a uid for each part that has
it but the first, and a number or a target for each connection whose output, or whose end, is
missing. -/
theorem problems_are_those_of_the_graph (flow : Flow)
    (fits : ∀ e ∈ flow.outputEdges, e.2.Fits) :
    (flow.problems = [] ↔ flow.IsWellFormed) ∧
      ∀ problem, flow.problems.count problem = flow.occurrences problem :=
  ⟨Flow.problems_eq_nil_iff fits, Flow.count_problems fits⟩

namespace Sample

/-- A part that leaves from outputs it does not have, twice from the least number of all, and
fails to where nothing is. -/
def frayed : Part :=
  { Part.new "Absent" (uid 1) with
    outputConnections :=
      [⟨-0x80000000, uid 1⟩, ⟨-0x80000000, uid 2⟩, ⟨1, uid 1⟩, ⟨0x7fffffff, uid 2⟩]
    errorConnection := some ⟨Connection.errorOutput, uid 2⟩ }

/-- A flow of three parts of one uid, two of them the same, none of them without inputs. -/
def tangled : Flow :=
  { Flow.new "tangled" .normal (uid 9) with parts := [frayed, Part.new "Absent" (uid 1), frayed] }

end Sample

theorem problems_of_tangled :
    (∀ e ∈ Sample.tangled.outputEdges, e.2.Fits) ∧ ¬Sample.tangled.IsWellFormed ∧
      Sample.tangled.problems.count (.noEntryPart "tangled") = 1 ∧
      Sample.tangled.problems.count (.duplicatePart "tangled" (Sample.uid 1)) = 2 ∧
      Sample.tangled.problems.count (.outputOutOfRange (Sample.uid 1) (-0x80000000) 1) = 4 ∧
      Sample.tangled.problems.count (.danglingConnection (Sample.uid 1) (Sample.uid 2)) = 6 := by
  have fits : ∀ e ∈ Sample.tangled.outputEdges, e.2.Fits := by
    unfold Connection.Fits
    decide
  obtain ⟨formed, counts⟩ := problems_are_those_of_the_graph Sample.tangled fits
  refine ⟨fits, ?_, ?_, ?_, ?_, ?_⟩
  · rw [← formed]
    decide
  · rw [counts]
    decide
  · rw [counts]
    decide
  · rw [counts]
    decide
  · rw [counts]
    decide

end FlowGraph
