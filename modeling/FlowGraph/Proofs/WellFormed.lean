import FlowGraph.Proofs.Trail

/-!
# Well-formed flows

A walk looks for the entry of a flow, for the part of a uid and for the part at the end of a
connection. `Flow.IsSound` says that it finds them all, each of them the one that is meant, and
a flow is sound if its list of problems is empty.
-/

namespace FlowGraph

namespace Flow

/-- A flow in which everything is found that a walk can look for. -/
structure IsSound (flow : Flow) : Prop where
  entry : ∃ entry, flow.parts.filter Part.isEntry = [entry]
  distinct : flow.parts.Pairwise fun p q => p.uid ≠ q.uid
  leads : ∀ part ∈ flow.parts, ∀ c ∈ part.outputConnections ++ part.errorConnection.toList,
    ∃ next, flow.part? c.target = some next

theorem entryPart_eq_ok {flow : Flow} {entry : Part} :
    flow.entryPart = .ok entry ↔ flow.parts.filter Part.isEntry = [entry] := by
  rw [entryPart]
  rcases flow.parts.filter Part.isEntry with _ | ⟨first, _ | ⟨second, rest⟩⟩ <;> simp

/-- The entry is one of the parts. -/
theorem mem_of_entryPart {flow : Flow} {entry : Part} (h : flow.entryPart = .ok entry) :
    entry ∈ flow.parts := by
  have only := entryPart_eq_ok.1 h
  have mem : entry ∈ flow.parts.filter Part.isEntry := by
    rw [only]
    exact List.mem_singleton_self entry
  exact (List.mem_filter.1 mem).1

/-- Some part is found under the uid of each part, another one if they share it. -/
theorem exists_part? {flow : Flow} {part : Part} (there : part ∈ flow.parts) :
    ∃ found, flow.part? part.uid = some found := by
  cases found : flow.part? part.uid with
  | none => exact absurd rfl (part?_eq_none.1 found part there)
  | some other => exact ⟨other, rfl⟩

/-- Nothing is repeated in parts of distinct uids that were not seen before. -/
theorem pairwise_of_repeated {seen : List Uuid} {parts : List Part} (h : repeated seen parts = []) :
    parts.Pairwise (fun p q => p.uid ≠ q.uid) ∧ ∀ p ∈ parts, p.uid ∉ seen := by
  induction parts generalizing seen with
  | nil => exact ⟨.nil, by simp⟩
  | cons part parts ih =>
    by_cases old : part.uid ∈ seen
    · simp [repeated, old] at h
    · simp only [repeated, old, if_false] at h
      obtain ⟨distinct, fresh⟩ := ih h
      refine ⟨List.pairwise_cons.2 ⟨fun q mem same => ?_, distinct⟩, ?_⟩
      · exact fresh q mem (by simp [same])
      · refine List.forall_mem_cons.2 ⟨old, fun q mem again => ?_⟩
        exact fresh q mem (List.mem_cons_of_mem _ again)

/-- **What has no problems is well formed.** -/
theorem isSound_of_problems {flow : Flow} (h : flow.problems = []) : flow.IsSound := by
  rw [problems, List.append_eq_nil_iff, List.append_eq_nil_iff] at h
  obtain ⟨⟨entries, repeats⟩, connections⟩ := h
  refine ⟨?_, ?_, ?_⟩
  · cases entry : flow.entryPart with
    | error e => simp [entryProblems, entry] at entries
    | ok part => exact ⟨part, entryPart_eq_ok.1 entry⟩
  · exact (pairwise_of_repeated (List.map_eq_nil_iff.1 repeats)).1
  · intro part there c mem
    have none := List.flatMap_eq_nil_iff.1 connections part there
    rw [connectionProblems, List.append_eq_nil_iff] at none
    have leads := List.filter_eq_nil_iff.1 (List.map_eq_nil_iff.1 none.2) c mem
    cases found : flow.part? c.target with
    | none => simp [found] at leads
    | some next => exact ⟨next, rfl⟩

/-- The entry of a well-formed flow is found under its uid. -/
theorem IsSound.entryPart {flow : Flow} (h : flow.IsSound) :
    ∃ entry, flow.entryPart = .ok entry ∧ flow.part? entry.uid = some entry := by
  obtain ⟨entry, only⟩ := h.entry
  have found := entryPart_eq_ok.2 only
  exact ⟨entry, found, part?_uid h.distinct (mem_of_entryPart found)⟩

/-- In a well-formed flow there is a part at the end of each connection that a result follows. -/
theorem IsSound.exists_target {flow : Flow} (h : flow.IsSound) {part : Part}
    (there : part ∈ flow.parts) {result : StepResult} {c : Connection}
    (follows : Turn.connection? part result = some c) :
    ∃ next, flow.part? c.target = some next := by
  refine h.leads part there c ?_
  cases result with
  | output n => exact List.mem_append_left _ (List.mem_of_find?_eq_some follows)
  | failure => exact List.mem_append_right _ (Option.mem_toList.2 follows)
  | completed | canceled | terminalExit => cases follows

/-- In a well-formed flow each result of a part leads on that has a connection. -/
theorem IsSound.next? {flow : Flow} (h : flow.IsSound) {part : Part} (there : part ∈ flow.parts)
    {result : StepResult} {c : Connection} (follows : Turn.connection? part result = some c) :
    Turn.next? flow part result = some c.target := by
  obtain ⟨next, found⟩ := h.exists_target there follows
  simp [Turn.next?, follows, found]

end Flow

end FlowGraph
