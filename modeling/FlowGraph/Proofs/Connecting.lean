import FlowGraph.Proofs.Problems

/-!
# Parts that are connected call by call

A part is built by connecting its outputs one after the other, under numbers of 32 bits. The
connections keep these numbers as signed ones, and an output is asked for by an unsigned one again.
Both have the same bits, so no two outputs are taken for each other and the first connection of a
number is found for it and for no other. A part counts as many outputs as it has been connected
under, so a number is out of range only if it is zero or if it is negative as a signed one.
-/

namespace FlowGraph

/-- The problem is that a connection leaves from an output that its part does not have. -/
def Problem.isOutOfRange : Problem → Bool
  | .outputOutOfRange _ _ _ => true
  | _ => false

namespace Part

/-- Connects the outputs of a part one after the other. -/
def connectAll (p : Part) (calls : List (UInt32 × Uuid)) : Part :=
  calls.foldl (fun p call => p.connect call.1.toNat call.2) p

/-! ## Numbers of outputs -/

/-- A number of 32 bits comes back from its signed form. -/
theorem unwrapOutput_wrapOutput {n : Nat} (fits : n < UInt32.size) :
    unwrapOutput (wrapOutput n) = n := by
  have bits : wrapOutput n % UInt32.size = n % UInt32.size := Int.bmod_emod
  have same : (n : Int) % UInt32.size = n := Int.emod_eq_of_lt (by omega) (by omega)
  rw [unwrapOutput, bits, same, Int.toNat_natCast]

/-- No two outputs have one signed number. -/
theorem wrapOutput_inj {m n : UInt32} : wrapOutput m.toNat = wrapOutput n.toNat ↔ m = n := by
  constructor
  · intro same
    have same := congrArg unwrapOutput same
    rw [unwrapOutput_wrapOutput m.toNat_lt_size, unwrapOutput_wrapOutput n.toNat_lt_size] at same
    exact UInt32.toNat_inj.1 same
  · rintro rfl
    rfl

/-- A signed number is less than one if the output is zero or fills the highest bit. -/
theorem wrapOutput_lt_one {n : Nat} (fits : n < UInt32.size) :
    wrapOutput n < 1 ↔ n = 0 ∨ 0x80000000 ≤ n := by
  have size : UInt32.size = 0x100000000 := rfl
  by_cases low : 2 * n < UInt32.size
  · rw [wrapOutput_of_lt low]
    omega
  · rw [wrapOutput_of_le (Nat.le_of_not_lt low) fits]
    omega

/-! ## What the calls leave -/

/-- Each call adds a connection behind those that are there. -/
theorem outputConnections_connectAll (p : Part) (calls : List (UInt32 × Uuid)) :
    (p.connectAll calls).outputConnections =
      p.outputConnections ++ calls.map fun call => ⟨wrapOutput call.1.toNat, call.2⟩ := by
  induction calls generalizing p with
  | nil => exact (List.append_nil _).symm
  | cons call calls ih =>
    have rest := ih (p.connect call.1.toNat call.2)
    rw [connect, List.append_assoc] at rest
    exact rest

/-- No call takes outputs away. -/
theorem outputs_le_connectAll (p : Part) (calls : List (UInt32 × Uuid)) :
    p.outputs ≤ (p.connectAll calls).outputs := by
  induction calls generalizing p with
  | nil => exact Nat.le_refl _
  | cons call calls ih =>
    exact Nat.le_trans (Nat.le_max_left _ _) (ih (p.connect call.1.toNat call.2))

/-- The part has every output that it was connected under. -/
theorem toNat_le_outputs_connectAll {p : Part} {calls : List (UInt32 × Uuid)}
    {call : UInt32 × Uuid} (mem : call ∈ calls) : call.1.toNat ≤ (p.connectAll calls).outputs := by
  induction calls generalizing p with
  | nil => cases mem
  | cons first calls ih =>
    rcases List.mem_cons.1 mem with rfl | mem
    · exact Nat.le_trans (Nat.le_max_right _ _)
        (outputs_le_connectAll (p.connect call.1.toNat call.2) calls)
    · exact ih mem

/-- If no two outputs have one number, the first call for an output is found by its number. -/
theorem find?_map_call {number : UInt32 → Int} (apart : ∀ {m n}, number m = number n ↔ m = n)
    (calls : List (UInt32 × Uuid)) (n : UInt32) :
    (calls.map fun call => (⟨number call.1, call.2⟩ : Connection)).find?
        (fun c => c.output == number n) =
      (calls.find? fun call => call.1 == n).map fun call => ⟨number call.1, call.2⟩ := by
  have same : ∀ m, (number m == number n) = (m == n) := by
    intro m
    rw [Bool.eq_iff_iff, beq_iff_eq, beq_iff_eq]
    exact apart
  rw [List.find?_map]
  simp only [Function.comp_def, same]

/-- The first call for an output is found for it. -/
theorem connectionFor?_connectAll (element : String) (uid : Uuid) (calls : List (UInt32 × Uuid))
    (n : UInt32) :
    ((new element uid).connectAll calls).connectionFor? n.toNat =
      (calls.find? fun call => call.1 == n).map fun call => ⟨wrapOutput call.1.toNat, call.2⟩ := by
  rw [connectionFor?, outputConnections_connectAll]
  exact find?_map_call wrapOutput_inj calls n

/-! ## Numbers that are out of range -/

/-- The problems of a part with its numbers of outputs. -/
def rangeProblems (p : Part) : List Problem :=
  (p.outputConnections.filter (Flow.isOutOfRange p)).map fun c =>
    .outputOutOfRange p.uid c.output p.outputs

/-- A number that the part was connected under is out of range as zero and in the upper half. -/
theorem isOutOfRange_connectAll {p : Part} {calls : List (UInt32 × Uuid)} {call : UInt32 × Uuid}
    (mem : call ∈ calls) :
    Flow.isOutOfRange (p.connectAll calls) ⟨wrapOutput call.1.toNat, call.2⟩ = true ↔
      call.1.toNat = 0 ∨ 0x80000000 ≤ call.1.toNat := by
  have fits := call.1.toNat_lt_size
  have there : ¬unwrapOutput (wrapOutput call.1.toNat) > (p.connectAll calls).outputs := by
    rw [unwrapOutput_wrapOutput fits]
    exact Nat.not_lt.2 (toNat_le_outputs_connectAll mem)
  rw [← wrapOutput_lt_one fits, Flow.isOutOfRange, decide_eq_false there, Bool.or_false,
    decide_eq_true_iff]

/-- A new part has no such problem just if all its numbers are above zero and in the lower half. -/
theorem rangeProblems_connectAll_eq_nil {element : String} {uid : Uuid}
    {calls : List (UInt32 × Uuid)} :
    ((new element uid).connectAll calls).rangeProblems = [] ↔
      ∀ call ∈ calls, 1 ≤ call.1.toNat ∧ call.1.toNat ≤ 0x7fffffff := by
  have connections : ((new element uid).connectAll calls).outputConnections =
      calls.map fun call => ⟨wrapOutput call.1.toNat, call.2⟩ :=
    outputConnections_connectAll (new element uid) calls
  rw [rangeProblems, connections, List.map_eq_nil_iff, List.filter_eq_nil_iff, List.forall_mem_map]
  refine forall₂_congr ?_
  intro call mem
  rw [isOutOfRange_connectAll mem]
  omega

end Part

/-- The problems that a flow has with numbers of outputs are those of its parts, part by part. -/
theorem Flow.filter_problems (flow : Flow) :
    flow.problems.filter Problem.isOutOfRange = flow.parts.flatMap Part.rangeProblems := by
  have entry : flow.entryProblems.filter Problem.isOutOfRange = [] := by
    rw [entryProblems_eq]
    split
    · rfl
    · split <;> rfl
  have duplicates :
      ((repeated [] flow.parts).map (Problem.duplicatePart flow.name)).filter
        Problem.isOutOfRange = [] := by
    simp [Problem.isOutOfRange]
  have connections : ∀ part ∈ flow.parts,
      (flow.connectionProblems part).filter Problem.isOutOfRange = part.rangeProblems := by
    intro part _
    rw [connectionProblems, List.filter_append, List.filter_map, List.filter_map]
    simp [Problem.isOutOfRange, Function.comp_def, Part.rangeProblems]
  rw [problems, List.filter_append, List.filter_append, entry, duplicates, List.filter_flatMap]
  exact List.flatMap_congr connections

/-- **Connected outputs are kept apart.** Whatever outputs of a new part are connected, in whatever
order and however often, the first call for an output decides where it leads, and an output that no
call names leads nowhere. Every flow has the same problems with numbers of outputs with the part as
without it just if all numbers of the calls are above zero and in the lower half. -/
theorem connected_outputs_are_kept_apart (element : String) (uid : Uuid)
    (calls : List (UInt32 × Uuid)) :
    let part := (Part.new element uid).connectAll calls
    (∀ n : UInt32, (part.connectionFor? n.toNat).map Connection.target =
        (calls.find? fun call => call.1 == n).map Prod.snd) ∧
      ((∀ call ∈ calls, 1 ≤ call.1.toNat ∧ call.1.toNat ≤ 0x7fffffff) ↔
        ∀ (flow : Flow) (before after : List Part),
          { flow with parts := before ++ part :: after }.problems.filter Problem.isOutOfRange =
            { flow with parts := before ++ after }.problems.filter Problem.isOutOfRange) := by
  intro part
  refine ⟨fun n => ?_, ?_⟩
  · rw [Part.connectionFor?_connectAll, Option.map_map]
    rfl
  · rw [← Part.rangeProblems_connectAll_eq_nil]
    simp only [Flow.filter_problems, List.flatMap_append, List.flatMap_cons]
    constructor
    · intro none flow before after
      rw [none, List.nil_append]
    · intro same
      simpa using same (Flow.new "" .normal uid) [] []

namespace Sample

/-- Calls for the highest number that is in range and, twice, for a low one. -/
def lowAndHigh : List (UInt32 × Uuid) := [(2, uid 1), (0x7fffffff, uid 2), (2, uid 3)]

end Sample

/-- The second call for an output changes nothing, the number above the highest one is no other
output, and the part adds nothing to the problems of a flow that has some of its own. -/
theorem low_and_high_outputs_lead_apart :
    let part := (Part.new "Absent" (Sample.uid 4)).connectAll Sample.lowAndHigh
    (part.connectionFor? 2).map Connection.target = some (Sample.uid 1) ∧
      (part.connectionFor? 0x80000000).map Connection.target = none ∧
      (∀ call ∈ Sample.lowAndHigh, 1 ≤ call.1.toNat ∧ call.1.toNat ≤ 0x7fffffff) ∧
      { Sample.tangled with parts := [Sample.frayed] ++ part :: [Sample.frayed] }.problems.filter
          Problem.isOutOfRange =
        { Sample.tangled with parts := [Sample.frayed] ++ [Sample.frayed] }.problems.filter
          Problem.isOutOfRange := by
  have within : ∀ call ∈ Sample.lowAndHigh, 1 ≤ call.1.toNat ∧ call.1.toNat ≤ 0x7fffffff := by
    decide
  obtain ⟨leads, same⟩ :=
    connected_outputs_are_kept_apart "Absent" (Sample.uid 4) Sample.lowAndHigh
  exact ⟨leads 2, leads 0x80000000, within, same.1 within _ _ _⟩

end FlowGraph
