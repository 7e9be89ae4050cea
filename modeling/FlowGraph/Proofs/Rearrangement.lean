import FlowGraph.Proofs.Lockstep
import Mathlib.Data.List.Find
import Mathlib.Data.List.Nodup

/-!
# The order in which a flow lists things does not matter

A flow lists its parts and a part its connections, and a run looks both up. Where no two parts of
a flow have one uid and no two connections of a part one output, a lookup finds the same in every
order, and the entry is the same. So flows whose lists are rearranged are alike, and runs of them
go in lockstep.
-/

namespace FlowGraph

/-- The part with its connections in another order, no two of them of one output. -/
structure Part.Rearranged (p q : Part) : Prop where
  same : q = { p with outputConnections := q.outputConnections }
  distinct : (p.outputConnections.map Connection.output).Nodup
  connections : p.outputConnections.Perm q.outputConnections

/-- The flow with its parts in another order, no two of them of one uid, and with the connections
of each part in another order. -/
structure Flow.Rearranged (f g : Flow) : Prop where
  same : g = { f with parts := g.parts }
  distinct : (f.parts.map Part.uid).Nodup
  parts : ∃ parts, f.parts.Perm parts ∧ List.Forall₂ Part.Rearranged parts g.parts

/-- The same steps and scripts, and every flow with its lists in another order. -/
structure Registry.Rearranged (r s : Registry) : Prop where
  steps : s.steps = r.steps
  scripts : s.scripts = r.scripts
  flow : ∀ uid, Option.Rel Flow.Rearranged (r.flow? uid) (s.flow? uid)

/-! ## Lookups in rearranged lists -/

/-- In any order the same element has a key that no two elements have. -/
theorem find?_eq_of_perm {α κ : Type} [DecidableEq κ] {key : α → κ} {l l' : List α}
    (perm : l.Perm l') (distinct : (l.map key).Nodup) (k : κ) :
    l.find? (fun x => key x == k) = l'.find? (fun x => key x == k) := by
  refine List.find?_eq_find?_of_perm perm ?_
  rintro x ⟨x_mem, x_key⟩ y ⟨y_mem, y_key⟩
  have same : key x = key y := (eq_of_beq x_key).trans (eq_of_beq y_key).symm
  exact List.inj_on_of_nodup_map distinct x_mem y_mem same

/-- In related lists related elements are found. -/
theorem rel_find? {α β : Type} {R : α → β → Prop} {p : α → Bool} {p' : β → Bool} {l : List α}
    {l' : List β} (h : List.Forall₂ R l l') (same : ∀ a b, R a b → p' b = p a) :
    Option.Rel R (l.find? p) (l'.find? p') := by
  induction h with
  | nil => exact .none
  | @cons a b l l' related rest ih =>
    rw [List.find?_cons, List.find?_cons, same a b related]
    cases p a with
    | true => exact .some related
    | false => exact ih

theorem Part.Rearranged.alike {p q : Part} (h : p.Rearranged q) : p.Alike q where
  same := h.same
  leads n := (find?_eq_of_perm h.connections h.distinct (wrapOutput n)).symm

/-- From rearranged lists of parts a flow starts at the same part, or has the same problem. -/
theorem agree_entryPart {f g : Flow} {parts : List Part} (name : g.name = f.name)
    (perm : f.parts.Perm parts) (alike : List.Forall₂ Part.Alike parts g.parts) :
    Agree Part.Alike f.entryPart g.entryPart := by
  have entries : (f.parts.filter Part.isEntry).Perm (parts.filter Part.isEntry) := perm.filter _
  have related : List.Forall₂ Part.Alike (parts.filter Part.isEntry)
      (g.parts.filter Part.isEntry) := by
    refine List.rel_filter ?_ alike
    intro p q alike
    have inputs : q.isEntry = p.isEntry := alike.congr Part.isEntry fun _ => rfl
    exact Bool.coe_iff_coe.2 inputs.symm
  unfold Flow.entryPart
  rw [name]
  generalize f.parts.filter Part.isEntry = l at entries ⊢
  generalize parts.filter Part.isEntry = m at entries related
  generalize g.parts.filter Part.isEntry = n at related ⊢
  have length : n.length = l.length := related.length_eq.symm.trans entries.length_eq.symm
  match l, n, length with
  | [], [], _ => exact .error _
  | [p], [q], _ =>
    obtain rfl := List.perm_singleton.1 entries.symm
    cases related with
    | cons alike rest => exact .ok alike
  | p :: p' :: l, q :: q' :: n, length =>
    show Agree _ (.error (Problem.multipleEntryParts f.name (p :: p' :: l).length))
      (.error (Problem.multipleEntryParts f.name (q :: q' :: n).length))
    rw [length]
    exact .error _

theorem Flow.Rearranged.alike {f g : Flow} (h : f.Rearranged g) : f.Alike g := by
  obtain ⟨parts, perm, rearranged⟩ := h.parts
  have alike : List.Forall₂ Part.Alike parts g.parts :=
    rearranged.imp fun _ _ => Part.Rearranged.alike
  have name : g.name = f.name := by rw [h.same]
  refine ⟨h.same, ?_, agree_entryPart name perm alike⟩
  intro uid
  unfold Flow.part?
  rw [find?_eq_of_perm perm h.distinct uid]
  refine rel_find? alike ?_
  intro p q alike
  rw [alike.uid]

theorem Registry.Rearranged.alike {r s : Registry} (h : r.Rearranged s) : r.Alike s where
  steps := h.steps
  scripts := h.scripts
  flow uid := by
    cases found : r.flow? uid with
    | none =>
      rw [rel_of_none (h.flow uid) found]
      exact .none
    | some f =>
      obtain ⟨g, found', flows⟩ := rel_of_some (h.flow uid) found
      rw [found']
      exact .some flows.alike

/-! ## Registries -/

/-- Workers that register rearranged flows one after the other have rearranged registries. -/
theorem Registry.Rearranged.withFlow {r s : Registry} (h : r.Rearranged s) {f g : Flow}
    (flows : f.Rearranged g) : (r.withFlow f).Rearranged (s.withFlow g) where
  steps := h.steps
  scripts := h.scripts
  flow uid := by
    have same : g.uid = f.uid := by rw [flows.same]
    rw [Registry.flow?_withFlow, Registry.flow?_withFlow, same]
    split
    · exact .some flows
    · exact h.flow uid

/-- A registry without flows is rearranged by itself. -/
theorem Registry.Rearranged.of_nil {r : Registry} (none : r.flows = []) : r.Rearranged r where
  steps := rfl
  scripts := rfl
  flow uid := by
    unfold Registry.flow?
    rw [none]
    exact .none

/-- **The order of lists does not matter to a run.** For flows and registries that differ only by
the order in which flows list their parts and parts their connections, where no two parts of a flow
have one uid and no two connections of a part one output, a run reports the same, ends in the same
context, has counted as many parts and has told the same. -/
theorem rearranged_run_is_the_same (site : Site) {registry registry' : Registry}
    (registries : registry.Rearranged registry') {flow flow' : Flow} (flows : flow.Rearranged flow')
    (st : Standing) :
    let run := runFlow site registry flow st
    let run' := runFlow site registry' flow' st
    run'.1 = run.1 ∧ run'.2.context = run.2.context ∧
      run'.2.ledger.executed = run.2.ledger.executed ∧
      run'.2.ledger.canceled = run.2.ledger.canceled ∧
      run'.2.ledger.noticesSince st.ledger = run.2.ledger.noticesSince st.ledger := by
  intro run run'
  have same := Ledger.Alike.refl st.ledger
  have starts : (prepareRun site flow st).Alike 0 (prepareRun site flow' st) := by
    unfold prepareRun
    rw [flows.same]
    exact ⟨rfl, .refl _⟩
  have sites : site.Alike registry site := ⟨rfl, rfl, rfl, fun _ _ _ _ _ _ _ => rfl⟩
  obtain ⟨result, ends⟩ := runFlow_lockstep sites registries.alike flows.alike starts (.inl rfl)
  exact ⟨result, ends.context, ends.ledger.executed, ends.ledger.canceled,
    same.noticesSince ends.ledger⟩

namespace Sample

/-- A part whose script leads to two other parts. -/
def branching : Part := opening.connect 2 (uid 3)

/-- The part with its connections the other way round. -/
def branchingBack : Part :=
  { branching with outputConnections := branching.outputConnections.reverse }

/-- A flow of three steps. -/
def listed : Flow := { stepping with parts := [branching, unknown, closing] }

/-- The flow with its parts the other way round. -/
def listedBack : Flow := { stepping with parts := [closing, unknown, branchingBack] }

theorem rearranged_listed : listed.Rearranged listedBack where
  same := rfl
  distinct := by decide
  parts := by
    have unchanged {p : Part} (few : (p.outputConnections.map Connection.output).Nodup) :
        p.Rearranged p := ⟨rfl, few, .refl _⟩
    have turned : branching.Rearranged branchingBack :=
      ⟨rfl, by decide, (List.reverse_perm _).symm⟩
    exact ⟨listed.parts.reverse, (List.reverse_perm _).symm,
      .cons (unchanged (by decide)) (.cons (unchanged (by decide)) (.cons turned .nil))⟩

end Sample

/-- A flow that is registered and run has the same result with its lists the other way round. -/
theorem result_of_flow_listed_back :
    Sample.listed.Rearranged Sample.listedBack ∧
      (runFlow Sample.site (Sample.scripts.withFlow Sample.listedBack) Sample.listedBack
        Sample.start).1 =
      (runFlow Sample.site (Sample.scripts.withFlow Sample.listed) Sample.listed
        Sample.start).1 := by
  have scripts : Sample.scripts.Rearranged Sample.scripts := .of_nil rfl
  obtain ⟨same, -⟩ := rearranged_run_is_the_same Sample.site
    (scripts.withFlow Sample.rearranged_listed) Sample.rearranged_listed Sample.start
  exact ⟨Sample.rearranged_listed, same⟩

end FlowGraph
