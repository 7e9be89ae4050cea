import Mathlib.Data.List.Infix
import FlowGraph.Proofs.FileFacts
import FlowGraph.Proofs.Overrides

/-!
# Published variables and the configuration of parts

The facts of files and of commands are variables like all others, so they could override fields of
a part whose name they start with. The names `file`, `folder` and `ExecuteCommand` are reserved for
that reason. Every cut of the name of a published variable at a point leaves one of them before it,
but for the facts of the original file, which may be cut at two points: a part that is called
`file.Orig` is configured by them, and no other part is configured by what is published.
-/

namespace FlowGraph

/-- The names of the variables that tell about a command. -/
def Step.commandKeys : List String := ["ExecuteCommand.ExitCode", "ExecuteCommand.Output"]

/-- A variable of that name is published for a file that a scope is made for, for a working file or
for a command that has ended. -/
def IsPublishedKey (key : String) : Prop :=
  (∃ file, key ∈ (Scope.originalFileFacts file).map Prod.fst) ∨
    (∃ file, key ∈ (Scope.workingFileFacts file).map Prod.fst) ∨
    ∃ ended, key ∈ (Step.commandFacts ended).map Prod.fst

theorem IsPublishedKey.mem {key : String} (published : IsPublishedKey key) :
    key ∈ Scope.fileKeys ++ Step.commandKeys := by
  obtain ⟨file, mem⟩ | ⟨file, mem⟩ | ⟨ended, mem⟩ := published
  · exact List.mem_append_left _ (List.mem_append_left _ mem)
  · exact List.mem_append_left _ (List.mem_append_right _ mem)
  · exact List.mem_append_right _ mem

/-- All variables are published ones. -/
def Variables.ArePublished (vars : Variables) : Prop :=
  ∀ key, vars.contains key = true → IsPublishedKey key

namespace Variables.ArePublished

theorem empty : ArePublished .empty := by
  intro key there
  cases there

/-- Published variables may be put over published ones. -/
theorem insertAll {vars : Variables} {es : List (String × Json)} (published : vars.ArePublished)
    (each : ∀ e ∈ es, IsPublishedKey e.1) : ArePublished (vars.insertAll es) := by
  intro key there
  obtain ⟨value, found⟩ := Option.isSome_iff_exists.1 there
  obtain old | new := Dict.mem_insertAll (Dict.mem_entries.2 found)
  · exact published key (Option.isSome_iff_exists.2 ⟨value, Dict.mem_entries.1 old⟩)
  · exact each _ new

theorem forFile {vars : Variables} (published : vars.ArePublished) (file : Path) :
    (Scope.forFile file vars).vars.ArePublished :=
  (published.insertAll fun _ mem => .inl ⟨file, List.mem_map_of_mem mem⟩).insertAll
    fun _ mem => .inr (.inl ⟨file, List.mem_map_of_mem mem⟩)

theorem setWorkingFile {s : Scope} (published : s.vars.ArePublished) (file : Path) :
    (s.setWorkingFile file).vars.ArePublished :=
  published.insertAll fun _ mem => .inr (.inl ⟨file, List.mem_map_of_mem mem⟩)

theorem commandFacts {vars : Variables} (published : vars.ArePublished) (ended : Command.Ended) :
    ArePublished (vars.insertAll (Step.commandFacts ended)) :=
  published.insertAll fun _ mem => .inr (.inr ⟨ended, List.mem_map_of_mem mem⟩)

end Variables.ArePublished

namespace Part

/-- Before a point of a published name stands a reserved name or `file.Orig`. -/
theorem cuts_of_published : ∀ key ∈ Scope.fileKeys ++ Step.commandKeys,
    ∀ owner ∈ key.toList.inits, owner ++ ['.'] <+: key.toList →
      String.ofList owner ∈ "file.Orig" :: reservedNames := by
  decide +kernel

theorem owner_of_published {owner field : String}
    (published : IsPublishedKey (overrideKey owner field)) :
    owner ∈ "file.Orig" :: reservedNames := by
  have split := toList_overrideKey owner field
  have start : owner.toList ∈ (overrideKey owner field).toList.inits :=
    (List.mem_inits _ _).2 ⟨_, split.symm⟩
  have point : owner.toList ++ ['.'] <+: (overrideKey owner field).toList :=
    ⟨field.toList, by rw [split, List.append_assoc]; rfl⟩
  have cut := cuts_of_published _ published.mem _ start point
  rwa [String.ofList_toList] at cut

theorem length_uid (p : Part) : p.uid.text.toList.length = 36 := by
  simp [toList_uid, Uuid.toChars, p.uid.length_digits]

theorem ExtendsUid.le_length {p : Part} {name : String} (extends_ : p.ExtendsUid name) :
    37 ≤ name.toList.length := by
  have start := List.IsPrefix.length_le extends_
  rw [uidStart, String.toList_append, List.length_append, p.length_uid] at start
  exact start

/-- Nothing is published under the name of a variable that is called by a uid. -/
theorem uid_unpublished (p : Part) (field : String) :
    ¬IsPublishedKey (overrideKey p.uid.text field) := by
  intro published
  have short : ∀ name ∈ "file.Orig" :: reservedNames, name.toList.length ≠ 36 := by decide
  exact short _ (owner_of_published published) p.length_uid

/-- A name that takes overrides is not reserved. -/
theorem TakesName.notMem {p : Part} {name : String} (takes : p.TakesName name) :
    name ∉ reservedNames := by
  intro reserved
  have same : Text.eqIgnoringCase name name = true := beq_self_eq_true _
  rw [takes.free name reserved] at same
  cases same

end Part

section
variable {vars : Variables}

theorem Variables.ArePublished.get?_uid (published : vars.ArePublished) (p : Part)
    (field : String) : vars.get? (Part.overrideKey p.uid.text field) = none := by
  refine Option.not_isSome_iff_eq_none.1 fun there => ?_
  exact p.uid_unpublished field (published _ there)

theorem Variables.ArePublished.get?_name (published : vars.ArePublished) {p : Part} {name : String}
    (takes : p.TakesName name) (other : name ≠ "file.Orig") (field : String) :
    vars.get? (Part.overrideKey name field) = none := by
  refine Option.not_isSome_iff_eq_none.1 fun there => ?_
  obtain same | reserved := List.mem_cons.1 (Part.owner_of_published (published _ there))
  · exact other same
  · exact takes.notMem reserved

end

/-- **Of all parts, published variables configure only those called `file.Orig`.** If a run has no
variables but those that are published for files and commands, then the configuration of a part is
its own, unless the part is called `file.Orig`. The fields of such a part are what is published
about the original file, and its own where nothing is. -/
theorem published_variables_configure_file_orig (p : Part) (vars : Variables)
    (published : vars.ArePublished) :
    (p.name ≠ some "file.Orig" → p.effectiveModel vars = p.model) ∧
      (p.name = some "file.Orig" → ∀ field, (p.effectiveModel vars).get? field =
        (vars.get? (Part.overrideKey "file.Orig" field)).or (p.model.get? field)) := by
  constructor
  · intro other
    refine Dict.eq_of_get? fun field => ?_
    refine Part.effectiveModel_of_absent (published.get?_uid p field) fun name takes => ?_
    refine published.get?_name takes ?_ field
    rintro rfl
    exact other takes.named
  · intro named field
    have takes : p.TakesName "file.Orig" := ⟨named, by decide, by decide⟩
    cases found : vars.get? (Part.overrideKey "file.Orig" field) with
    | none =>
      rw [Option.none_or]
      refine Part.effectiveModel_of_absent (published.get?_uid p field) fun name takes' => ?_
      rw [takes'.unique takes, found]
    | some value =>
      rw [Option.some_or]
      have nonempty : field ≠ "" := by
        rintro rfl
        have key := (published _ (Option.isSome_iff_exists.2 ⟨value, found⟩)).mem
        revert key
        decide
      have apart : ¬p.ExtendsUid "file.Orig" :=
        fun extends_ => absurd extends_.le_length (by decide)
      refine Part.effectiveModel_by_name nonempty takes apart found fun present => ?_
      rw [published.get?_uid] at present
      cases present

namespace Sample

/-- A part that writes a message, under a name. -/
def messaging (name : String) : Part :=
  ((Part.new "Basic.Log" default).withModel "Message" (.str "own")).named name

/-- The variables of a run that has gone on with another file and has run a command. -/
def movedOn : Variables :=
  ((Scope.forFile ⟨"in/a.txt"⟩ .empty).setWorkingFile ⟨"out/b.mkv"⟩).vars.insertAll
    (Step.commandFacts ⟨some 0, ⟨#[]⟩⟩)

theorem arePublished_movedOn : movedOn.ArePublished :=
  ((Variables.ArePublished.empty.forFile ⟨"in/a.txt"⟩).setWorkingFile ⟨"out/b.mkv"⟩).commandFacts _

end Sample

/-- A part called "file" keeps its configuration, and one called "file.Orig" gets fields that it
does not have. -/
theorem facts_configure_file_orig :
    (Sample.messaging "file").effectiveModel Sample.movedOn = (Sample.messaging "file").model ∧
      ((Sample.messaging "file.Orig").effectiveModel Sample.movedOn).get? "Name" =
        some (.str "a.txt") ∧
      ((Sample.messaging "file.Orig").effectiveModel Sample.movedOn).get? "Message" =
        some (.str "own") := by
  obtain ⟨other, -⟩ := published_variables_configure_file_orig (Sample.messaging "file")
    Sample.movedOn Sample.arePublished_movedOn
  obtain ⟨-, fields⟩ := published_variables_configure_file_orig (Sample.messaging "file.Orig")
    Sample.movedOn Sample.arePublished_movedOn
  exact ⟨other (by decide), fields rfl "Name", fields rfl "Message"⟩

/-- The variables that a run begins with change the configuration of a part called "file.Orig". -/
theorem original_file_reconfigures_a_part :
    Variables.ArePublished (Scope.forFile ⟨"in/a.txt"⟩ .empty).vars ∧
      (Sample.messaging "file.Orig").effectiveModel (Scope.forFile ⟨"in/a.txt"⟩ .empty).vars ≠
        (Sample.messaging "file.Orig").model := by
  refine ⟨Variables.ArePublished.empty.forFile ⟨"in/a.txt"⟩, fun same => ?_⟩
  have name : ((Sample.messaging "file.Orig").effectiveModel
      (Scope.forFile ⟨"in/a.txt"⟩ .empty).vars).get? "Name" = some (.str "a.txt") := rfl
  have none : (Sample.messaging "file.Orig").model.get? "Name" = none := rfl
  rw [same, none] at name
  cases name

end FlowGraph
