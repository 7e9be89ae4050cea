import Mathlib.Data.String.Basic
import FlowGraph.Proofs.Lookup
import FlowGraph.Task

/-!
# Variables that override fields

A variable overrides a field of a part if it is called by the uid or the name of the part, a
point and the field. A part takes the overrides in the order of the variables' names, so of two
that compete for a field the one of the greater name stays. As a uid holds no point, both name the
same field only if they differ before it, so it is the uid and the name of the part that decide,
and they decide alike for all fields. Where nothing competes, a field comes from the variable
called by the uid, or else by the name, or else from the part itself.
-/

namespace FlowGraph

namespace Text

theorem afterPrefix?_eq_some {start s rest : String} :
    afterPrefix? start s = some rest ↔ s = start ++ rest := by
  rw [afterPrefix?, Option.map_eq_some_iff, ← String.toList_inj, String.toList_append]
  constructor
  · rintro ⟨cs, found, rfl⟩
    rw [String.toList_ofList]
    exact (List.isPrefixOf?_eq_some_iff_append_eq.1 found).symm
  · intro split
    exact ⟨rest.toList, List.isPrefixOf?_eq_some_iff_append_eq.2 split.symm, String.ofList_toList⟩

theorem afterPrefix?_eq_none {start s : String} :
    afterPrefix? start s = none ↔ ¬start.toList <+: s.toList := by
  rw [afterPrefix?, Option.map_eq_none_iff, ← Option.not_isSome_iff_eq_none,
    List.isSome_isPrefixOf?_eq_isPrefixOf, List.isPrefixOf_iff_prefix]

/-- What stands before a point contains a text without a point that the whole starts with. -/
theorem append_point_split {u x a y : List Char} (pointless : '.' ∉ u)
    (same : u ++ x = a ++ '.' :: y) : ∃ b, a = u ++ b ∧ x = b ++ '.' :: y := by
  obtain ⟨b, split, rest⟩ | ⟨b, split, rest⟩ := List.append_eq_append_iff.1 same
  · exact ⟨b, split, rest⟩
  · cases b with
    | nil => exact ⟨[], by simpa using split.symm, by simpa using rest.symm⟩
    | cons c b =>
      cases rest
      exact absurd (by simp [split]) pointless

/-- Of texts that differ before their ends the order is decided there. -/
theorem append_lt_append_iff {a b : List Char} (apart : ¬a <+: b) (apart' : ¬b <+: a)
    (x y : List Char) : a ++ x < b ++ y ↔ a < b := by
  induction a generalizing b with
  | nil => exact absurd List.nil_prefix apart
  | cons c a ih =>
    cases b with
    | nil => exact absurd List.nil_prefix apart'
    | cons d b =>
      rw [List.cons_prefix_cons, not_and] at apart apart'
      rw [List.cons_append, List.cons_append, List.cons_lt_cons_iff, List.cons_lt_cons_iff]
      by_cases same : c = d
      · rw [ih (apart same) (apart' same.symm)]
      · simp [same]

end Text

theorem Uuid.point_notMem (u : Uuid) : '.' ∉ u.toChars := by
  intro mem
  have digit : ∀ d : Fin 16, Text.hexDigit d ≠ '.' := by decide
  exact u.forall_mem_toChars (P := (· ≠ '.')) digit (by decide) '.' mem rfl

namespace Part

/-- What the variable is called that overrides a field, by the uid or the name of a part. -/
def overrideKey (owner field : String) : String := owner ++ "." ++ field

/-- The part has that name, and variables that are called by it override fields. -/
structure TakesName (p : Part) (name : String) : Prop where
  named : p.name = some name
  given : name ≠ ""
  free : ∀ r ∈ reservedNames, Text.eqIgnoringCase r name = false

instance (p : Part) (name : String) : Decidable (p.TakesName name) :=
  decidable_of_iff (p.name = some name ∧ name ≠ "" ∧
      ∀ r ∈ reservedNames, Text.eqIgnoringCase r name = false)
    ⟨fun ⟨named, given, free⟩ => ⟨named, given, free⟩,
      fun ⟨named, given, free⟩ => ⟨named, given, free⟩⟩

/-- The name starts like the variables that are called by the uid. -/
def ExtendsUid (p : Part) (name : String) : Prop := p.uidStart.toList <+: name.toList

instance (p : Part) (name : String) : Decidable (p.ExtendsUid name) :=
  inferInstanceAs (Decidable (_ <+: _))

theorem TakesName.unique {p : Part} {name name' : String} (takes : p.TakesName name)
    (takes' : p.TakesName name') : name = name' :=
  Option.some.inj (takes.named.symm.trans takes'.named)

theorem nameStart?_eq_some {p : Part} {start : String} :
    p.nameStart? = some start ↔ ∃ name, p.TakesName name ∧ start = name ++ "." := by
  simp only [nameStart?, nonEmpty?, Option.map_eq_some_iff, Option.filter_eq_some_iff]
  constructor
  · rintro ⟨name, ⟨⟨named, given⟩, free⟩, rfl⟩
    exact ⟨name, ⟨named, by simpa using given, by simpa using free⟩, rfl⟩
  · rintro ⟨name, takes, rfl⟩
    exact ⟨name, ⟨⟨takes.named, by simpa using takes.given⟩, by simpa using takes.free⟩, rfl⟩

theorem toList_overrideKey (owner field : String) :
    (overrideKey owner field).toList = owner.toList ++ '.' :: field.toList := by
  simp [overrideKey, String.toList_append]

theorem overrideKey_inj {owner field field' : String} :
    overrideKey owner field = overrideKey owner field' ↔ field = field' := by
  constructor
  · intro same
    rw [← String.toList_inj, toList_overrideKey, toList_overrideKey] at same
    exact String.toList_inj.1 (List.cons.inj (List.append_cancel_left same)).2
  · rintro rfl
    rfl

theorem toList_uid (p : Part) : p.uid.text.toList = p.uid.toChars := String.toList_ofList

/-- A variable that is called by the name is called by the uid as well just if the name is the
uid or goes on from it. -/
theorem uidStart_prefix_overrideKey {p : Part} {name field : String} :
    p.uidStart.toList <+: (overrideKey name field).toList ↔
      name = p.uid.text ∨ p.ExtendsUid name := by
  have start : p.uidStart.toList = p.uid.toChars ++ ['.'] := by
    rw [uidStart, String.toList_append, toList_uid]
    rfl
  rw [ExtendsUid, start, toList_overrideKey]
  constructor
  · rintro ⟨rest, same⟩
    rw [List.append_assoc] at same
    obtain ⟨b, split, rest⟩ := Text.append_point_split p.uid.point_notMem same
    cases b with
    | nil =>
      left
      rw [← String.toList_inj, split, List.append_nil, toList_uid]
    | cons c b =>
      right
      cases rest
      exact ⟨b, by rw [split, List.append_assoc]; rfl⟩
  · rintro (rfl | ⟨rest, extends_⟩)
    · rw [toList_uid]
      exact ⟨field.toList, by rw [List.append_assoc]; rfl⟩
    · rw [← extends_]
      exact ⟨rest ++ '.' :: field.toList, by simp⟩

/-- **What overrides a field**: the variables that are called by the uid or by a name that takes
overrides, the latter unless the name goes on from the uid. -/
theorem overriddenField?_eq_some {p : Part} {key field : String} :
    p.overriddenField? key = some field ↔
      field ≠ "" ∧ (key = overrideKey p.uid.text field ∨
        ∃ name, p.TakesName name ∧ ¬p.ExtendsUid name ∧ key = overrideKey name field) := by
  have after {start : String} :
      Text.afterPrefix? start key = some field ↔ key = start ++ field :=
    Text.afterPrefix?_eq_some
  have byUid : Text.afterPrefix? p.uidStart key = some field ↔
      key = overrideKey p.uid.text field := after
  rw [overriddenField?, Option.filter_eq_some_iff, Option.or_eq_some_iff, byUid,
    Text.afterPrefix?_eq_none]
  simp only [Option.bind_eq_some_iff, nameStart?_eq_some, after, bne_iff_ne, ne_eq]
  rw [and_comm]
  refine and_congr_right fun _ => ?_
  constructor
  · rintro (uid | ⟨other, _, ⟨name, takes, rfl⟩, rfl⟩)
    · exact .inl uid
    · refine .inr ⟨name, takes, ?_, rfl⟩
      exact fun extends_ => other (uidStart_prefix_overrideKey.2 (.inr extends_))
  · rintro (uid | ⟨name, takes, apart, rfl⟩)
    · exact .inl uid
    · by_cases same : name = p.uid.text
      · exact .inl (by rw [same])
      · refine .inr ⟨?_, _, ⟨name, takes, rfl⟩, rfl⟩
        rw [uidStart_prefix_overrideKey]
        exact not_or.2 ⟨same, apart⟩

/-! ## What a field is configured with -/

/-- Only what a variable overrides is put into the configuration. -/
theorem exists_override {p : Part} {es : List (String × Json)} {field : String}
    (mem : field ∈ (es.filterMap fun (key, v) =>
      (p.overriddenField? key).map fun field => (field, v)).map Prod.fst) :
    ∃ e ∈ es, p.overriddenField? e.1 = some field := by
  obtain ⟨entry, made, rfl⟩ := List.mem_map.1 mem
  obtain ⟨e, there, made⟩ := List.mem_filterMap.1 made
  obtain ⟨field, overrides, rfl⟩ := Option.map_eq_some_iff.1 made
  exact ⟨e, there, overrides⟩

/-- Of the variables that override a field the one of the greatest name gives the value. -/
theorem effectiveModel_of_greatest {p : Part} {vars : Variables} {key field : String} {value : Json}
    (there : vars.get? key = some value) (overrides : p.overriddenField? key = some field)
    (greatest : ∀ other, p.overriddenField? other = some field → (vars.get? other).isSome →
      ¬key < other) : (p.effectiveModel vars).get? field = some value := by
  obtain ⟨before, after, split⟩ := List.append_of_mem (Dict.mem_entries.2 there)
  have later : ∀ e ∈ after, key < e.1 := by
    have rising := vars.rising
    rw [Rising, split, List.pairwise_append] at rising
    exact (List.pairwise_cons.1 rising.2.1).1
  rw [effectiveModel, split, List.filterMap_append,
    List.filterMap_cons_some (b := (field, value)) (by simp [overrides])]
  apply Dict.get?_insertAll_of_last
  intro again
  obtain ⟨⟨other, v⟩, mem, overrides'⟩ := exists_override again
  have present : vars.get? other = some v := Dict.mem_entries.1 (split ▸ by simp [mem])
  exact greatest other overrides' (by rw [present]; rfl) (later _ mem)

/-- A field that no variable overrides is that of the part. -/
theorem effectiveModel_of_none {p : Part} {vars : Variables} {field : String}
    (none : ∀ key, p.overriddenField? key = some field → vars.get? key = none) :
    (p.effectiveModel vars).get? field = p.model.get? field := by
  apply Dict.get?_insertAll_of_notMem
  intro made
  obtain ⟨⟨key, v⟩, mem, overrides⟩ := exists_override made
  have present := Dict.mem_entries.1 mem
  rw [none key overrides] at present
  cases present

/-- A variable may override some field of the part. -/
def Concerns (p : Part) (key : String) : Prop :=
  p.uidStart.toList <+: key.toList ∨
    ∃ name, p.TakesName name ∧ (name ++ ".").toList <+: key.toList

theorem concerns_of_overrides {p : Part} {key field : String}
    (overrides : p.overriddenField? key = some field) : p.Concerns key := by
  have start {owner : String} : (owner ++ ".").toList <+: (overrideKey owner field).toList := by
    rw [overrideKey, String.toList_append (s := owner ++ ".")]
    exact List.prefix_append _ _
  obtain ⟨-, rfl | ⟨name, takes, -, rfl⟩⟩ := overriddenField?_eq_some.1 overrides
  · exact .inl start
  · exact .inr ⟨name, takes, start⟩

/-- Variables that do not concern a part change nothing in its configuration. -/
theorem effectiveModel_congr {p : Part} {vars vars' : Variables}
    (same : ∀ key, p.Concerns key → vars.get? key = vars'.get? key) :
    p.effectiveModel vars = p.effectiveModel vars' := by
  let overriding (key : String) : Bool := (p.overriddenField? key).isSome
  have kept (vars : Variables) :
      p.effectiveModel (vars.filter fun key _ => overriding key) = p.effectiveModel vars := by
    show p.model.insertAll ((vars.entries.filter fun e => overriding e.1).filterMap _) = _
    rw [List.filterMap_filter]
    unfold effectiveModel
    congr 2
    funext e
    cases overrides : p.overriddenField? e.1 <;> simp [overriding, overrides]
  have filtered : (vars.filter fun key _ => overriding key) =
      vars'.filter fun key _ => overriding key := by
    apply Dict.eq_of_get?
    intro key
    rw [Dict.get?_filter_key, Dict.get?_filter_key]
    cases overrides : p.overriddenField? key with
    | none => simp [overriding, overrides]
    | some field => rw [same key (concerns_of_overrides overrides)]
  rw [← kept vars, filtered, kept vars']

/-- Variables called by the name are greater than those called by the uid if the name is, whatever
the field. -/
theorem overrideKey_lt_iff {p : Part} {name : String} (apart : ¬p.ExtendsUid name)
    (field : String) :
    overrideKey p.uid.text field < overrideKey name field ↔ p.uidStart < name ++ "." := by
  by_cases same : name = p.uid.text
  · subst same
    exact iff_of_false (String.lt_irrefl _) (String.lt_irrefl _)
  have point (owner : String) : (owner ++ ".").toList = owner.toList ++ ['.'] :=
    String.toList_append
  have forward : ¬p.uidStart.toList <+: (name ++ ".").toList := by
    intro start
    have whole : name ++ "." = overrideKey name "" := by rw [overrideKey, String.append_empty]
    rw [whole, uidStart_prefix_overrideKey] at start
    exact start.elim same apart
  have backward : ¬(name ++ ".").toList <+: p.uidStart.toList := by
    rintro ⟨rest, split⟩
    rw [uidStart, point, point, toList_uid, List.append_assoc] at split
    obtain ⟨b, before, after⟩ := Text.append_point_split p.uid.point_notMem split.symm
    cases b with
    | nil =>
      apply same
      rw [← String.toList_inj, before, List.append_nil, toList_uid]
    | cons c b => simp at after
  rw [String.lt_iff_toList_lt, String.lt_iff_toList_lt, overrideKey, overrideKey,
    String.toList_append (s := p.uid.text ++ "."), String.toList_append (s := name ++ ".")]
  exact Text.append_lt_append_iff forward backward _ _

/-- The variables called by the name come after those called by the uid, and override the same
fields. -/
def NameComesLater (p : Part) (name : String) : Prop :=
  p.uidStart < name ++ "." ∧ ¬p.ExtendsUid name

instance (p : Part) (name : String) : Decidable (p.NameComesLater name) :=
  inferInstanceAs (Decidable (_ ∧ _))

/-- What the variables called by the name of the part give a field, if the name takes overrides. -/
def byName? (p : Part) (vars : Variables) (field : String) : Option Json :=
  p.name.bind fun name => if p.TakesName name then vars.get? (overrideKey name field) else none

theorem byName?_eq_some {p : Part} {vars : Variables} {field : String} {value : Json} :
    p.byName? vars field = some value ↔
      ∃ name, p.TakesName name ∧ vars.get? (overrideKey name field) = some value := by
  rw [byName?, Option.bind_eq_some_iff]
  constructor
  · rintro ⟨name, -, found⟩
    split at found
    · exact ⟨name, ‹_›, found⟩
    · cases found
  · rintro ⟨name, takes, found⟩
    exact ⟨name, takes.named, by rw [if_pos takes, found]⟩

theorem byName?_eq_none {p : Part} {vars : Variables} {field : String} :
    p.byName? vars field = none ↔
      ∀ name, p.TakesName name → vars.get? (overrideKey name field) = none := by
  simp only [Option.eq_none_iff_forall_ne_some, ne_eq, byName?_eq_some, not_exists, not_and]
  exact forall_comm.trans (forall_congr' fun name => forall_comm)

/-- What a field is configured with when no two variables compete for it: what the variable called
by the uid gives, or else the one called by the name, or else the part itself. -/
def configured (p : Part) (vars : Variables) (field : String) : Option Json :=
  if field = "" then p.model.get? field
  else
    ((vars.get? (overrideKey p.uid.text field)).or (p.byName? vars field)).or (p.model.get? field)

/-- The variable called by the uid gives the value if none called by the name is greater. -/
theorem effectiveModel_by_uid {p : Part} {vars : Variables} {field : String} {value : Json}
    (nonempty : field ≠ "") (uid : vars.get? (overrideKey p.uid.text field) = some value)
    (least : ∀ name, p.TakesName name → ¬p.ExtendsUid name →
      (vars.get? (overrideKey name field)).isSome →
      ¬overrideKey p.uid.text field < overrideKey name field) :
    (p.effectiveModel vars).get? field = some value := by
  refine effectiveModel_of_greatest uid (overriddenField?_eq_some.2 ⟨nonempty, .inl rfl⟩) ?_
  intro other competes present
  obtain ⟨-, rfl | ⟨name, takes, apart, rfl⟩⟩ := overriddenField?_eq_some.1 competes
  · exact String.lt_irrefl _
  · exact least name takes apart present

/-- The variable called by the name gives the value if there is none called by the uid that is
greater. -/
theorem effectiveModel_by_name {p : Part} {vars : Variables} {name field : String} {value : Json}
    (nonempty : field ≠ "") (takes : p.TakesName name) (apart : ¬p.ExtendsUid name)
    (named : vars.get? (overrideKey name field) = some value)
    (least : (vars.get? (overrideKey p.uid.text field)).isSome →
      ¬overrideKey name field < overrideKey p.uid.text field) :
    (p.effectiveModel vars).get? field = some value := by
  refine effectiveModel_of_greatest named
    (overriddenField?_eq_some.2 ⟨nonempty, .inr ⟨name, takes, apart, rfl⟩⟩) ?_
  intro other competes present
  obtain ⟨-, rfl | ⟨name', takes', -, rfl⟩⟩ := overriddenField?_eq_some.1 competes
  · exact least present
  · rw [takes'.unique takes]
    exact String.lt_irrefl _

/-- Where no variable is called by the uid or the name, a field is that of the part. -/
theorem effectiveModel_of_absent {p : Part} {vars : Variables} {field : String}
    (uid : vars.get? (overrideKey p.uid.text field) = none)
    (named : ∀ name, p.TakesName name → vars.get? (overrideKey name field) = none) :
    (p.effectiveModel vars).get? field = p.model.get? field := by
  refine effectiveModel_of_none fun key overrides => ?_
  obtain ⟨-, rfl | ⟨name, takes, -, rfl⟩⟩ := overriddenField?_eq_some.1 overrides
  · exact uid
  · exact named name takes

end Part

/-- **Of two variables that compete for a field the one of the greater name wins.** If a field of a
part is overridden both by the uid and by the name, then the value comes from the variable called
by the name just if the name comes after the uid in the order of variables' names, and from the
one called by the uid otherwise. That order does not look at the field, so for one part either its
uid wins for every field or its name does. -/
theorem greater_name_wins (p : Part) (vars : Variables) {name field : String} {byUid byName : Json}
    (takes : p.TakesName name) (nonempty : field ≠ "")
    (uid : vars.get? (Part.overrideKey p.uid.text field) = some byUid)
    (named : vars.get? (Part.overrideKey name field) = some byName) :
    (p.effectiveModel vars).get? field =
      some (if p.NameComesLater name then byName else byUid) := by
  by_cases later : p.NameComesLater name
  · have greater := (Part.overrideKey_lt_iff later.2 field).2 later.1
    rw [if_pos later]
    exact Part.effectiveModel_by_name nonempty takes later.2 named fun _ => String.lt_asymm greater
  · rw [if_neg later]
    refine Part.effectiveModel_by_uid nonempty uid fun name' takes' apart _ => ?_
    cases takes'.unique takes
    rw [Part.overrideKey_lt_iff apart]
    exact fun less => later ⟨less, apart⟩

namespace Sample

/-- A part that writes a message, called "Log". -/
def announcing (uid : Uuid) : Part := (Part.new "Basic.Log" uid).named "Log"

/-- The greatest uid. -/
def greatestUid : Uuid := ⟨List.replicate 32 ⟨15, by decide⟩, List.length_replicate⟩

/-- Two variables that compete for the message of the part. -/
def competing (uid : Uuid) : Variables :=
  .ofList [(Part.overrideKey uid.text "Message", .str "by uid"),
    (Part.overrideKey "Log" "Message", .str "by name")]

theorem takesName_announcing (uid : Uuid) : (announcing uid).TakesName "Log" :=
  ⟨rfl, by decide, by decide⟩

end Sample

/-- The name comes after the uid of all zeros, and before the greatest one. -/
theorem message_of_competing_variables :
    ((Sample.announcing default).effectiveModel (Sample.competing default)).get? "Message" =
        some (.str "by name") ∧
      ((Sample.announcing Sample.greatestUid).effectiveModel
        (Sample.competing Sample.greatestUid)).get? "Message" = some (.str "by uid") :=
  ⟨greater_name_wins (Sample.announcing default) (Sample.competing default)
      (Sample.takesName_announcing default) (by decide) rfl rfl,
    greater_name_wins (Sample.announcing Sample.greatestUid) (Sample.competing Sample.greatestUid)
      (Sample.takesName_announcing Sample.greatestUid) (by decide) rfl rfl⟩

/-- The variable called by the uid of all zeros is there and does not win. -/
theorem uid_of_zeros_does_not_win :
    (Sample.announcing default).TakesName "Log" ∧
      (Sample.competing default).get? (Part.overrideKey (Sample.announcing default).uid.text
        "Message") = some (.str "by uid") ∧
      (Sample.competing default).get? (Part.overrideKey "Log" "Message") =
        some (.str "by name") ∧
      ((Sample.announcing default).effectiveModel (Sample.competing default)).get? "Message" ≠
        some (.str "by uid") := by
  have wins : ((Sample.announcing default).effectiveModel (Sample.competing default)).get?
      "Message" = some (.str "by name") := rfl
  exact ⟨Sample.takesName_announcing default, rfl, rfl, by simp [wins]⟩

/-- **A part is configured field by field.** If the name of a part does not go on from its uid and
no two variables compete for a field, then every field is that of the variable called by the uid
and the field, or else of the one called by the name, unless the name is reserved, or else that of
the part itself; the empty field is always the part's. Whatever competes, only the variables that
start like these matter. -/
theorem part_is_configured_by_field (p : Part) (vars : Variables)
    (apart : ∀ name, p.name = some name → ¬p.ExtendsUid name)
    (single : ∀ name field, p.TakesName name → field ≠ "" →
      vars.contains (Part.overrideKey p.uid.text field) = true →
      vars.contains (Part.overrideKey name field) = false) :
    (∀ field, (p.effectiveModel vars).get? field = p.configured vars field) ∧
      ∀ vars' : Variables, (∀ key, p.Concerns key → vars'.get? key = vars.get? key) →
        p.effectiveModel vars' = p.effectiveModel vars := by
  refine ⟨fun field => ?_, fun vars' same => Part.effectiveModel_congr same⟩
  unfold Part.configured
  by_cases empty : field = ""
  · rw [if_pos empty]
    exact Part.effectiveModel_of_none fun key overrides =>
      absurd empty (Part.overriddenField?_eq_some.1 overrides).1
  rw [if_neg empty]
  cases uid : vars.get? (Part.overrideKey p.uid.text field) with
  | some value =>
    refine Part.effectiveModel_by_uid empty uid fun name takes _ present => ?_
    have absent := single name field takes empty (by rw [Dict.contains, uid]; rfl)
    rw [Dict.contains, present] at absent
    cases absent
  | none =>
    rw [Option.none_or]
    cases named : p.byName? vars field with
    | some value =>
      obtain ⟨name, takes, found⟩ := Part.byName?_eq_some.1 named
      refine Part.effectiveModel_by_name empty takes (apart name takes.named) found ?_
      intro present
      rw [uid] at present
      cases present
    | none => exact Part.effectiveModel_of_absent uid (Part.byName?_eq_none.1 named)

namespace Sample

/-- A part with settings of its own that takes overrides by its name. -/
def configuring : Part :=
  ((announcing default).withModel "Message" (.str "own")).withModel "Level" (.str "own")

/-- A variable for each of two fields of the part, and one that does not concern it. -/
def settings : Variables :=
  .ofList [(Part.overrideKey (default : Uuid).text "Message", .str "by uid"),
    (Part.overrideKey "Log" "Target", .str "by name"),
    (Part.overrideKey "Other" "Level", .str "by another name")]

/-- Only the message is overridden by the uid. -/
theorem field_of_contains {field : String}
    (overridden : settings.contains (Part.overrideKey configuring.uid.text field) = true) :
    field = "Message" := by
  have start : configuring.uidStart.toList <+:
      (Part.overrideKey configuring.uid.text field).toList :=
    Part.uidStart_prefix_overrideKey.2 (.inl rfl)
  have mem := Dict.mem_keys.2 overridden
  have keys : settings.keys = [Part.overrideKey configuring.uid.text "Message",
      Part.overrideKey "Log" "Target", Part.overrideKey "Other" "Level"] := rfl
  simp only [keys, List.mem_cons, List.not_mem_nil, or_false] at mem
  obtain same | same | same := mem
  · exact Part.overrideKey_inj.1 same
  · rw [same, Part.uidStart_prefix_overrideKey] at start
    exact absurd start (by decide)
  · rw [same, Part.uidStart_prefix_overrideKey] at start
    exact absurd start (by decide)

end Sample

/-- Each of three fields comes from elsewhere, and another part's variable changes nothing. -/
theorem each_field_comes_from_its_variable :
    (Sample.configuring.effectiveModel Sample.settings).get? "Message" = some (.str "by uid") ∧
      (Sample.configuring.effectiveModel Sample.settings).get? "Target" = some (.str "by name") ∧
      (Sample.configuring.effectiveModel Sample.settings).get? "Level" = some (.str "own") ∧
      Sample.configuring.effectiveModel (Sample.settings.erase "Other.Level") =
        Sample.configuring.effectiveModel Sample.settings := by
  have apart : ∀ name, Sample.configuring.name = some name →
      ¬Sample.configuring.ExtendsUid name := by
    rintro name ⟨⟩
    decide
  have single : ∀ name field, Sample.configuring.TakesName name → field ≠ "" →
      Sample.settings.contains (Part.overrideKey Sample.configuring.uid.text field) = true →
      Sample.settings.contains (Part.overrideKey name field) = false := by
    rintro name field ⟨⟨⟩, -, -⟩ - overridden
    rw [Sample.field_of_contains overridden]
    rfl
  obtain ⟨fields, others⟩ :=
    part_is_configured_by_field Sample.configuring Sample.settings apart single
  refine ⟨fields "Message", fields "Target", fields "Level", others _ ?_⟩
  intro key concerns
  have concerned : key ≠ "Other.Level" := by
    rintro rfl
    obtain start | ⟨name, ⟨⟨⟩, -, -⟩, start⟩ := concerns
    · exact absurd start (by decide)
    · exact absurd start (by decide)
  rw [Dict.get?_erase, if_neg concerned]

end FlowGraph
