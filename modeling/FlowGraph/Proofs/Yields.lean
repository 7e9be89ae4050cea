import FlowGraph.Proofs.Decoding

/-!
# What decoders yield

A decoder that accepts a text has looked at all of it, so what it yields is within the ranges of
its types, its objects have their keys in rising order, and it is nested no deeper than the text
was. `Decoder.Gives` states such a property, which may speak of the room for brackets; for a record
it follows from one property for each field, whether the record is written as an object or as a
list (`Fields.Gives.record`).
-/

namespace FlowGraph.Json

/-- Whatever a computation comes to has the property, unless it fails. -/
def Yields {α : Type} (x : Except DecodeError α) (P : α → Prop) : Prop := ∀ a, x = .ok a → P a

/-- Whatever the decoder makes of a draft in a text has the property. -/
def Decoder.Gives {α : Type} (decoder : Decoder α) (P : Nat → α → Prop) : Prop :=
  ∀ room d, Yields (decoder (.text room) d) (P room)

namespace Yields

variable {α β : Type} {x : Except DecodeError α} {P Q : α → Prop}

theorem ok {a : α} (h : P a) : Yields (.ok a) P := by
  rintro _ ⟨⟩
  exact h

theorem error (e : DecodeError) : Yields (.error e) P := nofun

theorem imp (h : Yields x P) (imp : ∀ a, P a → Q a) : Yields x Q := fun a same =>
  imp a (h a same)

theorem bind {f : α → Except DecodeError β} {R : β → Prop} (h : Yields x P)
    (next : ∀ a, P a → Yields (f a) R) : Yields (x >>= f) R := by
  intro b same
  cases x with
  | error e => cases same
  | ok a => exact next a (h a rfl) b same

theorem map {f : α → β} {R : β → Prop} (h : Yields x P) (next : ∀ a, P a → R (f a)) :
    Yields (f <$> x) R := by
  intro b same
  cases x with
  | error e => cases same
  | ok a =>
    cases same
    exact next a (h a rfl)

/-- A fault that is checked for yields nothing. -/
theorem noFault (stop : Option Fault) {f : Unit → Except DecodeError α} (next : Yields (f ()) P) :
    Yields (Json.noFault stop >>= f) P := by
  cases stop with
  | none => exact next
  | some fault => exact error _

/-- Inside a bracket there is room for one bracket less. -/
theorem enter {room : Nat} {f : Origin → Except DecodeError α}
    (next : Yields (f (.text (room - 1))) P) : Yields ((Origin.text room).enter >>= f) P := by
  cases room with
  | zero => exact error _
  | succ room => exact next

theorem mismatched (expected : String) (d : Draft) : Yields (Json.mismatched expected d) P := by
  cases d with
  | null | bool | int | float | str | arr | obj | unreadable => exact error _

end Yields

section
variable {α : Type} {P : Nat → α → Prop}

/-! ## Single values -/

theorem Decoder.gives_true (decoder : Decoder α) : decoder.Gives fun _ _ => True :=
  fun _ _ _ _ => trivial

theorem gives_intWithin (low high : Int) (expected : String) :
    (intWithin low high expected).Gives fun _ n => low ≤ n ∧ n ≤ high := by
  intro room d
  unfold intWithin
  split
  · split
    · exact .ok ‹_›
    · exact .error _
  · exact .mismatched expected _

/-- A number without a sign that is decoded keeps within its bound. -/
theorem gives_naturalWithin {high size : Nat} (last : high < size) (expected : String) :
    Decoder.Gives (fun o d => Int.toNat <$> intWithin 0 high expected o d) fun _ n => n < size := by
  intro room d
  refine (gives_intWithin 0 high expected room d).map ?_
  intro n within
  omega

theorem gives_natural32 : natural32.Gives fun _ n => n < UInt32.size :=
  gives_naturalWithin (by decide) "u32"

theorem gives_count : count.Gives fun _ n => n < UInt64.size :=
  gives_naturalWithin (by decide) "usize"

theorem Decoder.Gives.optional {decoder : Decoder α} (h : decoder.Gives P) :
    (optional decoder).Gives fun room a? => ∀ a ∈ a?, P room a := by
  intro room d
  unfold Json.optional
  split
  · exact .ok nofun
  · refine (h room _).map ?_
    rintro a has _ ⟨⟩
    exact has

/-! ## Lists and dicts -/

theorem yields_eachItem {decode : Draft → Except DecodeError α} {Q : α → Prop}
    (h : ∀ d, Yields (decode d) Q) (ds : List Draft) :
    Yields (eachItem decode ds) fun as => ∀ a ∈ as, Q a := by
  induction ds with
  | nil => exact .ok nofun
  | cons d ds ih =>
    refine (h d).bind ?_
    intro a has
    refine ih.bind ?_
    intro as others
    exact .ok (List.forall_mem_cons.2 ⟨has, others⟩)

theorem Decoder.Gives.list {decoder : Decoder α} (h : decoder.Gives P) :
    (list decoder).Gives fun room as => ∀ a ∈ as, P (room - 1) a := by
  intro room d
  unfold Json.list
  split
  · refine .enter ?_
    refine (yields_eachItem (h (room - 1)) _).bind ?_
    intro as each
    exact .noFault _ (.ok each)
  · exact .mismatched "a sequence" _

theorem yields_eachField {decode : Draft → Except DecodeError α} {Q : α → Prop}
    (h : ∀ d, Yields (decode d) Q) (ds : List (Option String × Draft)) :
    Yields (eachField decode ds) fun es => ∀ e ∈ es, Q e.2 := by
  induction ds with
  | nil => exact .ok nofun
  | cons d ds ih =>
    obtain ⟨key?, d⟩ := d
    cases key? with
    | none => exact .error _
    | some key =>
      refine (h d).bind ?_
      intro a has
      refine ih.bind ?_
      intro es others
      exact .ok (List.forall_mem_cons.2 ⟨has, others⟩)

/-- What holds of all entries holds of those that stay in a dict. -/
theorem forall_mem_ofList {Q : α → Prop} {es : List (String × α)} (h : ∀ e ∈ es, Q e.2) :
    ∀ e ∈ (Dict.ofList es).entries, Q e.2 := by
  intro e mem
  obtain old | put := Dict.mem_insertAll mem
  · cases old
  · exact h e put

theorem Decoder.Gives.dict {decoder : Decoder α} (h : decoder.Gives P) :
    (dict decoder).Gives fun room d => ∀ e ∈ d.entries, P (room - 1) e.2 := by
  intro room d
  unfold Json.dict
  split
  · refine .enter ?_
    refine (yields_eachField (h (room - 1)) _).bind ?_
    intro es each
    exact .noFault _ (.ok (forall_mem_ofList each))
  · exact .mismatched "a map" _

end

/-! ## Any values -/

theorem canonicalItems_iff {items : List Json} :
    CanonicalItems items ↔ ∀ v ∈ items, v.Canonical := by
  induction items with
  | nil => simp [CanonicalItems]
  | cons item rest ih => simp [CanonicalItems, ih]

theorem canonicalFields_iff {fields : List (String × Json)} :
    CanonicalFields fields ↔ ∀ e ∈ fields, e.2.Canonical := by
  induction fields with
  | nil => simp [CanonicalFields]
  | cons field rest ih =>
    obtain ⟨key, value⟩ := field
    simp [CanonicalFields, ih]

/-- The value has its keys in rising order, and is nested no deeper than there is room. -/
structure FitsIn (room : Nat) (v : Json) : Prop where
  canonical : v.Canonical
  depth : v.depth ≤ room

theorem FitsIn.arr {room : Nat} {items : List Json} (h : ∀ v ∈ items, FitsIn room v) :
    FitsIn (room + 1) (.arr items) where
  canonical := canonicalItems_iff.2 fun v mem => (h v mem).canonical
  depth := Nat.succ_le_succ (depthOfItems_le.2 fun v mem => (h v mem).depth)

theorem FitsIn.ofDict {room : Nat} {d : Dict Json} (h : ∀ e ∈ d.entries, FitsIn room e.2) :
    FitsIn (room + 1) (.ofDict d) where
  canonical := ⟨d.rising, canonicalFields_iff.2 fun e mem => (h e mem).canonical⟩
  depth := Nat.succ_le_succ (depthOfFields_le.2 fun e mem => (h e mem).depth)

mutual

/-- **Any value that is decoded fits** in the room that there was. -/
theorem gives_anyValue : ∀ (room : Nat) (d : Draft),
    Yields (anyValue (.text room) d) (FitsIn room)
  | room, .null | room, .bool _ | room, .int _ | room, .float _ | room, .str _ => by
    rw [anyValue]
    exact .ok ⟨trivial, Nat.zero_le _⟩
  | room, .unreadable _ _ => by
    rw [anyValue]
    exact .error _
  | 0, .arr _ _ | 0, .obj _ _ => by
    rw [anyValue]
    exact .error _
  | room + 1, .arr items stop => by
    rw [anyValue]
    refine .enter ((yields_anyItems room items).bind ?_)
    intro vs each
    exact .noFault _ (.ok (.arr each))
  | room + 1, .obj fields stop => by
    rw [anyValue]
    refine .enter ((yields_anyFields room fields).bind ?_)
    intro vs each
    exact .noFault _ (.ok (.ofDict (forall_mem_ofList each)))

theorem yields_anyItems : ∀ (room : Nat) (ds : List Draft),
    Yields (anyItems (.text room) ds) fun vs => ∀ v ∈ vs, FitsIn room v
  | room, [] => by
    rw [anyItems]
    exact .ok nofun
  | room, d :: ds => by
    rw [anyItems]
    refine (gives_anyValue room d).bind ?_
    intro v fits
    refine (yields_anyItems room ds).bind ?_
    intro vs others
    exact .ok (List.forall_mem_cons.2 ⟨fits, others⟩)

theorem yields_anyFields : ∀ (room : Nat) (ds : List (Option String × Draft)),
    Yields (anyFields (.text room) ds) fun es => ∀ e ∈ es, FitsIn room e.2
  | room, [] => by
    rw [anyFields]
    exact .ok nofun
  | room, (none, _) :: _ => by
    rw [anyFields]
    exact .error _
  | room, (some key, d) :: ds => by
    rw [anyFields]
    refine (gives_anyValue room d).bind ?_
    intro v fits
    refine (yields_anyFields room ds).bind ?_
    intro es others
    exact .ok (List.forall_mem_cons.2 ⟨fits, others⟩)

end

/-! ## Records -/

/-- A property for every field of a record. -/
inductive Guards : List Type → Type 1 where
  | nil : Guards []
  | cons {α : Type} {ts : List Type} (P : Nat → α → Prop) (rest : Guards ts) : Guards (α :: ts)

/-- Every value of a record has the property of its field. -/
def Guards.Hold {ts : List Type} (guards : Guards ts) (room : Nat) (values : Values ts) : Prop :=
  match ts, guards, values with
  | _, .nil, _ => True
  | _, .cons P rest, (a, values) => P room a ∧ rest.Hold room values

/-- Every value found so far has the property of its field. -/
def Guards.HoldSoFar {ts : List Type} (guards : Guards ts) (room : Nat) (slots : Slots ts) : Prop :=
  match ts, guards, slots with
  | _, .nil, _ => True
  | _, .cons P rest, (slot, slots) => (∀ a ∈ slot, P room a) ∧ rest.HoldSoFar room slots

/-- The decoders and the defaults of the fields give what their properties say. -/
inductive Fields.Gives : {ts : List Type} → Fields ts → Guards ts → Prop where
  | nil : Gives .nil .nil
  | cons {α : Type} {ts : List Type} {field : Field α} {fs : Fields ts} {P : Nat → α → Prop}
      {guards : Guards ts} (gives : field.decode.Gives P)
      (default : ∀ room, ∀ a ∈ field.absent, P room a) (rest : Gives fs guards) :
      Gives (.cons field fs) (.cons P guards)

namespace Fields.Gives

variable {ts : List Type} {fs : Fields ts} {guards : Guards ts}

theorem empty (h : fs.Gives guards) (room : Nat) : guards.HoldSoFar room (Slots.empty ts) := by
  induction h with
  | nil => trivial
  | cons gives default rest ih => exact ⟨nofun, ih⟩

/-- What is filled in has the property of its field. -/
theorem fill (h : fs.Gives guards) {room : Nat} {slots filled : Slots ts} {name : String}
    {d : Draft} (before : guards.HoldSoFar room slots)
    (fills : fs.fill slots (.text room) name d = some (.ok filled)) :
    guards.HoldSoFar room filled := by
  induction h with
  | nil => cases fills
  | @cons α ts field fs P guards gives default rest ih =>
    obtain ⟨slot, slots⟩ := slots
    obtain ⟨held, others⟩ := before
    rw [Fields.fill] at fills
    split at fills
    · split at fills
      · cases fills
      · have decoded : Yields ((fun a => (some a, slots)) <$> field.decode (.text room) d)
            fun s : Slots (α :: ts) => (Guards.cons P guards).HoldSoFar room s := by
          refine (gives room d).map ?_
          intro a has
          refine ⟨?_, others⟩
          rintro _ ⟨⟩
          exact has
        exact decoded filled (Option.some.inj fills)
    · obtain ⟨result, inner, made⟩ := Option.map_eq_some_iff.1 fills
      cases result with
      | error e => cases made
      | ok slots' =>
        cases made
        exact ⟨held, ih others inner⟩

/-- What all entries fill in has the properties of its fields. -/
theorem fillAll (h : fs.Gives guards) {room : Nat} (entries : List (Option String × Draft)) :
    ∀ {slots : Slots ts}, guards.HoldSoFar room slots →
      Yields (fs.fillAll (.text room) slots entries) (guards.HoldSoFar room) := by
  induction entries with
  | nil => exact fun before => .ok before
  | cons entry entries ih =>
    intro slots before
    obtain ⟨key?, d⟩ := entry
    cases key? with
    | none => exact .error _
    | some key =>
      cases fills : fs.fill slots (.text room) key d with
      | none =>
        rw [fillAll_of_none fills]
        exact .noFault _ (ih before)
      | some result =>
        cases result with
        | error e =>
          rw [fillAll_of_error fills]
          exact .error _
        | ok filled =>
          rw [fillAll_of_ok fills]
          exact ih (h.fill before fills)

/-- The values of a record have the properties of its fields, the defaults among them. -/
theorem settle (h : fs.Gives guards) {room : Nat} {slots : Slots ts}
    (before : guards.HoldSoFar room slots) : Yields (fs.settle slots) (guards.Hold room) := by
  induction h with
  | nil => exact .ok trivial
  | @cons α ts field fs P guards gives default rest ih =>
    obtain ⟨slot, slots⟩ := slots
    obtain ⟨held, others⟩ := before
    rw [Fields.settle]
    cases slot with
    | some a => exact (ih others).map fun vs holds => ⟨held a rfl, holds⟩
    | none =>
      cases absent : field.absent with
      | some a => exact (ih others).map fun vs holds => ⟨default room a absent, holds⟩
      | none => exact .error _

/-- The values of a record that is written as a list have the properties of its fields. -/
theorem inOrder (h : fs.Gives guards) {room : Nat} (stop : Option Fault) (expected : String)
    (seen : Nat) (items : List Draft) :
    Yields (fs.inOrder (.text room) stop expected seen items)
      fun result => guards.Hold room result.1 := by
  induction h generalizing seen items with
  | nil =>
    rw [Fields.inOrder]
    exact .ok trivial
  | @cons α ts field fs P guards gives default rest ih =>
    cases items with
    | cons d items =>
      rw [Fields.inOrder]
      refine (gives room d).bind ?_
      intro a has
      refine (ih (seen + 1) items).bind ?_
      rintro ⟨vs, left⟩ holds
      exact .ok ⟨has, holds⟩
    | nil =>
      rw [Fields.inOrder]
      refine .noFault _ ?_
      cases absent : field.absent with
      | none => exact .error _
      | some a =>
        cases field.trailing with
        | false => exact .error _
        | true =>
          refine (ih (seen + 1) []).bind ?_
          rintro ⟨vs, left⟩ holds
          exact .ok ⟨default room a absent, holds⟩

/-- **A record that is decoded has the properties of its fields**, whether it is written as an
object or as a list. -/
theorem record {α : Type} (h : fs.Gives guards) (name : String) (make : Values ts → α) :
    (record name fs make).Gives fun room a => ∃ vs, guards.Hold (room - 1) vs ∧ a = make vs := by
  intro room d
  unfold Json.record
  split
  · refine .enter ?_
    refine (h.fillAll _ (h.empty (room - 1))).bind ?_
    intro slots held
    refine .noFault _ ((h.settle held).map ?_)
    intro vs holds
    exact ⟨vs, holds, rfl⟩
  · refine .enter ?_
    refine (h.inOrder _ _ 0 _).bind ?_
    rintro ⟨vs, left⟩ holds
    cases left with
    | nil => exact .noFault _ (.ok ⟨vs, holds, rfl⟩)
    | cons => exact .error _
  · exact .mismatched _ _

end Fields.Gives

/-- What a whole text decodes to was decoded with the room that a text has. -/
theorem Decoder.Gives.decodeText {α : Type} {decoder : Decoder α} {P : Nat → α → Prop}
    (h : decoder.Gives P) {s : String} {a : α} (decodes : Json.decodeText decoder s = .ok a) :
    P maxDepth a := by
  unfold Json.decodeText decodeChars at decodes
  generalize readDraft s.toList = read at decodes
  obtain ⟨draft, rest⟩ := read
  have accepts : decoder (.text maxDepth) draft = .ok a := by
    dsimp only at decodes
    cases made : decoder (.text maxDepth) draft with
    | error e =>
      rw [made] at decodes
      cases decodes
    | ok a' =>
      rw [made] at decodes
      cases rest with
      | none => cases decodes
      | some left =>
        cases left with
        | nil => exact decodes
        | cons token left => cases decodes
  exact h maxDepth draft a accepts

end FlowGraph.Json
