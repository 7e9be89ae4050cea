import FlowGraph.Proofs.Drafts
import FlowGraph.Proofs.Lookup

/-!
# Decoding what was encoded

`Decoder.Reads` says that a decoder makes a certain thing of a value, wherever the value comes
from, as long as it is not nested too deeply for that. There is one such lemma for every way of
building a decoder. For records it suffices to tell field by field whether the field was written
or left out (`Writes`): a field that was left out must have for a default what it had before.
-/

namespace FlowGraph.Json

/-! ## Nesting -/

mutual

/-- How deeply the brackets of a value are nested. -/
def depth : Json → Nat
  | .arr items => depthOfItems items + 1
  | .obj fields => depthOfFields fields + 1
  | .null | .bool _ | .int _ | .float _ | .str _ => 0

/-- The greatest depth of an item. -/
def depthOfItems : List Json → Nat
  | [] => 0
  | item :: rest => max (depth item) (depthOfItems rest)

/-- The greatest depth of a field's value. -/
def depthOfFields : List (String × Json) → Nat
  | [] => 0
  | (_, value) :: rest => max (depth value) (depthOfFields rest)

end

theorem depthOfItems_le {items : List Json} {n : Nat} :
    depthOfItems items ≤ n ↔ ∀ v ∈ items, v.depth ≤ n := by
  induction items with
  | nil => simp [depthOfItems]
  | cons item rest ih => rw [depthOfItems, Nat.max_le, ih, List.forall_mem_cons]

theorem depthOfFields_le {fields : List (String × Json)} {n : Nat} :
    depthOfFields fields ≤ n ↔ ∀ e ∈ fields, e.2.depth ≤ n := by
  induction fields with
  | nil => simp [depthOfFields]
  | cons field rest ih =>
    obtain ⟨key, value⟩ := field
    rw [depthOfFields, Nat.max_le, ih, List.forall_mem_cons]

theorem depth_map_le {α : Type} {encode : α → Json} {as : List α} {n : Nat}
    (each : ∀ a ∈ as, (encode a).depth ≤ n) : (arr (as.map encode)).depth ≤ n + 1 := by
  refine Nat.succ_le_succ (depthOfItems_le.2 ?_)
  intro v mem
  obtain ⟨a, there, rfl⟩ := List.mem_map.1 mem
  exact each a there

/-- So many more brackets may be opened. -/
def Origin.Holds : Origin → Nat → Prop
  | .text room, n => n ≤ room
  | .value, _ => True

theorem Origin.Holds.mono {o : Origin} {m n : Nat} (holds : o.Holds n) (less : m ≤ n) :
    o.Holds m := by
  cases o with
  | text room => exact Nat.le_trans less holds
  | value => trivial

/-- A bracket can be opened where there is room for one. -/
theorem Origin.Holds.enter {o : Origin} {n : Nat} (holds : o.Holds (n + 1)) :
    ∃ inner : Origin, o.enter = .ok inner ∧ inner.Holds n := by
  cases o with
  | value => exact ⟨.value, rfl, trivial⟩
  | text room =>
    cases room with
    | zero => exact absurd holds (Nat.not_succ_le_zero n)
    | succ room => exact ⟨.text room, rfl, Nat.le_of_succ_le_succ holds⟩

/-! ## Single values -/

/-- The decoder makes this of the value, wherever there is room for it. -/
def Decoder.Reads {α : Type} (decoder : Decoder α) (v : Json) (a : α) : Prop :=
  ∀ o : Origin, o.Holds v.depth → decoder o (toDraft v) = .ok a

section
variable {α : Type}

theorem reads_text (s : String) : text.Reads (.str s) s := by
  intro o _
  rfl

theorem reads_intWithin {low high n : Int} (expected : String) (within : low ≤ n ∧ n ≤ high) :
    (intWithin low high expected).Reads (.int n) n := by
  intro o _
  exact if_pos within

theorem reads_int32 {n : Int} (within : -0x80000000 ≤ n ∧ n ≤ 0x7fffffff) :
    int32.Reads (.int n) n :=
  reads_intWithin "i32" within

/-- A number without a sign is read if it keeps within its bound. -/
theorem reads_naturalWithin {high n : Nat} (expected : String) (within : n ≤ high) :
    Decoder.Reads (fun o d => Int.toNat <$> intWithin 0 high expected o d) (.int n) n := by
  intro o room
  have inside : (0 : Int) ≤ n ∧ (n : Int) ≤ high := by omega
  have read := reads_intWithin expected inside o room
  show Int.toNat <$> intWithin 0 high expected o (toDraft (.int n)) = .ok n
  rw [read]
  rfl

theorem reads_natural32 {n : Nat} (within : n < UInt32.size) : natural32.Reads (.int n) n :=
  reads_naturalWithin "u32" (Nat.le_of_lt_succ within)

theorem reads_natural64 {n : Nat} (within : n < UInt64.size) : natural64.Reads (.int n) n :=
  reads_naturalWithin "u64" (Nat.le_of_lt_succ within)

theorem reads_count {n : Nat} (within : n < UInt64.size) : count.Reads (.int n) n :=
  reads_naturalWithin "usize" (Nat.le_of_lt_succ within)

theorem reads_uuid {s : String} {u : Uuid} (parses : Uuid.parse? s = some u) :
    uuid.Reads (.str s) u := by
  intro o _
  simp only [toDraft, uuid, parses]

/-- Null is the absence of an optional value. -/
theorem reads_optional_none (decoder : Decoder α) : (optional decoder).Reads .null none := by
  intro o _
  rfl

/-- An optional value is read as a value is, if that is not written as null. -/
theorem Decoder.Reads.optional {decoder : Decoder α} {v : Json} {a : α}
    (reads : decoder.Reads v a) (there : v ≠ .null) : (optional decoder).Reads v (some a) := by
  intro o room
  have read := reads o room
  cases v with
  | null => exact absurd rfl there
  | bool | int | float | str | arr | obj =>
    rw [toDraft] at read ⊢
    rw [Json.optional, read]
    · rfl
    · nofun

/-- A variant is read from its name. -/
theorem reads_variant {known : List (String × α)} {name : String} {a : α}
    (knows : known.lookup name = some a) : (variant known).Reads (.str name) a := by
  intro o _
  simp only [toDraft, variant, knows]

/-! ## Lists and dicts -/

/-- A list is read if its items are. -/
theorem reads_list {decoder : Decoder α} {encode : α → Json} {as : List α}
    (reads : ∀ a ∈ as, decoder.Reads (encode a) a) :
    (list decoder).Reads (.arr (as.map encode)) as := by
  intro o room
  obtain ⟨inner, enters, holds⟩ := Origin.Holds.enter room
  have each : eachItem (decoder inner) (draftItems (as.map encode)) = .ok as := by
    have within : ∀ a ∈ as, inner.Holds (encode a).depth := by
      intro a mem
      exact holds.mono (depthOfItems_le.1 (Nat.le_refl _) _ (List.mem_map_of_mem mem))
    clear room holds
    induction as with
    | nil => rfl
    | cons a as ih =>
      obtain ⟨first, others⟩ := List.forall_mem_cons.1 reads
      obtain ⟨fits, fit⟩ := List.forall_mem_cons.1 within
      rw [List.map_cons, draftItems, eachItem, first inner fits, ih others fit]
      rfl
  rw [toDraft, list, enters]
  show (do
    let as ← eachItem (decoder inner) (draftItems (as.map encode))
    noFault none
    return as) = .ok as
  rw [each]
  rfl

mutual

/-- **A value is read as itself** if every object inside has its keys in rising order. -/
theorem reads_anyValue : ∀ {v : Json}, v.Canonical → Decoder.Reads anyValue v v
  | .null, _, _, _ | .bool _, _, _, _ | .int _, _, _, _ | .float _, _, _, _
  | .str _, _, _, _ => by
    rw [toDraft, anyValue]
  | .arr items, canonical, o, room => by
    obtain ⟨inner, enters, holds⟩ := Origin.Holds.enter room
    have each := anyItems_draftItems canonical holds
    rw [toDraft, anyValue, enters]
    show (do
      let vs ← anyItems inner (draftItems items)
      noFault none
      return Json.arr vs) = .ok (.arr items)
    rw [each]
    rfl
  | .obj fields, canonical, o, room => by
    obtain ⟨inner, enters, holds⟩ := Origin.Holds.enter room
    have each := anyFields_draftFields canonical.2 holds
    have made : ofDict (Dict.ofList fields) = .obj fields :=
      congrArg ofDict (Dict.ofList_entries ⟨fields, canonical.1⟩)
    rw [toDraft, anyValue, enters]
    show (do
      let vs ← anyFields inner (draftFields fields)
      noFault none
      return ofDict (Dict.ofList vs)) = .ok (.obj fields)
    rw [each, ← made]
    rfl

theorem anyItems_draftItems : ∀ {items : List Json} {o : Origin}, CanonicalItems items →
    o.Holds (depthOfItems items) → anyItems o (draftItems items) = .ok items
  | [], _, _, _ => rfl
  | item :: items, o, canonical, room => by
    have first := reads_anyValue canonical.1 o (room.mono (Nat.le_max_left _ _))
    have others := anyItems_draftItems canonical.2 (room.mono (Nat.le_max_right _ _))
    rw [draftItems, anyItems, first, others]
    rfl

theorem anyFields_draftFields : ∀ {fields : List (String × Json)} {o : Origin},
    CanonicalFields fields → o.Holds (depthOfFields fields) →
      anyFields o (draftFields fields) = .ok fields
  | [], _, _, _ => rfl
  | (key, value) :: fields, o, canonical, room => by
    have first := reads_anyValue canonical.1 o (room.mono (Nat.le_max_left _ _))
    have others := anyFields_draftFields canonical.2 (room.mono (Nat.le_max_right _ _))
    rw [draftFields, anyFields, first, others]
    rfl

end

/-- A dict is read if the values of its entries are. -/
theorem reads_dict {decoder : Decoder Json} {d : Dict Json}
    (reads : ∀ e ∈ d.entries, decoder.Reads e.2 e.2) : (dict decoder).Reads (.ofDict d) d := by
  intro o room
  obtain ⟨inner, enters, holds⟩ := Origin.Holds.enter room
  have within : ∀ e ∈ d.entries, inner.Holds e.2.depth := fun e mem =>
    holds.mono (depthOfFields_le.1 (Nat.le_refl _) e mem)
  have each (es : List (String × Json)) (reads : ∀ e ∈ es, decoder.Reads e.2 e.2)
      (within : ∀ e ∈ es, inner.Holds e.2.depth) :
      eachField (decoder inner) (draftFields es) = .ok es := by
    induction es with
    | nil => rfl
    | cons e es ih =>
      obtain ⟨key, value⟩ := e
      obtain ⟨first, others⟩ := List.forall_mem_cons.1 reads
      obtain ⟨fits, fit⟩ := List.forall_mem_cons.1 within
      rw [draftFields, eachField, first inner fits, ih others fit]
      rfl
  rw [ofDict, toDraft, dict, enters]
  show (do
    let as ← eachField (decoder inner) (draftFields d.entries)
    noFault none
    return Dict.ofList as) = .ok d
  rw [each d.entries reads within]
  exact congrArg Except.ok (Dict.ofList_entries d)

end

/-! ## Records -/

/-- The names of the fields of a record. -/
def Fields.names {ts : List Type} : Fields ts → List String
  | .nil => []
  | .cons field rest => field.name :: rest.names

/-- The entries are those of the values of a record, in the order of its fields, but for some
that have their defaults. -/
inductive Writes : {ts : List Type} → Fields ts → Values ts → List (String × Json) → Prop where
  | nil : Writes .nil () []
  | written {α : Type} {ts : List Type} {field : Field α} {fs : Fields ts} {a : α}
      {vs : Values ts} {v : Json} {es : List (String × Json)} (reads : field.decode.Reads v a)
      (rest : Writes fs vs es) : Writes (.cons field fs) (a, vs) ((field.name, v) :: es)
  | omitted {α : Type} {ts : List Type} {field : Field α} {fs : Fields ts} {a : α}
      {vs : Values ts} {es : List (String × Json)} (default : field.absent = some a)
      (rest : Writes fs vs es) : Writes (.cons field fs) (a, vs) es

section
variable {α : Type} {ts : List Type}

theorem fillAll_of_ok {fs : Fields ts} {o : Origin} {slots filled : Slots ts} {key : String}
    {d : Draft} (h : fs.fill slots o key d = some (.ok filled))
    (rest : List (Option String × Draft)) :
    fs.fillAll o slots ((some key, d) :: rest) = fs.fillAll o filled rest := by
  rw [Fields.fillAll, h]

theorem fillAll_of_error {fs : Fields ts} {o : Origin} {slots : Slots ts} {key : String}
    {d : Draft} {e : DecodeError} (h : fs.fill slots o key d = some (.error e))
    (rest : List (Option String × Draft)) :
    fs.fillAll o slots ((some key, d) :: rest) = .error e := by
  rw [Fields.fillAll, h]

theorem fillAll_of_none {fs : Fields ts} {o : Origin} {slots : Slots ts} {key : String}
    {d : Draft} (h : fs.fill slots o key d = none) (rest : List (Option String × Draft)) :
    fs.fillAll o slots ((some key, d) :: rest) =
      (do
        noFault d.skip?
        fs.fillAll o slots rest) := by
  rw [Fields.fillAll, h]

/-- Entries under other names leave a field alone. -/
theorem fillAll_cons {field : Field α} {fs : Fields ts} {o : Origin} (slot : Option α)
    (slots : Slots ts) {es : List (String × Json)} (other : field.name ∉ es.map Prod.fst) :
    (Fields.cons field fs).fillAll o (slot, slots) (draftFields es) =
      (fun filled => (slot, filled)) <$> fs.fillAll o slots (draftFields es) := by
  induction es generalizing slots with
  | nil => rfl
  | cons e es ih =>
    obtain ⟨key, value⟩ := e
    rw [List.map_cons, List.mem_cons, not_or] at other
    obtain ⟨apart, other⟩ := other
    have apart : (field.name == key) = false := beq_eq_false_iff_ne.2 apart
    have passes : (Fields.cons field fs).fill (slot, slots) o key (toDraft value) =
        (fs.fill slots o key (toDraft value)).map
          fun filled => (fun s => (slot, s)) <$> filled := by
      rw [Fields.fill, apart]
      rfl
    rw [draftFields]
    cases fills : fs.fill slots o key (toDraft value) with
    | none =>
      rw [fills] at passes
      rw [fillAll_of_none passes, fillAll_of_none fills, ih slots other]
      cases noFault (toDraft value).skip? with
      | error | ok => rfl
    | some result =>
      rw [fills] at passes
      cases result with
      | error e =>
        rw [fillAll_of_error passes, fillAll_of_error fills]
        rfl
      | ok filled => rw [fillAll_of_ok passes, fillAll_of_ok fills, ih filled other]

theorem Writes.names {fs : Fields ts} {vs : Values ts} {es : List (String × Json)}
    (h : Writes fs vs es) : es.map Prod.fst ⊆ fs.names := by
  induction h with
  | nil => exact List.nil_subset _
  | written reads rest ih =>
    rw [List.map_cons, Fields.names]
    exact List.cons_subset_cons _ ih
  | omitted default rest ih => exact List.subset_cons_of_subset _ ih

/-- Filling in what was written leaves what settles to the values. -/
theorem Writes.fillAll {fs : Fields ts} {vs : Values ts} {es : List (String × Json)}
    (h : Writes fs vs es) (distinct : fs.names.Nodup) {o : Origin}
    (room : ∀ e ∈ es, o.Holds e.2.depth) :
    ∃ slots, fs.fillAll o (Slots.empty ts) (draftFields es) = .ok slots ∧
      fs.settle slots = .ok vs := by
  induction h with
  | nil => exact ⟨(), rfl, rfl⟩
  | @written α ts field fs a vs v es reads rest ih =>
    obtain ⟨apart, distinct⟩ := List.nodup_cons.1 distinct
    obtain ⟨fits, fit⟩ := List.forall_mem_cons.1 room
    obtain ⟨slots, filled, settled⟩ := ih distinct fit
    have other : field.name ∉ es.map Prod.fst := fun mem => apart (rest.names mem)
    refine ⟨(some a, slots), ?_, ?_⟩
    · have first : (Fields.cons field fs).fill (Slots.empty (α :: ts)) o field.name (toDraft v) =
          some (.ok (some a, Slots.empty ts)) := by
        rw [Slots.empty, Fields.fill, beq_self_eq_true, reads o fits]
        rfl
      rw [draftFields, fillAll_of_ok first]
      refine (fillAll_cons (some a) (Slots.empty ts) other).trans ?_
      rw [filled]
      rfl
    · rw [Fields.settle, settled]
      rfl
  | @omitted α ts field fs a vs es default rest ih =>
    obtain ⟨apart, distinct⟩ := List.nodup_cons.1 distinct
    obtain ⟨slots, filled, settled⟩ := ih distinct room
    have other : field.name ∉ es.map Prod.fst := fun mem => apart (rest.names mem)
    refine ⟨(none, slots), ?_, ?_⟩
    · refine (fillAll_cons none (Slots.empty ts) other).trans ?_
      rw [filled]
      rfl
    · rw [Fields.settle, settled, default]
      rfl

/-- **A record is read from the object of what was written of it.** -/
theorem reads_record {fs : Fields ts} {vs : Values ts} {es : List (String × Json)}
    (h : Writes fs vs es) (distinct : fs.names.Nodup) (name : String) (make : Values ts → α) :
    (record name fs make).Reads (.obj es) (make vs) := by
  intro o room
  obtain ⟨inner, enters, holds⟩ := Origin.Holds.enter room
  have within : ∀ e ∈ es, inner.Holds e.2.depth := fun e mem =>
    holds.mono (depthOfFields_le.1 (Nat.le_refl _) e mem)
  obtain ⟨slots, filled, settled⟩ := h.fillAll distinct within
  rw [toDraft, record, enters]
  show (do
    let slots ← fs.fillAll inner (Slots.empty ts) (draftFields es)
    noFault none
    make <$> fs.settle slots) = .ok (make vs)
  rw [filled]
  show make <$> fs.settle slots = .ok (make vs)
  rw [settled]
  rfl

end

/-- **What was encoded decodes again from its text**, on one line or indented. -/
theorem Decoder.Reads.decodeText {α : Type} {decoder : Decoder α} {v : Json} {a : α}
    (reads : decoder.Reads v a) (whole : v.IsWhole) (shallow : v.depth ≤ maxDepth) :
    Json.decodeText decoder v.compact = .ok a ∧ Json.decodeText decoder v.indented = .ok a :=
  decodeText_of_draft whole (reads (.text maxDepth) shallow)

end FlowGraph.Json
