/-!
# Maps keyed by text

A `Dict` holds its entries in strictly rising order of their keys, so two dicts with
the same answers to `get?` are the same dict, and the order in which entries were
put in cannot be seen.
-/

namespace FlowGraph

universe u v

/-- Entries in strictly rising key order. -/
def Rising {α : Type u} (entries : List (String × α)) : Prop :=
  entries.Pairwise (fun a b => a.1 < b.1)

/-- A map from texts, ordered by key. -/
structure Dict (α : Type u) where
  /-- The entries, smallest key first. -/
  entries : List (String × α)
  rising : Rising entries

namespace Dict

variable {α : Type u} {β : Type v}

instance : Inhabited (Dict α) := ⟨⟨[], List.Pairwise.nil⟩⟩

instance [BEq α] : BEq (Dict α) := ⟨fun a b => a.entries == b.entries⟩

instance [DecidableEq α] : DecidableEq (Dict α) := fun a b =>
  if h : a.entries = b.entries then
    isTrue (by cases a; cases b; cases h; rfl)
  else isFalse (fun e => h (congrArg entries e))

/-- The dict without entries. -/
def empty : Dict α := ⟨[], List.Pairwise.nil⟩

instance : EmptyCollection (Dict α) := ⟨empty⟩

/-- The value under a key. -/
def get? (d : Dict α) (key : String) : Option α :=
  d.entries.lookup key

/-- Some value is under the key. -/
def contains (d : Dict α) (key : String) : Bool :=
  (d.get? key).isSome

/-- The keys in rising order. -/
def keys (d : Dict α) : List String := d.entries.map (·.1)

/-- The number of entries. -/
def size (d : Dict α) : Nat := d.entries.length

/-- Puts an entry into its place, over one of the same key. -/
def place (key : String) (value : α) : List (String × α) → List (String × α)
  | [] => [(key, value)]
  | (k, v) :: rest =>
    if key < k then (key, value) :: (k, v) :: rest
    else if key = k then (key, value) :: rest
    else (k, v) :: place key value rest

theorem mem_place {key : String} {value : α} {es : List (String × α)} {e : String × α}
    (h : e ∈ place key value es) : e = (key, value) ∨ e ∈ es := by
  induction es with
  | nil => simpa [place] using h
  | cons head rest ih =>
    obtain ⟨k, v⟩ := head
    simp only [place] at h
    split at h
    · simpa using h
    · split at h
      · rcases List.mem_cons.1 h with h | h
        · exact .inl h
        · exact .inr (List.mem_cons_of_mem _ h)
      · rcases List.mem_cons.1 h with h | h
        · exact .inr (h ▸ List.mem_cons_self)
        · exact (ih h).imp id (List.mem_cons_of_mem _)

theorem rising_place (key : String) (value : α) {es : List (String × α)} (h : Rising es) :
    Rising (place key value es) := by
  induction es with
  | nil => exact List.pairwise_singleton _ _
  | cons head rest ih =>
    obtain ⟨k, v⟩ := head
    obtain ⟨hk, hrest⟩ := List.pairwise_cons.1 h
    simp only [place]
    split
    · rename_i hlt
      refine List.pairwise_cons.2 ⟨fun e he => ?_, h⟩
      rcases List.mem_cons.1 he with he | he
      · exact he ▸ hlt
      · exact String.lt_trans hlt (hk e he)
    · split
      · rename_i heq
        subst heq
        exact List.pairwise_cons.2 ⟨hk, hrest⟩
      · rename_i hnlt hne
        refine List.pairwise_cons.2 ⟨fun e he => ?_, ih hrest⟩
        rcases mem_place he with he | he
        · subst he
          exact Decidable.byContradiction fun hc =>
            hne (String.le_antisymm (String.not_lt.1 hc) (String.not_lt.1 hnlt))
        · exact hk e he

/-- Puts a value under a key, over the one that was there. -/
def insert (d : Dict α) (key : String) (value : α) : Dict α :=
  ⟨place key value d.entries, rising_place key value d.rising⟩

/-- Keeps the entries that satisfy a test. -/
def filter (d : Dict α) (keep : String → α → Bool) : Dict α :=
  ⟨d.entries.filter fun e => keep e.1 e.2, d.rising.sublist List.filter_sublist⟩

/-- Takes the entry of a key out. -/
def erase (d : Dict α) (key : String) : Dict α :=
  d.filter fun k _ => k != key

/-- Puts the entries in from left to right, so the last one of a key stays. -/
def insertAll (d : Dict α) (es : List (String × α)) : Dict α :=
  es.foldl (fun d e => d.insert e.1 e.2) d

/-- The dict of a list of entries; the last entry of a key stays. -/
def ofList (es : List (String × α)) : Dict α := empty.insertAll es

/-- Every entry of `over` put over this dict. -/
def overlay (d upper : Dict α) : Dict α := d.insertAll upper.entries

/-- The same keys with changed values. -/
def map (f : String → α → β) (d : Dict α) : Dict β :=
  ⟨d.entries.map fun e => (e.1, f e.1 e.2),
    List.pairwise_map.2 (d.rising.imp fun h => h)⟩

/-- Puts back what was found under a key: its value, or nothing. -/
def putBack (d : Dict α) (key : String) : Option α → Dict α
  | some v => d.insert key v
  | none => d.erase key

end Dict

end FlowGraph
