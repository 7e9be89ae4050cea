import FlowGraph.Dict

/-!
# What is found in changed dicts

The value under a key after each change of a dict, in terms of what was found before.
Entries with rising keys have no key twice, so the entries that are put over a dict are
found there in whatever order they are put in.
-/

namespace FlowGraph

namespace Dict

universe u v

variable {α : Type u}

theorem lookup_cons {key k : String} {value : α} {es : List (String × α)} :
    List.lookup k ((key, value) :: es) = if k = key then some value else es.lookup k := by
  rw [List.lookup_cons]
  by_cases h : k = key
  · subst h
    simp
  · have unequal : (k == key) = false := beq_false_of_ne h
    rw [unequal, if_neg h]

theorem lookup_place (key : String) (value : α) (es : List (String × α)) (k : String) :
    (place key value es).lookup k = if k = key then some value else es.lookup k := by
  induction es with
  | nil => rw [place, lookup_cons]
  | cons head rest ih =>
    obtain ⟨k₀, v₀⟩ := head
    rw [place]
    split
    · rw [lookup_cons]
    · split
      · rename_i same
        rw [lookup_cons, lookup_cons, same]
        split <;> rfl
      · rename_i differ
        rw [lookup_cons, lookup_cons, ih]
        by_cases h : k = k₀
        · subst h
          rw [if_pos rfl, if_pos rfl, if_neg fun same => differ same.symm]
        · rw [if_neg h, if_neg h]

@[simp] theorem get?_insert (d : Dict α) (key : String) (value : α) (k : String) :
    (d.insert key value).get? k = if k = key then some value else d.get? k :=
  lookup_place key value d.entries k

@[simp] theorem get?_erase (d : Dict α) (key k : String) :
    (d.erase key).get? k = if k = key then none else d.get? k := by
  show (d.entries.filter fun e => e.1 != key).lookup k =
    if k = key then none else d.entries.lookup k
  induction d.entries with
  | nil => simp
  | cons head rest ih =>
    obtain ⟨k₀, v₀⟩ := head
    rw [List.filter_cons]
    by_cases out : k₀ = key
    · subst out
      rw [if_neg (by simp), ih, lookup_cons]
      split <;> rfl
    · rw [if_pos (by simpa using out), lookup_cons, lookup_cons, ih]
      by_cases h : k = k₀
      · subst h
        rw [if_pos rfl, if_pos rfl, if_neg out]
      · rw [if_neg h, if_neg h]

/-- Under the key is what was put back, and nothing else has changed. -/
@[simp] theorem get?_putBack (d : Dict α) (key : String) (found : Option α) (k : String) :
    (d.putBack key found).get? k = if k = key then found else d.get? k := by
  cases found with
  | none => exact get?_erase d key k
  | some value => exact get?_insert d key value k

theorem lookup_eq_none {k : String} {es : List (String × α)} (h : ∀ e ∈ es, k < e.1) :
    es.lookup k = none := by
  induction es with
  | nil => rfl
  | cons head rest ih =>
    obtain ⟨first, above⟩ := List.forall_mem_cons.1 h
    rw [lookup_cons, if_neg, ih above]
    rintro rfl
    exact String.lt_irrefl _ first

/-- Of entries without a key twice each is found before those of the dict. -/
theorem get?_insertAll_of_distinct {es : List (String × α)} (distinct : (es.map Prod.fst).Nodup)
    (d : Dict α) (k : String) : (d.insertAll es).get? k = (es.lookup k).or (d.get? k) := by
  induction es generalizing d with
  | nil => rfl
  | cons head rest ih =>
    obtain ⟨k₀, v₀⟩ := head
    obtain ⟨other, distinct⟩ := List.nodup_cons.1 distinct
    have put : (d.insertAll ((k₀, v₀) :: rest)).get? k = ((d.insert k₀ v₀).insertAll rest).get? k :=
      rfl
    rw [put, ih distinct, lookup_cons, get?_insert]
    split
    · rename_i same
      subst same
      have absent : rest.lookup k = none := by
        refine List.lookup_eq_none_iff.2 fun e mem => bne_iff_ne.2 ?_
        rintro rfl
        exact other (List.mem_map.2 ⟨e, mem, rfl⟩)
      rw [absent]
      rfl
    · rfl

theorem get?_insertAll {es : List (String × α)} (rising : Rising es) (d : Dict α) (k : String) :
    (d.insertAll es).get? k = (es.lookup k).or (d.get? k) := by
  refine get?_insertAll_of_distinct (List.pairwise_map.2 (rising.imp ?_)) d k
  intro e e' less same
  exact String.lt_irrefl _ (same ▸ less)

/-- What is put over a dict is found first. -/
@[simp] theorem get?_overlay (d upper : Dict α) (k : String) :
    (d.overlay upper).get? k = (upper.get? k).or (d.get? k) :=
  get?_insertAll upper.rising d k

theorem mem_keys {d : Dict α} {k : String} : k ∈ d.keys ↔ d.contains k = true := by
  rw [keys, contains, get?]
  induction d.entries with
  | nil => simp
  | cons head rest ih =>
    obtain ⟨k₀, v₀⟩ := head
    rw [List.map_cons, List.mem_cons, lookup_cons]
    split
    · simp [*]
    · simp [*]

/-- Keys that are not among the entries keep what they had. -/
theorem get?_insertAll_of_notMem {es : List (String × α)} {k : String}
    (other : k ∉ es.map Prod.fst) (d : Dict α) : (d.insertAll es).get? k = d.get? k := by
  induction es generalizing d with
  | nil => rfl
  | cons head rest ih =>
    rw [List.map_cons, List.mem_cons, not_or] at other
    have put : (d.insertAll (head :: rest)).get? k =
        ((d.insert head.1 head.2).insertAll rest).get? k :=
      rfl
    rw [put, ih other.2, get?_insert, if_neg other.1]

/-- Of the entries of a key the last one that is put in stays. -/
theorem get?_insertAll_of_last {before after : List (String × α)} {key : String} {value : α}
    (last : key ∉ after.map Prod.fst) (d : Dict α) :
    (d.insertAll (before ++ (key, value) :: after)).get? key = some value := by
  have put : d.insertAll (before ++ (key, value) :: after) =
      ((d.insertAll before).insert key value).insertAll after := by
    simp only [insertAll, List.foldl_append, List.foldl_cons]
  rw [put, get?_insertAll_of_notMem last, get?_insert, if_pos rfl]

/-- Of entries without a key twice each one is found, in whatever order they are put in. -/
theorem get?_insertAll_of_mem {es : List (String × α)} {e : String × α}
    (distinct : (es.map Prod.fst).Nodup) (mem : e ∈ es) (d : Dict α) :
    (d.insertAll es).get? e.1 = some e.2 := by
  obtain ⟨before, after, rfl⟩ := List.append_of_mem mem
  rw [List.map_append, List.map_cons, List.nodup_append, List.nodup_cons] at distinct
  obtain ⟨-, ⟨last, -⟩, -⟩ := distinct
  exact get?_insertAll_of_last last d

/-- Keeping the entries of some keys keeps what is found under them. -/
theorem get?_filter_key (d : Dict α) (keep : String → Bool) (k : String) :
    (d.filter fun key _ => keep key).get? k = if keep k then d.get? k else none := by
  show (d.entries.filter fun e => keep e.1).lookup k = if keep k then d.entries.lookup k else none
  induction d.entries with
  | nil => simp
  | cons head rest ih =>
    obtain ⟨k₀, v₀⟩ := head
    rw [List.filter_cons]
    by_cases kept : keep k₀
    · rw [if_pos kept, lookup_cons, lookup_cons, ih]
      by_cases same : k = k₀
      · subst same
        rw [if_pos rfl, if_pos rfl, if_pos kept]
      · rw [if_neg same, if_neg same]
    · rw [if_neg kept, ih, lookup_cons]
      by_cases same : k = k₀
      · subst same
        rw [if_neg kept, if_neg kept]
      · rw [if_neg same]

/-- Under a key of changed values is the changed one. -/
theorem get?_map {β : Type v} (f : String → α → β) (d : Dict α) (k : String) :
    (d.map f).get? k = (d.get? k).map (f k) := by
  show (d.entries.map fun e => (e.1, f e.1 e.2)).lookup k = (d.entries.lookup k).map (f k)
  induction d.entries with
  | nil => rfl
  | cons head rest ih =>
    obtain ⟨k₀, v₀⟩ := head
    rw [List.map_cons, lookup_cons, lookup_cons, ih]
    by_cases same : k = k₀
    · subst same
      rw [if_pos rfl, if_pos rfl]
      rfl
    · rw [if_neg same, if_neg same]

/-- Of entries that may have no value those are found that have one. -/
theorem lookup_filterMap {es : List (String × Option α)} (rising : Rising es) (k : String) :
    (es.filterMap fun e => e.2.map fun v => (e.1, v)).lookup k = (es.lookup k).join := by
  induction es with
  | nil => rfl
  | cons head rest ih =>
    obtain ⟨k₀, v₀⟩ := head
    obtain ⟨above, later⟩ := List.pairwise_cons.1 rising
    have ih := ih later
    rw [lookup_cons]
    cases v₀ with
    | none =>
      rw [List.filterMap_cons_none (by rfl), ih]
      by_cases same : k = k₀
      · subst same
        rw [if_pos rfl, lookup_eq_none above]
        rfl
      · rw [if_neg same]
    | some v =>
      rw [List.filterMap_cons_some (b := (k₀, v)) (by rfl), lookup_cons, ih]
      by_cases same : k = k₀
      · rw [if_pos same, if_pos same]
        rfl
      · rw [if_neg same, if_neg same]

/-- Entries with a value have rising keys if all entries have. -/
theorem rising_filterMap {es : List (String × Option α)} (rising : Rising es) :
    Rising (es.filterMap fun e => e.2.map fun v => (e.1, v)) := by
  refine List.Pairwise.filterMap _ ?_ rising
  rintro ⟨k, v?⟩ ⟨k', v?'⟩ less ⟨_, v⟩ value ⟨_, v'⟩ value'
  obtain ⟨_, -, same⟩ := Option.map_eq_some_iff.1 value
  obtain ⟨_, -, same'⟩ := Option.map_eq_some_iff.1 value'
  cases same
  cases same'
  exact less

/-- An entry whose key is above all others comes last. -/
theorem place_of_above {key : String} (value : α) {es : List (String × α)}
    (above : ∀ e ∈ es, e.1 < key) : place key value es = es ++ [(key, value)] := by
  induction es with
  | nil => rfl
  | cons head rest ih =>
    obtain ⟨k, v⟩ := head
    obtain ⟨less, above⟩ := List.forall_mem_cons.1 above
    have less : k < key := less
    have apart : key ≠ k := fun same => String.lt_irrefl _ (same ▸ less)
    rw [place, if_neg (String.lt_asymm less), if_neg apart, ih above]
    rfl

/-- Entries above those of a dict, in rising order, are appended to them. -/
theorem entries_insertAll {es : List (String × α)} (d : Dict α)
    (rising : Rising (d.entries ++ es)) : (d.insertAll es).entries = d.entries ++ es := by
  induction es generalizing d with
  | nil => exact (List.append_nil _).symm
  | cons head rest ih =>
    obtain ⟨key, value⟩ := head
    have above : ∀ e ∈ d.entries, e.1 < key := by
      intro e mem
      exact (List.pairwise_append.1 rising).2.2 e mem _ List.mem_cons_self
    have placed : (d.insert key value).entries = d.entries ++ [(key, value)] :=
      place_of_above value above
    have whole : (d.insert key value).entries ++ rest = d.entries ++ (key, value) :: rest := by
      rw [placed, List.append_assoc]
      rfl
    exact (ih (d.insert key value) (whole ▸ rising)).trans whole

/-- A dict is what its entries make. -/
@[simp] theorem ofList_entries (d : Dict α) : ofList d.entries = d := by
  have entries : (ofList d.entries).entries = d.entries := entries_insertAll empty d.rising
  generalize ofList d.entries = made at entries
  obtain ⟨_, _⟩ := made
  obtain ⟨_, _⟩ := d
  cases entries
  rfl

/-- A dict holds what has been put into it. -/
theorem mem_insertAll {es : List (String × α)} {d : Dict α} {e : String × α}
    (mem : e ∈ (d.insertAll es).entries) : e ∈ d.entries ∨ e ∈ es := by
  induction es generalizing d with
  | nil => exact .inl mem
  | cons head rest ih =>
    obtain placed | later := ih (d := d.insert head.1 head.2) mem
    · obtain rfl | old := mem_place placed
      · exact .inr List.mem_cons_self
      · exact .inl old
    · exact .inr (List.mem_cons_of_mem _ later)

/-- The entries are what is found. -/
theorem mem_entries {d : Dict α} {key : String} {value : α} :
    (key, value) ∈ d.entries ↔ d.get? key = some value := by
  rw [get?, List.lookup_eq_some_iff]
  constructor
  · intro mem
    obtain ⟨before, after, split⟩ := List.append_of_mem mem
    refine ⟨before, after, split, ?_⟩
    intro e earlier
    have rising := d.rising
    rw [Rising, split, List.pairwise_append] at rising
    have less : e.1 < key := rising.2.2 e earlier (key, value) List.mem_cons_self
    exact bne_iff_ne.2 fun same => String.lt_irrefl key (same ▸ less)
  · rintro ⟨before, after, split, -⟩
    rw [split]
    simp

/-- Dicts in which the same is found are the same. -/
theorem eq_of_get? {d d' : Dict α} (same : ∀ key, d.get? key = d'.get? key) : d = d' := by
  have distinct (d : Dict α) : d.entries.Nodup := by
    refine d.rising.imp ?_
    rintro e e' less rfl
    exact String.lt_irrefl _ less
  have perm : d.entries.Perm d'.entries := by
    refine (List.perm_ext_iff_of_nodup (distinct d) (distinct d')).2 ?_
    rintro ⟨key, value⟩
    rw [mem_entries, mem_entries, same]
  have entries : d.entries = d'.entries := by
    refine perm.eq_of_pairwise ?_ d.rising d'.rising
    intro e e' _ _ less greater
    exact absurd less (String.lt_asymm greater)
  cases d
  cases d'
  cases entries
  rfl

end Dict

end FlowGraph
