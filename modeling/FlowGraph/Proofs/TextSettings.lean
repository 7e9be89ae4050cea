import FlowGraph.Proofs.Brackets
import FlowGraph.Step.Binding

/-!
# Settings that are written as texts

A text binds to what its JSON binds to. For every type of settings, the JSON text of a value other
than a text thus binds like the value itself, blanks around it or not: if all numbers inside are
whole, reading gives back the value, and otherwise neither the value nor what is read of its text
binds to anything.
-/

namespace FlowGraph

/-- A type that settings are read as. -/
inductive SettingType where
  | boolean
  | int32
  | int64
  | natural32
  | natural64
  | optionalInt64
  | texts

namespace SettingType

/-- What a setting of a type holds. -/
def Value : SettingType → Type
  | .boolean => Bool
  | .int32 | .int64 => Int
  | .natural32 | .natural64 => Nat
  | .optionalInt64 => Option Int
  | .texts => List String

/-- How a setting of a type is decoded. -/
def decoder : (t : SettingType) → Json.Decoder t.Value
  | .boolean => Json.boolean
  | .int32 => Json.int32
  | .int64 => Json.int64
  | .natural32 => Json.natural32
  | .natural64 => Json.natural64
  | .optionalInt64 => Json.optional Json.int64
  | .texts => Json.list Json.text

open Json

/-- A setting is decoded from a text as from a value at hand, if one bracket may be opened. -/
theorem decoder_anywhere (t : SettingType) (room : Nat) (d : Draft) :
    t.decoder (.text (room + 1)) d = t.decoder .value d := by
  cases t with
  | boolean | int32 | int64 | natural32 | natural64 | optionalInt64 => rfl
  | texts =>
    cases d with
    | null | bool | int | float | str | arr | obj | unreadable => rfl

/-- No setting is a single text. -/
theorem decoder_str (t : SettingType) (o : Origin) (s : String) :
    (t.decoder o (.str s)).toOption = none := by
  cases t with
  | boolean | int32 | int64 | natural32 | natural64 | optionalInt64 | texts => rfl

theorem text_of_other {o : Origin} {d : Draft} (other : ¬d.IsText) :
    ∃ e, Json.text o d = .error e := by
  cases d with
  | str s => exact absurd trivial other
  | null | bool | int | float | arr | obj | unreadable => exact ⟨_, rfl⟩

/-- Texts are not decoded from items of which one is no text. -/
theorem eachItem_text_of_other {o : Origin} {items : List Draft} {d : Draft} (mem : d ∈ items)
    (other : ¬d.IsText) : ∃ e, eachItem (Json.text o) items = .error e := by
  induction items with
  | nil => cases mem
  | cons item items ih =>
    rw [eachItem]
    cases first : Json.text o item with
    | error e => exact ⟨e, rfl⟩
    | ok s =>
      obtain rfl | mem := List.mem_cons.1 mem
      · obtain ⟨e, fails⟩ := text_of_other (o := o) other
        rw [fails] at first
        cases first
      · obtain ⟨e, fails⟩ := ih mem
        rw [fails]
        exact ⟨e, rfl⟩

/-- **No setting is decoded from an unfit draft.** -/
theorem decoder_unfit (t : SettingType) (o : Origin) {d : Draft} (unfit : d.Unfit) :
    (t.decoder o d).toOption = none := by
  cases unfit with
  | float x | unreadable wanted skipped | object fields stop =>
    cases t with
    | boolean | int32 | int64 | natural32 | natural64 | optionalInt64 | texts => rfl
  | @list items d mem other stop =>
    cases t with
    | boolean | int32 | int64 | natural32 | natural64 | optionalInt64 => rfl
    | texts =>
      show (Json.list Json.text o (.arr items stop)).toOption = none
      rw [Json.list]
      cases o.enter with
      | error e => rfl
      | ok inner =>
        obtain ⟨e, fails⟩ := eachItem_text_of_other (o := inner) mem other
        show (eachItem (Json.text inner) items >>= _).toOption = none
        rw [fails]
        rfl

theorem toOption_map_none {α β : Type} {f : α → β} {x : Except DecodeError α}
    (fails : x.toOption = none) : (f <$> x).toOption = none := by
  cases x with
  | error e => rfl
  | ok a => cases fails

theorem intWithin_of_beyond (o : Origin) {n : Int} (beyond : ¬(Json.int n).IsWhole)
    (expected : String) (low high : Int) (least : -0x8000000000000000 ≤ low)
    (greatest : high ≤ (maxWord : Int)) :
    (intWithin low high expected o (.int n)).toOption = none := by
  have outside : ¬(low ≤ n ∧ n ≤ high) := by
    rintro ⟨above, below⟩
    exact beyond ⟨Int.le_trans least above, Int.le_trans below greatest⟩
  rw [intWithin, if_neg outside]
  rfl

/-- No setting is a whole number that does not fit 64 bits. -/
theorem decoder_of_beyond (t : SettingType) (o : Origin) {n : Int}
    (beyond : ¬(Json.int n).IsWhole) : (t.decoder o (.int n)).toOption = none := by
  have fails := intWithin_of_beyond o beyond
  cases t with
  | boolean | texts => rfl
  | int32 => exact fails "i32" _ _ (by decide) (by decide)
  | int64 => exact fails "i64" _ _ (by decide) (by decide)
  | natural32 => exact toOption_map_none (fails "u32" _ _ (by decide) (by decide))
  | natural64 => exact toOption_map_none (fails "u64" _ _ (by decide) (by decide))
  | optionalInt64 => exact toOption_map_none (fails "i64" _ _ (by decide) (by decide))

theorem mem_draftItems {items : List Json} {v : Json} (mem : v ∈ items) :
    toDraft v ∈ draftItems items := by
  induction items with
  | nil => cases mem
  | cons item items ih =>
    rw [draftItems]
    obtain rfl | mem := List.mem_cons.1 mem
    · exact List.mem_cons_self
    · exact List.mem_cons_of_mem _ (ih mem)

theorem not_isText_toDraft {v : Json} (other : ∀ s, v ≠ .str s) : ¬(toDraft v).IsText := by
  cases v with
  | str s => exact absurd rfl (other s)
  | null | bool | int | float | arr | obj =>
    rw [toDraft]
    exact id

/-- **No setting is decoded from a value with a number that is not whole.** -/
theorem decode_of_fractional (t : SettingType) {v : Json} (fractional : ¬v.IsWhole) :
    (Json.decode t.decoder v).toOption = none := by
  unfold Json.decode
  cases v with
  | null | bool | str => exact absurd trivial fractional
  | int n => exact t.decoder_of_beyond .value fractional
  | float x => exact t.decoder_unfit .value (.float x)
  | arr items =>
    obtain ⟨v, mem, other⟩ := exists_other_of_fractional fractional
    rw [toDraft]
    exact t.decoder_unfit .value (.list (mem_draftItems mem) (not_isText_toDraft other) none)
  | obj fields => exact t.decoder_unfit .value (.object _ none)

/-! ## Decoding the text of a value -/

theorem decodeText_of_fractional (t : SettingType) {v : Json} (fractional : ¬v.IsWhole) :
    (decodeText t.decoder v.compact).toOption = none := by
  have unfit := unfit_readDraft isBlank_compactStyle 0 fractional
  have fails := t.decoder_unfit (.text maxDepth) unfit
  rw [decodeText, compact, String.toList_ofList, decodeChars]
  dsimp only
  cases decoded : t.decoder (.text maxDepth) (readDraft (write compactStyle 0 v [])).1 with
  | error e => rfl
  | ok a =>
    rw [decoded] at fails
    cases fails

theorem decodeText_of_whole (t : SettingType) {v : Json} (whole : v.IsWhole) :
    (decodeText t.decoder v.compact).toOption = (Json.decode t.decoder v).toOption := by
  have nothing : Blank [] := nofun
  have draft := readDraft_write isBlank_compactStyle 0 whole nothing nothing
  rw [List.nil_append] at draft
  rw [decodeText, compact, String.toList_ofList, decodeChars, draft]
  dsimp only
  rw [maxDepth, t.decoder_anywhere, Json.decode]
  cases t.decoder .value (toDraft v) with
  | error e => rfl
  | ok a => rfl

/-- **The text of a value is decoded as the value is.** -/
theorem decodeText_compact (t : SettingType) (v : Json) :
    (decodeText t.decoder v.compact).toOption = (Json.decode t.decoder v).toOption := by
  -- A value with other numbers may be read as anything unfit, so it is not read back as itself.
  by_cases whole : v.IsWhole
  · exact t.decodeText_of_whole whole
  · rw [t.decodeText_of_fractional whole, t.decode_of_fractional whole]

/-! ## Binding -/

theorem convert?_str (t : SettingType) (s : String) :
    (Json.str s).convert? t.decoder = (decodeText t.decoder (Text.trim s)).toOption := by
  have direct : (Json.decode t.decoder (.str s)).toOption = none := t.decoder_str .value s
  rw [convert?, direct, Option.none_or]
  rfl

theorem convert?_of_other (t : SettingType) {v : Json} (other : ∀ s, v ≠ .str s) :
    v.convert? t.decoder = (Json.decode t.decoder v).toOption := by
  have indirect : convertIndirectly? t.decoder v = none := by
    cases v with
    | str s => exact absurd rfl (other s)
    | int | float | bool => exact t.decoder_str .value _
    | null | arr | obj => rfl
  rw [convert?, indirect, Option.or_none]

end SettingType

namespace Json

/-! ## The ends of a written value -/

section
variable {style : Style}

theorem suffix_writeText (s : String) (rest : List Char) : rest <:+ writeText s rest := by
  have closed : rest <:+ '"' :: rest := List.suffix_cons _ _
  exact (closed.trans (List.suffix_append _ _)).trans (List.suffix_cons _ _)

theorem suffix_writeInt (n : Int) (rest : List Char) : rest <:+ writeInt n rest := by
  cases n with
  | ofNat n => exact List.suffix_append _ _
  | negSucc n => exact (List.suffix_append _ _).trans (List.suffix_cons _ _)

mutual

/-- A value is written in front of what follows it. -/
theorem suffix_write (depth : Nat) :
    ∀ (v : Json) (rest : List Char), rest <:+ write style depth v rest
  | .null, rest => by
    rw [write]
    exact ⟨['n', 'u', 'l', 'l'], rfl⟩
  | .bool true, rest => by
    rw [write]
    exact ⟨['t', 'r', 'u', 'e'], rfl⟩
  | .bool false, rest => by
    rw [write]
    exact ⟨['f', 'a', 'l', 's', 'e'], rfl⟩
  | .int n, rest => by
    rw [write]
    exact suffix_writeInt n rest
  | .float x, rest => by
    rw [write]
    exact List.suffix_append _ rest
  | .str s, rest => by
    rw [write]
    exact suffix_writeText s rest
  | .arr items, rest => (List.suffix_cons _ _).trans (suffix_write_arr depth items rest)
  | .obj fields, rest => (List.suffix_cons _ _).trans (suffix_write_obj depth fields rest)

/-- A list ends with its closing bracket. -/
theorem suffix_write_arr (depth : Nat) :
    ∀ (items : List Json) (rest : List Char), ']' :: rest <:+ write style depth (.arr items) rest
  | [], rest => by
    rw [write]
    exact List.suffix_cons _ _
  | item :: items, rest => by
    have closed : ']' :: rest <:+ style.gap depth ++ ']' :: rest := List.suffix_append _ _
    have written := (closed.trans (suffix_writeItems (depth + 1) items _)).trans
      (suffix_write (depth + 1) item _)
    rw [write]
    exact (written.trans (List.suffix_append _ _)).trans (List.suffix_cons _ _)

/-- An object ends with its closing bracket. -/
theorem suffix_write_obj (depth : Nat) :
    ∀ (fields : List (String × Json)) (rest : List Char),
      '\x7d' :: rest <:+ write style depth (.obj fields) rest
  | [], rest => by
    rw [write]
    exact List.suffix_cons _ _
  | (key, value) :: fields, rest => by
    have closed : '\x7d' :: rest <:+ style.gap depth ++ '\x7d' :: rest := List.suffix_append _ _
    have written := (closed.trans (suffix_writeFields (depth + 1) fields _)).trans
      (suffix_write (depth + 1) value _)
    have named := (written.trans (List.suffix_append style.afterColon _)).trans
      (List.suffix_cons ':' _)
    rw [write]
    exact ((named.trans (suffix_writeText key _)).trans (List.suffix_append _ _)).trans
      (List.suffix_cons _ _)

theorem suffix_writeItems (depth : Nat) :
    ∀ (items : List Json) (rest : List Char), rest <:+ writeItems style depth items rest
  | [], rest => List.suffix_refl rest
  | item :: items, rest => by
    have written := (suffix_writeItems depth items rest).trans (suffix_write depth item _)
    rw [writeItems]
    exact (written.trans (List.suffix_append _ _)).trans (List.suffix_cons _ _)

theorem suffix_writeFields (depth : Nat) :
    ∀ (fields : List (String × Json)) (rest : List Char),
      rest <:+ writeFields style depth fields rest
  | [], rest => List.suffix_refl rest
  | (key, value) :: fields, rest => by
    have written := (suffix_writeFields depth fields rest).trans (suffix_write depth value _)
    have named := (written.trans (List.suffix_append style.afterColon _)).trans
      (List.suffix_cons ':' _)
    rw [writeFields]
    exact ((named.trans (suffix_writeText key _)).trans (List.suffix_append _ _)).trans
      (List.suffix_cons _ _)

end

end

theorem isTrimmed_writeInt (n : Int) : Text.IsTrimmed (writeInt n []) := by
  have digits (k : Nat) : ∀ c ∈ Nat.toDigits 10 k ++ [], Text.isBlank c = false := by
    intro c mem
    rw [List.append_nil] at mem
    exact Text.isBlank_of_isDigit (Text.isDigit_of_mem_toDigits c mem)
  cases n with
  | ofNat n => exact Text.isTrimmed_of_forall (digits n)
  | negSucc n => exact Text.isTrimmed_of_forall (List.forall_mem_cons.2 ⟨by decide, digits (n + 1)⟩)

theorem isTrimmed_writeFloat (x : Float) : Text.IsTrimmed (floatLayout.writeFloat x) := by
  have solid := (Decimal.writesDouble_write floatLayout x).solid
  rw [Decimal.Layout.writeFloat]
  split
  · exact Text.isTrimmed_of_forall (List.forall_mem_cons.2 ⟨by decide, solid⟩)
  · exact Text.isTrimmed_of_forall solid

theorem isTrimmed_of_ends {cs : List Char} {first last : Char} (head : cs.head? = some first)
    (tail : [last] <:+ cs) (solid : Text.isBlank first = false ∧ Text.isBlank last = false) :
    Text.IsTrimmed cs where
  first := by
    intro c there
    rw [head] at there
    cases there
    exact solid.1
  last := by
    obtain ⟨front, rfl⟩ := tail
    intro c there
    rw [List.getLast?_concat] at there
    cases there
    exact solid.2

/-- **The text of a value neither begins nor ends with a blank.** -/
theorem isTrimmed_compact (v : Json) : Text.IsTrimmed v.compact.toList := by
  rw [compact, String.toList_ofList]
  cases v with
  | null => exact Text.isTrimmed_of_any rfl
  | bool b =>
    cases b with
    | true => exact Text.isTrimmed_of_any rfl
    | false => exact Text.isTrimmed_of_any rfl
  | int n => exact isTrimmed_writeInt n
  | float x =>
    rw [write, List.append_nil]
    exact isTrimmed_writeFloat x
  | str s =>
    have closed : ['"'] <:+ writeText s [] := (List.suffix_append _ _).trans (List.suffix_cons _ _)
    exact isTrimmed_of_ends rfl closed (by decide)
  | arr items =>
    have opened : (write compactStyle 0 (.arr items) []).head? = some '[' := by
      cases items with
      | nil | cons => rfl
    exact isTrimmed_of_ends opened (suffix_write_arr 0 items []) (by decide)
  | obj fields =>
    have opened : (write compactStyle 0 (.obj fields) []).head? = some '\x7b' := by
      cases fields with
      | nil | cons => rfl
    exact isTrimmed_of_ends opened (suffix_write_obj 0 fields []) (by decide)

end Json

/-- **A setting that is written as a text binds as the value itself**: for every type of settings,
the JSON text of a value that is not a text, with any blanks around it, binds just if the value
does, and to the same. -/
theorem text_binds_as_value (t : SettingType) {v : Json} (other : ∀ s, v ≠ .str s)
    {before after : String} (front : Text.allBlank before = true)
    (back : Text.allBlank after = true) :
    (Json.str (before ++ v.compact ++ after)).convert? t.decoder = v.convert? t.decoder := by
  have trimmed : Text.trim (before ++ v.compact ++ after) = v.compact := by
    rw [Text.trim, String.toList_append, String.toList_append, List.append_assoc,
      Text.trimChars_around front v.isTrimmed_compact back, String.ofList_toList]
  rw [t.convert?_str, trimmed, t.decodeText_compact, t.convert?_of_other other]

/-- The least number of 64 bits binds from its text with blanks around it, a list of texts does from
its own, and a list that holds a number does not. -/
theorem texts_bind_as_values :
    (Json.str ("\t" ++ (Json.int (-0x8000000000000000)).compact ++ "\u3000")).convert? Json.int64 =
        some (-0x8000000000000000) ∧
      (Json.str ("" ++ (Json.texts ["a\"", "[b"]).compact ++ "\n")).convert? (Json.list Json.text) =
        some ["a\"", "[b"] ∧
      (Json.str (" " ++ (Json.arr [.str "a", .arr [.float 0.5]]).compact ++ "")).convert?
        (Json.list Json.text) = none :=
  ⟨(text_binds_as_value .int64 (by simp) (by decide) (by decide)).trans rfl,
    (text_binds_as_value .texts (by simp [Json.texts]) (by decide) (by decide)).trans rfl,
    (text_binds_as_value .texts (by simp) (by decide) (by decide)).trans rfl⟩

end FlowGraph
