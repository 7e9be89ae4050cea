import FlowGraph.Json.Reading
import FlowGraph.Json.Text

/-!
# What written values are cut into

However a value is laid out, its text is cut into the same tokens: blanks separate tokens and are
passed over, every escape is read back as the character it stands for, and a number ends where
the next token begins. `tokensOf` tells these tokens of a value; `tokens_write` says that they are
what cutting finds, for values whose numbers are whole and fit 64 bits.
-/

namespace FlowGraph.Json

/-! ## Values whose numbers are whole -/

mutual

/-- Every number inside the value is whole and fits 64 bits, with a sign or without. -/
def IsWhole : Json → Prop
  | .int n => -0x8000000000000000 ≤ n ∧ n ≤ (maxWord : Int)
  | .float _ => False
  | .arr items => WholeItems items
  | .obj fields => WholeFields fields
  | .null | .bool _ | .str _ => True

/-- `IsWhole` of every item. -/
def WholeItems : List Json → Prop
  | [] => True
  | item :: rest => IsWhole item ∧ WholeItems rest

/-- `IsWhole` of every field's value. -/
def WholeFields : List (String × Json) → Prop
  | [] => True
  | (_, value) :: rest => IsWhole value ∧ WholeFields rest

end

theorem wholeItems_iff {items : List Json} : WholeItems items ↔ ∀ v ∈ items, v.IsWhole := by
  induction items with
  | nil => simp [WholeItems]
  | cons item rest ih => simp [WholeItems, ih]

theorem wholeFields_iff {fields : List (String × Json)} :
    WholeFields fields ↔ ∀ e ∈ fields, e.2.IsWhole := by
  induction fields with
  | nil => simp [WholeFields]
  | cons field rest ih =>
    obtain ⟨key, value⟩ := field
    simp [WholeFields, ih]

/-- A number of 32 bits with a sign is whole. -/
theorem isWhole_int32 {n : Int} (within : -0x80000000 ≤ n ∧ n ≤ 0x7fffffff) : (int n).IsWhole := by
  obtain ⟨low, high⟩ := within
  constructor
  · omega
  · simp only [maxWord]
    omega

/-- A number of 64 bits without a sign is whole. -/
theorem isWhole_natural64 {n : Nat} (within : n < UInt64.size) : (int n).IsWhole := by
  constructor
  · omega
  · simp only [UInt64.size] at within
    simp only [maxWord]
    omega

theorem isWhole_natural32 {n : Nat} (within : n < UInt32.size) : (int n).IsWhole :=
  isWhole_natural64 (Nat.lt_trans within (by decide))

theorem isWhole_map {α : Type} {encode : α → Json} {as : List α}
    (whole : ∀ a ∈ as, (encode a).IsWhole) : (arr (as.map encode)).IsWhole := by
  refine wholeItems_iff.2 ?_
  intro v mem
  obtain ⟨a, there, rfl⟩ := List.mem_map.1 mem
  exact whole a there

mutual

/-- The tokens of a value, in front of the tokens of what follows it. -/
def tokensOf : Json → List Token → List Token
  | .null, rest => .plain .null :: rest
  | .bool b, rest => .plain (.bool b) :: rest
  | .int n, rest => .plain (.int n) :: rest
  | .float x, rest => .plain (.float x) :: rest
  | .str s, rest => .text (some s) :: rest
  | .arr [], rest => .openList :: .closeList :: rest
  | .arr (item :: items), rest =>
    .openList :: tokensOf item (tokensOfItems items (.closeList :: rest))
  | .obj [], rest => .openObject :: .closeObject :: rest
  | .obj ((key, value) :: fields), rest =>
    .openObject :: .text (some key) :: .colon ::
      tokensOf value (tokensOfFields fields (.closeObject :: rest))

/-- The tokens of the items after the first one. -/
def tokensOfItems : List Json → List Token → List Token
  | [], rest => rest
  | item :: items, rest => .comma :: tokensOf item (tokensOfItems items rest)

/-- The tokens of the fields after the first one. -/
def tokensOfFields : List (String × Json) → List Token → List Token
  | [], rest => rest
  | (key, value) :: fields, rest =>
    .comma :: .text (some key) :: .colon :: tokensOf value (tokensOfFields fields rest)

end

/-! ## Blanks and single characters -/

/-- Nothing but blanks. -/
def Blank (cs : List Char) : Prop := ∀ c ∈ cs, isGap c = true

/-- A style that puts nothing but blanks between tokens. -/
structure Style.IsBlank (style : Style) : Prop where
  gap : ∀ depth, Blank (style.gap depth)
  afterColon : Blank style.afterColon

theorem isBlank_compactStyle : compactStyle.IsBlank where
  gap _ := nofun
  afterColon := nofun

theorem isBlank_indentedStyle : indentedStyle.IsBlank where
  gap depth := by
    intro c mem
    rcases List.mem_cons.1 mem with rfl | blank
    · rfl
    · rw [List.eq_of_mem_replicate blank]
      rfl
  afterColon := by
    intro c mem
    rw [List.mem_singleton.1 mem]
    rfl

theorem tokens_nil : tokens [] = [] := by
  rw [tokens]

/-- A character that is no blank begins a token. -/
theorem tokens_cons {c : Char} (h : isGap c = false) (cs : List Char) :
    tokens (c :: cs) = (readToken c cs).1 :: tokens (readToken c cs).2 := by
  rw [tokens, h]
  rfl

/-- Blanks are passed over. -/
theorem tokens_blank {bs : List Char} (blank : Blank bs) (cs : List Char) :
    tokens (bs ++ cs) = tokens cs := by
  induction bs with
  | nil => rfl
  | cons b bs ih =>
    obtain ⟨gap, rest⟩ := List.forall_mem_cons.1 blank
    rw [List.cons_append, tokens, gap]
    exact ih rest

/-- A token that takes one character only. -/
theorem tokens_single {c : Char} {token : Token} (h : isGap c = false)
    (reads : ∀ cs, readToken c cs = (token, cs)) (cs : List Char) :
    tokens (c :: cs) = token :: tokens cs := by
  rw [tokens_cons h, reads cs]

theorem tokens_openList (cs : List Char) : tokens ('[' :: cs) = .openList :: tokens cs :=
  tokens_single rfl (fun _ => rfl) cs

theorem tokens_closeList (cs : List Char) : tokens (']' :: cs) = .closeList :: tokens cs :=
  tokens_single rfl (fun _ => rfl) cs

theorem tokens_openObject (cs : List Char) :
    tokens ('\x7b' :: cs) = .openObject :: tokens cs :=
  tokens_single rfl (fun _ => rfl) cs

theorem tokens_closeObject (cs : List Char) :
    tokens ('\x7d' :: cs) = .closeObject :: tokens cs :=
  tokens_single rfl (fun _ => rfl) cs

theorem tokens_colon (cs : List Char) : tokens (':' :: cs) = .colon :: tokens cs :=
  tokens_single rfl (fun _ => rfl) cs

theorem tokens_comma (cs : List Char) : tokens (',' :: cs) = .comma :: tokens cs :=
  tokens_single rfl (fun _ => rfl) cs

theorem tokens_null (cs : List Char) :
    tokens ('n' :: 'u' :: 'l' :: 'l' :: cs) = .plain .null :: tokens cs := by
  rw [tokens_cons rfl]
  rfl

theorem tokens_true (cs : List Char) :
    tokens ('t' :: 'r' :: 'u' :: 'e' :: cs) = .plain (.bool true) :: tokens cs := by
  rw [tokens_cons rfl]
  rfl

theorem tokens_false (cs : List Char) :
    tokens ('f' :: 'a' :: 'l' :: 's' :: 'e' :: cs) = .plain (.bool false) :: tokens cs := by
  rw [tokens_cons rfl]
  rfl

/-! ## Texts -/

/-- The four digits of a control character name it. -/
theorem readText_unit {c : Char} (control : c.toNat < 0x20) (done : List Char) (cs : List Char) :
    readText (.unit none 4 0) (some done)
        ('0' :: '0' :: Text.hexDigit (Fin.ofNat 16 (c.toNat / 16)) ::
          Text.hexDigit (Fin.ofNat 16 c.toNat) :: cs) =
      readText (.open none) (some (c :: done)) cs := by
  have zero : Text.hexValue? '0' = some 0 := by decide
  have high : c.toNat / 16 % 16 = c.toNat / 16 := Nat.mod_eq_of_lt (by omega)
  have number : c.toNat / 16 * 16 + c.toNat % 16 = c.toNat := by omega
  simp [readText, zero, Text.hexValue?_hexDigit, Fin.ofNat, high, number, isHighUnit, isLowUnit,
    Nat.not_le_of_lt (Nat.lt_trans control (by decide : 0x20 < 0xD800)),
    Nat.not_le_of_lt (Nat.lt_trans control (by decide : 0x20 < 0xDC00)), Char.ofNat_toNat]

/-- **A character is read back from its escape.** -/
theorem readText_escape (c : Char) (done : List Char) (cs : List Char) :
    readText (.open none) (some done) (escape c ++ cs) =
      readText (.open none) (some (c :: done)) cs := by
  unfold escape
  split
  case h_8 quote backslash _ _ _ _ _ =>
    split
    · exact readText_unit ‹_› done cs
    · have plain : ¬ c.toNat < 0x20 := ‹_›
      have quote : c ≠ '"' := quote
      have backslash : c ≠ '\\' := backslash
      simp [readText, quote, backslash, plain]
  all_goals rfl

theorem readText_escapes (s : List Char) (done : List Char) (cs : List Char) :
    readText (.open none) (some done) (s.flatMap escape ++ '"' :: cs) =
      (.text (some (String.ofList (done.reverse ++ s))), cs) := by
  induction s generalizing done with
  | nil => simp [readText]
  | cons c s ih =>
    rw [List.flatMap_cons, List.append_assoc, readText_escape, ih]
    simp

/-- A written text is cut into one token. -/
theorem tokens_writeText (s : String) (rest : List Char) :
    tokens (writeText s rest) = .text (some s) :: tokens rest := by
  have read : readToken '"' (s.toList.flatMap escape ++ '"' :: rest) = (.text (some s), rest) := by
    show readText (.open none) (some []) _ = _
    rw [readText_escapes, List.reverse_nil, List.nil_append, String.ofList_toList]
  rw [writeText, tokens_cons rfl, read]

/-! ## Numbers -/

/-- No number goes on with this. -/
def EndsNumber (rest : List Char) : Prop :=
  ∀ c ∈ rest.head?, c.isDigit = false ∧ c ≠ '.' ∧ c ≠ 'e' ∧ c ≠ 'E'

theorem endsNumber_nil : EndsNumber [] := nofun

/-- No number goes on with a character that is a blank or that stands between values. -/
theorem endsNumber_cons {c : Char} (rest : List Char)
    (h : isGap c = true ∨ c = ',' ∨ c = ']' ∨ c = '\x7d') : EndsNumber (c :: rest) := by
  rintro _ ⟨⟩
  rcases h with gap | rfl | rfl | rfl
  · simp only [isGap, Bool.or_eq_true, beq_iff_eq, or_assoc] at gap
    rcases gap with rfl | rfl | rfl | rfl
    all_goals decide
  all_goals decide

/-- No number goes on with blanks if it does not with what follows them. -/
theorem EndsNumber.blank {bs rest : List Char} (blank : Blank bs) (ends : EndsNumber rest) :
    EndsNumber (bs ++ rest) := by
  cases bs with
  | nil => exact ends
  | cons b bs => exact endsNumber_cons _ (.inl (blank b List.mem_cons_self))

/-- The decimal digits of a number, as numbers. -/
def digitsOf (n : Nat) : List Nat := (Nat.toDigits 10 n).map fun c => c.toNat - '0'.toNat

theorem digitsOf_of_lt {n : Nat} (h : n < 10) : digitsOf n = [n] := by
  rw [digitsOf, Nat.toDigits_of_lt_base h, List.map_singleton]
  exact congrArg (fun d => [d]) (Nat.toNat_digitChar_sub_48_of_lt_ten h)

theorem digitsOf_of_le {n : Nat} (h : 10 ≤ n) : digitsOf n = digitsOf (n / 10) ++ [n % 10] := by
  have last : (Nat.digitChar (n % 10)).toNat - '0'.toNat = n % 10 :=
    Nat.toNat_digitChar_sub_48_of_lt_ten (Nat.mod_lt n (by decide))
  rw [digitsOf, Nat.toDigits_of_base_le (by decide) h, List.map_append, List.map_singleton, last]
  rfl

theorem digitsOf_ne_nil (n : Nat) : digitsOf n ≠ [] := by
  rw [digitsOf, ne_eq, List.map_eq_nil_iff]
  exact Nat.toDigits_ne_nil

/-- A number above zero does not begin with a zero. -/
theorem head?_digitsOf {n : Nat} (positive : 0 < n) : (digitsOf n).head? ≠ some 0 := by
  induction n using Nat.strongRecOn with
  | ind n ih =>
    by_cases h : n < 10
    · rw [digitsOf_of_lt h]
      intro same
      exact absurd (Option.some.inj same) (Nat.ne_of_gt positive)
    · obtain ⟨d, ds, front⟩ := List.exists_cons_of_ne_nil (digitsOf_ne_nil (n / 10))
      have head := ih (n / 10) (by omega) (by omega)
      rw [front] at head
      rw [digitsOf_of_le (Nat.le_of_not_lt h), front]
      exact head

/-- Only zero begins with a zero, and then it has no other digit. -/
theorem digitsOf_ne_zero_cons (n d : Nat) (ds : List Nat) : digitsOf n ≠ 0 :: d :: ds := by
  intro same
  by_cases h : n = 0
  · rw [h, digitsOf_of_lt (by decide)] at same
    cases same
  · have head := head?_digitsOf (Nat.pos_of_ne_zero h)
    rw [same] at head
    exact head rfl

/-- One more digit fits if the number with it does. -/
theorem fit_append {n m d : Nat} {ds : List Nat} (h : fit n ds = (m, []))
    (within : m * 10 + d ≤ maxWord) : fit n (ds ++ [d]) = (m * 10 + d, []) := by
  induction ds generalizing n with
  | nil =>
    cases h
    rw [List.nil_append, fit, if_pos within, fit]
  | cons e ds ih =>
    rw [fit] at h
    split at h
    · rw [List.cons_append, fit, if_pos ‹_›]
      exact ih h
    · cases h

/-- A number of 64 bits is read back from its digits. -/
theorem fit_digitsOf {n : Nat} (within : n ≤ maxWord) : fit 0 (digitsOf n) = (n, []) := by
  induction n using Nat.strongRecOn with
  | ind n ih =>
    by_cases h : n < 10
    · rw [digitsOf_of_lt h, fit, Nat.zero_mul, Nat.zero_add, if_pos within, fit]
    · have front := ih (n / 10) (by omega) (by omega)
      have whole : n / 10 * 10 + n % 10 = n := by omega
      rw [digitsOf_of_le (Nat.le_of_not_lt h), fit_append front (by omega), whole]

theorem takeDigits_toDigits (n : Nat) {rest : List Char} (ends : EndsNumber rest) :
    takeDigits (Nat.toDigits 10 n ++ rest) = (digitsOf n, rest) := by
  have digits : ∀ c ∈ Nat.toDigits 10 n, c.isDigit = true := fun c mem =>
    Nat.isDigit_of_mem_toDigits (by decide) (by decide) mem
  have stops : rest.takeWhile Char.isDigit = [] ∧ rest.dropWhile Char.isDigit = rest := by
    cases rest with
    | nil => exact ⟨rfl, rfl⟩
    | cons c cs =>
      have other := (ends c rfl).1
      simp [other]
  rw [takeDigits, List.takeWhile_append_of_pos digits, List.dropWhile_append_of_pos digits,
    stops.1, stops.2, List.append_nil]
  rfl

/-- The digits of a number are read to their end. -/
theorem readNumber_toDigits (negative : Bool) (n : Nat) {rest : List Char}
    (ends : EndsNumber rest) :
    readNumber negative (Nat.toDigits 10 n ++ rest) =
      (numberToken ⟨negative, digitsOf n, none, none⟩, rest) := by
  unfold readNumber
  rw [takeDigits_toDigits n ends]
  split
  · rename_i same
    exact absurd (congrArg Prod.fst same) (digitsOf_ne_nil n)
  · rename_i same
    exact absurd (congrArg Prod.fst same) (digitsOf_ne_zero_cons n _ _)
  · rename_i same
    obtain ⟨-, rfl⟩ := Prod.mk.inj same
    exact absurd rfl (ends '.' rfl).2.1
  · rename_i same
    obtain ⟨rfl, rfl⟩ := Prod.mk.inj same
    unfold readExponent
    split
    · exact absurd rfl (ends 'e' rfl).2.2.1
    · exact absurd rfl (ends 'E' rfl).2.2.2
    · rfl

/-- The digits of a number of 64 bits without sign spell it. -/
theorem value_digitsOf {n : Nat} (within : n ≤ maxWord) :
    Spelling.value ⟨false, digitsOf n, none, none⟩ = .whole n := by
  simp [Spelling.value, fit_digitsOf within]

/-- A minus and the digits of a number that has 64 bits with its sign spell its negative. -/
theorem value_negative {n : Nat} (positive : 0 < n) (within : n ≤ 0x8000000000000000) :
    Spelling.value ⟨true, digitsOf n, none, none⟩ = .whole (-n) := by
  have word : n ≤ maxWord := Nat.le_trans within (by decide)
  have size : ¬ (n = 0 ∨ n > 0x8000000000000000) := by omega
  simp only [Spelling.value, fit_digitsOf word, if_neg size, Bool.not_true, Bool.false_eq_true,
    if_false]

theorem isGap_of_isDigit {c : Char} (digit : c.isDigit = true) : isGap c = false := by
  rw [Bool.eq_false_iff]
  intro gap
  simp only [isGap, Bool.or_eq_true, beq_iff_eq, or_assoc] at gap
  rcases gap with rfl | rfl | rfl | rfl
  all_goals cases digit

/-- A token that begins with a digit is a number. -/
theorem readToken_of_isDigit {c : Char} (digit : c.isDigit = true) (cs : List Char) :
    readToken c cs = readNumber false (c :: cs) := by
  unfold readToken
  split
  case h_12 => exact if_pos digit
  all_goals cases digit

/-- A written whole number is cut into one token. -/
theorem tokens_writeInt {n : Int} (whole : (Json.int n).IsWhole) {rest : List Char}
    (ends : EndsNumber rest) : tokens (writeInt n rest) = .plain (.int n) :: tokens rest := by
  obtain ⟨low, high⟩ : -0x8000000000000000 ≤ n ∧ n ≤ (maxWord : Int) := whole
  cases n with
  | ofNat n =>
    have within : n ≤ maxWord := Int.ofNat_le.1 high
    obtain ⟨c, cs, digits⟩ := List.exists_cons_of_ne_nil (Nat.toDigits_ne_nil (n := n) (b := 10))
    have digit : c.isDigit = true :=
      Nat.isDigit_of_mem_toDigits (b := 10) (n := n) (by decide) (by decide) (by simp [digits])
    have number := readNumber_toDigits false n ends
    rw [numberToken, value_digitsOf within] at number
    rw [writeInt]
    rw [digits, List.cons_append] at number ⊢
    rw [tokens_cons (isGap_of_isDigit digit), readToken_of_isDigit digit, number]
    rfl
  | negSucc n =>
    have within : n + 1 ≤ 0x8000000000000000 := by omega
    have number := readNumber_toDigits true (n + 1) ends
    rw [numberToken, value_negative (Nat.succ_pos n) within] at number
    have read : readToken '-' (Nat.toDigits 10 (n + 1) ++ rest) = _ := number
    rw [writeInt, tokens_cons rfl, read]
    rfl

/-! ## Whole values -/

section
variable {style : Style} {rest : List Char}

theorem endsNumber_writeItems (depth : Nat) (items : List Json) (ends : EndsNumber rest) :
    EndsNumber (writeItems style depth items rest) := by
  cases items with
  | nil =>
    rw [writeItems]
    exact ends
  | cons item items =>
    rw [writeItems]
    exact endsNumber_cons _ (.inr (.inl rfl))

theorem endsNumber_writeFields (depth : Nat) (fields : List (String × Json))
    (ends : EndsNumber rest) : EndsNumber (writeFields style depth fields rest) := by
  cases fields with
  | nil =>
    rw [writeFields]
    exact ends
  | cons field fields =>
    rw [writeFields]
    exact endsNumber_cons _ (.inr (.inl rfl))

mutual

/-- **A written value is cut into its tokens**, in whatever style and in front of whatever does
not go on with a number. -/
theorem tokens_write (blank : style.IsBlank) (depth : Nat) :
    ∀ (v : Json) {rest : List Char}, v.IsWhole → EndsNumber rest →
      tokens (write style depth v rest) = tokensOf v (tokens rest)
  | .null, rest, _, _ => by
    rw [write, tokensOf]
    exact tokens_null rest
  | .bool true, rest, _, _ => by
    rw [write, tokensOf]
    exact tokens_true rest
  | .bool false, rest, _, _ => by
    rw [write, tokensOf]
    exact tokens_false rest
  | .int n, rest, whole, ends => by
    rw [write, tokensOf]
    exact tokens_writeInt whole ends
  | .float _, _, whole, _ => nomatch whole
  | .str s, rest, _, _ => by
    rw [write, tokensOf]
    exact tokens_writeText s rest
  | .arr [], rest, _, _ => by
    rw [write, tokensOf, tokens_openList, tokens_closeList]
  | .arr (item :: items), rest, whole, _ => by
    have close : EndsNumber (style.gap depth ++ ']' :: rest) :=
      .blank (blank.gap depth) (endsNumber_cons _ (.inr (.inr (.inl rfl))))
    rw [write, tokensOf, tokens_openList, tokens_blank (blank.gap (depth + 1)),
      tokens_write blank (depth + 1) item whole.1 (endsNumber_writeItems _ items close),
      tokens_writeItems blank (depth + 1) items whole.2 close, tokens_blank (blank.gap depth),
      tokens_closeList]
  | .obj [], rest, _, _ => by
    rw [write, tokensOf, tokens_openObject, tokens_closeObject]
  | .obj ((key, value) :: fields), rest, whole, _ => by
    have close : EndsNumber (style.gap depth ++ '\x7d' :: rest) :=
      .blank (blank.gap depth) (endsNumber_cons _ (.inr (.inr (.inr rfl))))
    rw [write, tokensOf, tokens_openObject, tokens_blank (blank.gap (depth + 1)),
      tokens_writeText, tokens_colon, tokens_blank blank.afterColon,
      tokens_write blank (depth + 1) value whole.1 (endsNumber_writeFields _ fields close),
      tokens_writeFields blank (depth + 1) fields whole.2 close, tokens_blank (blank.gap depth),
      tokens_closeObject]

theorem tokens_writeItems (blank : style.IsBlank) (depth : Nat) :
    ∀ (items : List Json) {rest : List Char}, WholeItems items → EndsNumber rest →
      tokens (writeItems style depth items rest) = tokensOfItems items (tokens rest)
  | [], rest, _, _ => by
    rw [writeItems, tokensOfItems]
  | item :: items, rest, whole, ends => by
    rw [writeItems, tokensOfItems, tokens_comma, tokens_blank (blank.gap depth),
      tokens_write blank depth item whole.1 (endsNumber_writeItems _ items ends),
      tokens_writeItems blank depth items whole.2 ends]

theorem tokens_writeFields (blank : style.IsBlank) (depth : Nat) :
    ∀ (fields : List (String × Json)) {rest : List Char}, WholeFields fields → EndsNumber rest →
      tokens (writeFields style depth fields rest) = tokensOfFields fields (tokens rest)
  | [], rest, _, _ => by
    rw [writeFields, tokensOfFields]
  | (key, value) :: fields, rest, whole, ends => by
    rw [writeFields, tokensOfFields, tokens_comma, tokens_blank (blank.gap depth),
      tokens_writeText, tokens_colon, tokens_blank blank.afterColon,
      tokens_write blank depth value whole.1 (endsNumber_writeFields _ fields ends),
      tokens_writeFields blank depth fields whole.2 ends]

end

end

end FlowGraph.Json
