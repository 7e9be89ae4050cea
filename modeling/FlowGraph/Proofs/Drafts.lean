import FlowGraph.Json.Decode
import FlowGraph.Proofs.Tokens

/-!
# The draft of a written value

Reading hands every finished value to the innermost open bracket. The tokens of a value, read
where a value may stand, come to nothing but handing that value over (`readFrom_tokensOf`),
whatever brackets are open around it; so the draft that is read from a written value is the one
that the value has at hand, and nothing is left of the text.
-/

namespace FlowGraph.Json

/-- What comes of the tokens after a value that is handed to the innermost bracket. -/
def handOver (value : Draft) (stack : List Frame) (rest : List Token) :
    Draft × Option (List Token) :=
  match deliver value stack with
  | .next p => readFrom p rest
  | .finished value => (value, some rest)
  | .stopped value => (value, none)

/-- A token that is a value is handed over. -/
theorem readFrom_value {value : Draft} {token : Token} {stack : List Frame}
    (starts : startValue stack token = deliver value stack) (rest : List Token) :
    readFrom ⟨stack, .value⟩ (token :: rest) = handOver value stack rest := by
  have step : Place.step ⟨stack, .value⟩ token = deliver value stack := starts
  cases delivers : deliver value stack with
  | next | finished | stopped => simp only [readFrom, handOver, step, delivers]

/-- A list that has just been opened goes on with an item as it does after a comma. -/
theorem readFrom_firstItem (v : Json) (stack : List Frame) (rest : List Token) :
    readFrom ⟨stack, .firstItem⟩ (tokensOf v rest) =
      readFrom ⟨stack, .value⟩ (tokensOf v rest) := by
  cases v with
  | null | bool b | int n | float x | str s =>
    rw [tokensOf]
    rfl
  | arr items =>
    cases items with
    | nil =>
      rw [tokensOf]
      rfl
    | cons item items =>
      rw [tokensOf]
      rfl
  | obj fields =>
    cases fields with
    | nil =>
      rw [tokensOf]
      rfl
    | cons field fields =>
      rw [tokensOf]
      rfl

mutual

/-- **Reading the tokens of a value hands its draft over.** -/
theorem readFrom_tokensOf : ∀ (v : Json) (stack : List Frame) (rest : List Token),
    readFrom ⟨stack, .value⟩ (tokensOf v rest) = handOver (toDraft v) stack rest
  | .null, stack, rest | .bool _, stack, rest | .int _, stack, rest | .float _, stack, rest
  | .str _, stack, rest => by
    rw [tokensOf, toDraft]
    exact readFrom_value rfl rest
  | .arr [], stack, rest => by
    rw [tokensOf, toDraft, draftItems]
    rfl
  | .arr (item :: items), stack, rest => by
    have opened : readFrom ⟨stack, .value⟩ (tokensOf (.arr (item :: items)) rest) =
        readFrom ⟨.list [] :: stack, .firstItem⟩
          (tokensOf item (tokensOfItems items (.closeList :: rest))) := by
      rw [tokensOf]
      rfl
    rw [opened, readFrom_firstItem, readFrom_tokensOf item]
    exact (readFrom_tokensOfItems items [toDraft item] stack rest).trans
      (by rw [toDraft, draftItems]; rfl)
  | .obj [], stack, rest => by
    rw [tokensOf, toDraft, draftFields]
    rfl
  | .obj ((key, value) :: fields), stack, rest => by
    have opened : readFrom ⟨stack, .value⟩ (tokensOf (.obj ((key, value) :: fields)) rest) =
        readFrom ⟨.object [] (some key) :: stack, .value⟩
          (tokensOf value (tokensOfFields fields (.closeObject :: rest))) := by
      rw [tokensOf]
      rfl
    rw [opened, readFrom_tokensOf value]
    exact (readFrom_tokensOfFields fields [(some key, toDraft value)] stack rest).trans
      (by rw [toDraft, draftFields]; rfl)

/-- The items that follow are read onto those that are done. -/
theorem readFrom_tokensOfItems :
    ∀ (items : List Json) (done : List Draft) (stack : List Frame) (rest : List Token),
      readFrom ⟨.list done :: stack, .separator⟩ (tokensOfItems items (.closeList :: rest)) =
        handOver (.arr (done.reverse ++ draftItems items) none) stack rest
  | [], done, stack, rest => by
    rw [tokensOfItems, draftItems, List.append_nil]
    rfl
  | item :: items, done, stack, rest => by
    have next : readFrom ⟨.list done :: stack, .separator⟩
          (tokensOfItems (item :: items) (.closeList :: rest)) =
        readFrom ⟨.list done :: stack, .value⟩
          (tokensOf item (tokensOfItems items (.closeList :: rest))) := by
      rw [tokensOfItems]
      rfl
    rw [next, readFrom_tokensOf item]
    exact (readFrom_tokensOfItems items (toDraft item :: done) stack rest).trans
      (by rw [draftItems, List.reverse_cons, List.append_assoc]; rfl)

/-- The fields that follow are read onto those that are done. -/
theorem readFrom_tokensOfFields :
    ∀ (fields : List (String × Json)) (done : List (Option String × Draft))
      (stack : List Frame) (rest : List Token),
      readFrom ⟨.object done none :: stack, .separator⟩
          (tokensOfFields fields (.closeObject :: rest)) =
        handOver (.obj (done.reverse ++ draftFields fields) none) stack rest
  | [], done, stack, rest => by
    rw [tokensOfFields, draftFields, List.append_nil]
    rfl
  | (key, value) :: fields, done, stack, rest => by
    have next : readFrom ⟨.object done none :: stack, .separator⟩
          (tokensOfFields ((key, value) :: fields) (.closeObject :: rest)) =
        readFrom ⟨.object done (some key) :: stack, .value⟩
          (tokensOf value (tokensOfFields fields (.closeObject :: rest))) := by
      rw [tokensOfFields]
      rfl
    rw [next, readFrom_tokensOf value]
    exact (readFrom_tokensOfFields fields ((some key, toDraft value) :: done) stack rest).trans
      (by rw [draftFields, List.reverse_cons, List.append_assoc]; rfl)

end

/-- **The draft of a written value is that of the value at hand**, in every style and with blanks
around it. -/
theorem readDraft_write {style : Style} (blank : style.IsBlank) (depth : Nat) {v : Json}
    (whole : v.IsWhole) {before after : List Char} (front : Blank before) (back : Blank after) :
    readDraft (before ++ write style depth v after) = (toDraft v, some []) := by
  have ends : EndsNumber after := by
    have alone := EndsNumber.blank back endsNumber_nil
    rwa [List.append_nil] at alone
  have nothing : tokens after = [] := by
    have alone := tokens_blank back []
    rwa [List.append_nil, tokens_nil] at alone
  rw [readDraft, tokens_blank front, tokens_write blank depth v whole ends, nothing,
    readFrom_tokensOf]
  rfl

/-- The text of a value decodes to whatever its draft does. -/
theorem decodeText_of_draft {α : Type} {decoder : Decoder α} {v : Json} (whole : v.IsWhole)
    {a : α} (decodes : decoder (.text maxDepth) (toDraft v) = .ok a) :
    decodeText decoder v.compact = .ok a ∧ decodeText decoder v.indented = .ok a := by
  have read {style : Style} (blank : style.IsBlank) :
      decodeText decoder (String.ofList (write style 0 v [])) = .ok a := by
    have nothing : Blank [] := nofun
    have draft := readDraft_write blank 0 whole nothing nothing
    rw [List.nil_append] at draft
    rw [decodeText, String.toList_ofList, decodeChars, draft]
    simp only [decodes]
  exact ⟨read isBlank_compactStyle, read isBlank_indentedStyle⟩

end FlowGraph.Json
