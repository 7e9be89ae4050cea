import FlowGraph.Proofs.Drafts
import FlowGraph.Proofs.Numerals

/-!
# What stands in an open bracket

What stands in a bracket stays there, however the text goes on, ends or is malformed. So once
something else than a text stands in the outermost bracket, even with its own bracket still open,
or once the outermost bracket is that of an object (`Spoilt`), neither a list of texts nor a single
value is read in the end. Such a draft is `Unfit`, and so is a double: whatever is read of a value
with a number that is not whole is unfit.
-/

namespace FlowGraph.Json

/-- The draft of a text. -/
def Draft.IsText : Draft → Prop
  | .str _ => True
  | _ => False

theorem not_isText_arr (items : List Draft) (stop : Option Fault) :
    ¬(Draft.arr items stop).IsText :=
  id

theorem not_isText_obj (fields : List (Option String × Draft)) (stop : Option Fault) :
    ¬(Draft.obj fields stop).IsText :=
  id

/-- A draft that is neither a list of texts nor a single value other than a double. -/
inductive Draft.Unfit : Draft → Prop where
  | float (x : Float) : Unfit (.float x)
  | unreadable (wanted : Fault) (skipped : Option Fault) : Unfit (.unreadable wanted skipped)
  | object (fields : List (Option String × Draft)) (stop : Option Fault) : Unfit (.obj fields stop)
  | list {items : List Draft} {d : Draft} (mem : d ∈ items) (other : ¬d.IsText)
      (stop : Option Fault) : Unfit (.arr items stop)

/-- Open brackets, innermost first, that come to an unfit draft in the end. -/
inductive Spoilt : List Frame → Prop where
  | list {items : List Draft} {d : Draft} (mem : d ∈ items) (other : ¬d.IsText) :
      Spoilt [.list items]
  | object (fields : List (Option String × Draft)) (key : Option String) :
      Spoilt [.object fields key]
  | nested (inner outer : Frame) (stack : List Frame) : Spoilt (inner :: outer :: stack)

/-- The outcome of a token after which an unfit draft is read in the end. -/
inductive Progress.Spoils : Progress → Prop where
  | next {p : Place} (spoilt : Spoilt p.stack) : Spoils (.next p)
  | finished {value : Draft} (unfit : value.Unfit) : Spoils (.finished value)
  | stopped {value : Draft} (unfit : value.Unfit) : Spoils (.stopped value)

section
variable {stack : List Frame} {items : List Draft} {fields : List (Option String × Draft)}
  {key : Option String} {value : Draft}

/-! ## Leaving brackets -/

/-- A value that is not a text spoils the brackets that it is left in. -/
theorem unfit_leave_of_other (other : ¬value.IsText) (given : stack ≠ []) (fault : Fault) :
    (leave fault value stack).Unfit := by
  induction stack generalizing value with
  | nil => exact absurd rfl given
  | cons frame stack ih =>
    cases frame with
    | list items =>
      cases stack with
      | nil => exact .list (List.mem_reverse.2 List.mem_cons_self) other _
      | cons outer stack => exact ih (not_isText_arr _ _) (List.cons_ne_nil _ _)
    | object fields key =>
      cases stack with
      | nil => exact .object _ _
      | cons outer stack => exact ih (not_isText_obj _ _) (List.cons_ne_nil _ _)

theorem unfit_leave (spoilt : Spoilt stack) (fault : Fault) (value : Draft) :
    (leave fault value stack).Unfit := by
  cases spoilt with
  | list mem other => exact .list (List.mem_reverse.2 (List.mem_cons_of_mem _ mem)) other _
  | object fields key => exact .object _ _
  | nested inner outer stack =>
    cases inner with
    | list => exact unfit_leave_of_other (not_isText_arr _ _) (List.cons_ne_nil _ _) fault
    | object => exact unfit_leave_of_other (not_isText_obj _ _) (List.cons_ne_nil _ _) fault

theorem unfit_leaveOpen (spoilt : Spoilt stack) (fault : Fault) :
    (leaveOpen fault stack).Unfit := by
  cases spoilt with
  | list mem other => exact .list (List.mem_reverse.2 mem) other _
  | object fields key => exact .object _ _
  | nested inner outer stack =>
    cases inner with
    | list => exact unfit_leave_of_other (not_isText_arr _ _) (List.cons_ne_nil _ _) fault
    | object => exact unfit_leave_of_other (not_isText_obj _ _) (List.cons_ne_nil _ _) fault

/-! ## Closing brackets -/

/-- A value that is not a text spoils the brackets that it is handed to. -/
theorem spoils_deliver_of_other (other : ¬value.IsText) (given : stack ≠ []) :
    (deliver value stack).Spoils := by
  obtain ⟨frame, stack, rfl⟩ := List.exists_cons_of_ne_nil given
  cases frame with
  | list items =>
    cases stack with
    | nil => exact .next (.list List.mem_cons_self other)
    | cons outer stack => exact .next (.nested _ _ _)
  | object fields key =>
    cases stack with
    | nil => exact .next (.object _ _)
    | cons outer stack => exact .next (.nested _ _ _)

theorem spoils_deliver (spoilt : Spoilt stack) (value : Draft) : (deliver value stack).Spoils := by
  cases spoilt with
  | list mem other => exact .next (.list (List.mem_cons_of_mem _ mem) other)
  | object fields key => exact .next (.object _ _)
  | nested inner outer stack =>
    cases inner with
    | list | object => exact .next (.nested _ _ _)

/-- Closing a list that is spoilt, or in a spoilt bracket. -/
theorem spoils_closeList (spoilt : Spoilt (.list items :: stack)) :
    (deliver (.arr items.reverse none) stack).Spoils := by
  cases spoilt with
  | list mem other => exact .finished (.list (List.mem_reverse.2 mem) other _)
  | nested inner outer stack =>
    exact spoils_deliver_of_other (not_isText_arr _ _) (List.cons_ne_nil _ _)

theorem spoils_closeObject (fields : List (Option String × Draft)) (stack : List Frame) :
    (deliver (.obj fields none) stack).Spoils := by
  cases stack with
  | nil => exact .finished (.object _ _)
  | cons outer stack =>
    exact spoils_deliver_of_other (not_isText_obj _ _) (List.cons_ne_nil _ _)

/-! ## Reading on -/

theorem spoils_deliverBroken (spoilt : Spoilt stack) (wanted skipped : Fault) :
    (deliverBroken wanted skipped stack).Spoils :=
  .stopped (unfit_leave spoilt _ _)

theorem spoils_startValue (spoilt : Spoilt stack) (token : Token) :
    (startValue stack token).Spoils := by
  have opened (frame : Frame) : Spoilt (frame :: stack) := by
    cases spoilt with
    | list | object | nested => exact .nested _ _ _
  unfold startValue
  split
  · exact .next (opened _)
  · exact .next (opened _)
  · exact spoils_deliverBroken spoilt _ _
  · exact spoils_deliver spoilt _
  · exact spoils_deliver spoilt _
  · exact spoils_deliver spoilt _
  · exact spoils_deliverBroken spoilt _ _
  · exact spoils_deliverBroken spoilt _ _

theorem spoils_afterValue (spoilt : Spoilt stack) (token : Token) :
    (afterValue stack token).Spoils := by
  unfold afterValue
  split
  · exact .next spoilt
  · exact spoils_closeList spoilt
  · exact .next spoilt
  · exact spoils_closeObject _ _
  · exact .stopped (unfit_leaveOpen spoilt _)

theorem spoils_startKey (mayClose : Bool) (spoilt : Spoilt stack) (token : Token) :
    (startKey mayClose stack token).Spoils := by
  unfold startKey
  split
  · cases spoilt with
    | object => exact .next (.object _ _)
    | nested => exact .next (.nested _ _ _)
  · exact .stopped (unfit_leaveOpen spoilt _)
  · split
    · exact spoils_closeObject _ _
    · exact .stopped (unfit_leaveOpen spoilt _)
  · exact .stopped (unfit_leaveOpen spoilt _)

/-- **Spoilt brackets stay spoilt**, whatever token follows. -/
theorem spoils_step {p : Place} (spoilt : Spoilt p.stack) (token : Token) :
    (p.step token).Spoils := by
  unfold Place.step
  split
  · exact spoils_startValue spoilt _
  · exact spoils_afterValue spoilt _
  · exact spoils_startValue spoilt _
  · exact spoils_startKey _ spoilt _
  · exact .next spoilt
  · exact spoils_deliverBroken spoilt _ _
  · exact spoils_afterValue spoilt _

theorem unfit_cutOff {p : Place} (spoilt : Spoilt p.stack) : p.cutOff.Unfit := by
  unfold Place.cutOff
  split
  · exact unfit_leave spoilt _ _
  · exact unfit_leave spoilt _ _
  · exact unfit_leaveOpen spoilt _

theorem unfit_readFrom_cons {p : Place} {token : Token} {ts : List Token}
    (spoils : (p.step token).Spoils)
    (onward : ∀ {p' : Place}, Spoilt p'.stack → (readFrom p' ts).1.Unfit) :
    (readFrom p (token :: ts)).1.Unfit := by
  rw [readFrom]
  cases outcome : p.step token with
  | next p' =>
    rw [outcome] at spoils
    cases spoils with
    | next spoilt => exact onward spoilt
  | finished value =>
    rw [outcome] at spoils
    cases spoils with
    | finished unfit => exact unfit
  | stopped value =>
    rw [outcome] at spoils
    cases spoils with
    | stopped unfit => exact unfit

/-- **An unfit draft is read from spoilt brackets**, however the text goes on. -/
theorem unfit_readFrom {p : Place} (spoilt : Spoilt p.stack) (ts : List Token) :
    (readFrom p ts).1.Unfit := by
  -- On the tokens; the place changes with each of them, and its brackets stay spoilt.
  induction ts generalizing p with
  | nil => exact unfit_cutOff spoilt
  | cons token ts ih => exact unfit_readFrom_cons (spoils_step spoilt token) ih

end

/-! ## Reading a value whose numbers are not whole -/

/-- The first token of a value that is not a text. -/
inductive Token.StartsOther : Token → Prop where
  | openList : StartsOther .openList
  | openObject : StartsOther .openObject
  | plain {value : Draft} (other : ¬value.IsText) : StartsOther (.plain value)

/-- Only a double, or nothing, is read from an inexact token alone. -/
theorem Token.IsInexact.unfit_readFrom {token : Token} (inexact : token.IsInexact)
    (ts : List Token) : (readFrom ⟨[], .value⟩ (token :: ts)).1.Unfit := by
  cases inexact with
  | double x => exact .float x
  | unreadable wanted skipped =>
    cases skipped with
    | none | some => exact .unreadable _ _

theorem Token.IsInexact.startsOther {token : Token} (inexact : token.IsInexact) :
    token.StartsOther := by
  cases inexact with
  | double | unreadable => exact .plain id

section
variable {style : Style} {rest : List Char} {more : List Token}

theorem tokens_write_other (depth : Nat) {v : Json} (other : ∀ s, v ≠ .str s)
    (ends : EndsNumber rest) :
    ∃ token more, tokens (write style depth v rest) = token :: more ∧ token.StartsOther := by
  cases v with
  | null => exact ⟨_, _, tokens_null rest, .plain id⟩
  | bool b =>
    cases b with
    | true => exact ⟨_, _, tokens_true rest, .plain id⟩
    | false => exact ⟨_, _, tokens_false rest, .plain id⟩
  | int n =>
    by_cases whole : (int n).IsWhole
    · exact ⟨_, _, tokens_writeInt whole ends, .plain id⟩
    · obtain ⟨token, more, cut, inexact⟩ := tokens_writeInt_of_beyond whole ends
      exact ⟨token, more, cut, inexact.startsOther⟩
  | float x =>
    obtain ⟨token, more, cut, inexact⟩ := tokens_writeFloat x rest
    exact ⟨token, more, cut, inexact.startsOther⟩
  | str s => exact absurd rfl (other s)
  | arr items =>
    cases items with
    | nil => exact ⟨_, _, tokens_openList _, .openList⟩
    | cons item items => exact ⟨_, _, tokens_openList _, .openList⟩
  | obj fields =>
    cases fields with
    | nil => exact ⟨_, _, tokens_openObject _, .openObject⟩
    | cons field fields => exact ⟨_, _, tokens_openObject _, .openObject⟩

/-- A value other than a text spoils the brackets that it begins in. -/
theorem Token.StartsOther.spoils_startValue {token : Token} (starts : token.StartsOther)
    {stack : List Frame} (given : stack ≠ []) : (startValue stack token).Spoils := by
  cases starts with
  | openList | openObject =>
    obtain ⟨frame, stack, rfl⟩ := List.exists_cons_of_ne_nil given
    exact .next (.nested _ _ _)
  | @plain value other =>
    cases value with
    | str s => exact absurd trivial other
    | unreadable wanted skipped =>
      cases skipped with
      | none => exact spoils_deliver_of_other other given
      | some skipped => exact .stopped (unfit_leave_of_other other given _)
    | null | bool | int | float | arr | obj => exact spoils_deliver_of_other other given

/-- An item other than a text spoils the list that it is read in. -/
theorem unfit_readFrom_item (depth : Nat) {item : Json} (other : ∀ s, item ≠ .str s)
    {expect : Expect} (expects : expect = .value ∨ expect = .firstItem) (done : List Draft)
    (ends : EndsNumber rest) :
    (readFrom ⟨[.list done], expect⟩ (tokens (write style depth item rest))).1.Unfit := by
  obtain ⟨token, more, cut, starts⟩ := tokens_write_other depth other ends
  have step : Place.step ⟨[.list done], expect⟩ token = startValue [.list done] token := by
    obtain rfl | rfl := expects
    · rfl
    · cases starts with
      | openList | openObject | plain => rfl
  rw [cut]
  refine unfit_readFrom_cons ?_ fun spoilt => unfit_readFrom spoilt more
  rw [step]
  exact starts.spoils_startValue (List.cons_ne_nil _ _)

/-- **Items spoil the list that they are read in**, unless all of them are texts. -/
theorem unfit_readFrom_items (blank : style.IsBlank) (depth : Nat) {item : Json}
    {items : List Json} (other : ∃ v ∈ item :: items, ∀ s, v ≠ .str s) {expect : Expect}
    (expects : expect = .value ∨ expect = .firstItem) (done : List Draft)
    (ends : EndsNumber rest) :
    (readFrom ⟨[.list done], expect⟩
      (tokens (write style depth item (writeItems style depth items rest)))).1.Unfit := by
  induction items generalizing item expect done with
  | nil =>
    obtain ⟨v, mem, other⟩ := other
    obtain rfl := List.mem_singleton.1 mem
    exact unfit_readFrom_item depth other expects done (endsNumber_writeItems depth [] ends)
  | cons item' items ih =>
    by_cases text : ∃ s, item = .str s
    · obtain ⟨s, rfl⟩ := text
      -- The text stands in the list, and what follows the comma is read as a first item is.
      have later : ∃ v ∈ item' :: items, ∀ s, v ≠ .str s := by
        obtain ⟨v, mem, other⟩ := other
        exact ⟨v, (List.mem_cons.1 mem).resolve_left (other s), other⟩
      have onward : ∀ ts, readFrom ⟨[.list done], expect⟩ (.text (some s) :: .comma :: ts) =
          readFrom ⟨[.list (.str s :: done)], .value⟩ ts := by
        obtain rfl | rfl := expects
        all_goals exact fun _ => rfl
      rw [write, tokens_writeText, writeItems, tokens_comma, tokens_blank (blank.gap depth), onward]
      exact ih later (.inl rfl) _
    · have other : ∀ s, item ≠ .str s := fun s same => text ⟨s, same⟩
      exact unfit_readFrom_item depth other expects done (endsNumber_writeItems depth _ ends)

/-- A list in which a number is not whole has other items than texts. -/
theorem exists_other_of_fractional {items : List Json} (fractional : ¬(arr items).IsWhole) :
    ∃ v ∈ items, ∀ s, v ≠ .str s := by
  obtain ⟨v, mem, fractional⟩ : ∃ v ∈ items, ¬v.IsWhole := by
    simpa [IsWhole, wholeItems_iff] using fractional
  refine ⟨v, mem, ?_⟩
  rintro s rfl
  exact fractional trivial

/-- **An unfit draft is read from a value with a number that is not whole.** -/
theorem unfit_readDraft (blank : style.IsBlank) (depth : Nat) {v : Json} (fractional : ¬v.IsWhole) :
    (readDraft (write style depth v [])).1.Unfit := by
  unfold readDraft
  cases v with
  | null | bool | str => exact absurd trivial fractional
  | int n =>
    obtain ⟨token, more, cut, inexact⟩ := tokens_writeInt_of_beyond fractional endsNumber_nil
    rw [write, cut]
    exact inexact.unfit_readFrom more
  | float x =>
    obtain ⟨token, more, cut, inexact⟩ := tokens_writeFloat x []
    rw [write, cut]
    exact inexact.unfit_readFrom more
  | arr items =>
    have other := exists_other_of_fractional fractional
    cases items with
    | nil =>
      obtain ⟨v, mem, -⟩ := other
      cases mem
    | cons item items =>
      have close : EndsNumber (style.gap depth ++ ']' :: []) :=
        .blank (blank.gap depth) (endsNumber_cons _ (.inr (.inr (.inl rfl))))
      rw [write, tokens_openList, tokens_blank (blank.gap (depth + 1))]
      exact unfit_readFrom_items blank (depth + 1) other (.inr rfl) [] close
  | obj fields =>
    have opened : ∃ more, tokens (write style depth (.obj fields) []) = .openObject :: more := by
      cases fields with
      | nil => exact ⟨_, tokens_openObject _⟩
      | cons field fields => exact ⟨_, tokens_openObject _⟩
    obtain ⟨more, cut⟩ := opened
    rw [cut]
    exact unfit_readFrom (p := ⟨[.object [] none], .key true⟩) (.object _ _) more

end

end FlowGraph.Json
