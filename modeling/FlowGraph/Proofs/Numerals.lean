import FlowGraph.Proofs.Tokens
import FlowGraph.Text.Blank

/-!
# Numbers that are not read as whole ones

A double is written with a point or with an exponent, and a whole number that does not fit 64 bits
has more digits than are read. Neither is read as a whole number (`Token.IsInexact`): what is read
is a double, or nothing if the number is beyond every double.
-/

namespace FlowGraph

namespace Decimal

/-! ## How a double is written -/

theorem mem_digitsOf_lt {n d : Nat} (mem : d ∈ digitsOf n) : d < 10 := by
  obtain ⟨c, there, rfl⟩ := List.mem_map.1 mem
  have digit := Text.isDigit_of_mem_toDigits c there
  obtain ⟨-, high⟩ : 48 ≤ c.toNat ∧ c.toNat ≤ 57 := Char.isDigit_iff_toNat.1 digit
  show c.toNat - 48 < 10
  omega

theorem mem_of_mem_dropTrailingZeros {ds : List Nat} {d : Nat}
    (mem : d ∈ dropTrailingZeros ds) : d ∈ ds := by
  rw [dropTrailingZeros, List.mem_reverse] at mem
  exact List.mem_reverse.1 ((List.dropWhile_sublist _).mem mem)

theorem mem_fromCount_lt {b : Neighbourhood} {lead : Int} {left count d : Nat}
    (mem : d ∈ (fromCount b lead left count).digits) : d < 10 := by
  induction left generalizing count with
  | zero =>
    rw [fromCount, List.mem_singleton] at mem
    omega
  | succ left ih =>
    rw [fromCount] at mem
    dsimp only at mem
    split at mem
    · exact mem_digitsOf_lt (mem_of_mem_dropTrailingZeros mem)
    · exact ih mem

theorem mem_shortest_lt {mantissa : Nat} {exponent : Int} {narrow : Bool} {d : Nat}
    (mem : d ∈ (shortest mantissa exponent narrow).digits) : d < 10 := by
  unfold shortest at mem
  split at mem
  · rw [List.mem_singleton] at mem
    omega
  · exact mem_fromCount_lt mem

/-- The digits of a double are digits. -/
theorem mem_ofFloat_lt {x : Float} {d : Nat} (mem : d ∈ (ofFloat x).digits) : d < 10 := by
  unfold ofFloat at mem
  dsimp only at mem
  split at mem
  all_goals exact mem_shortest_lt mem

/-- The text of a number with a point or an exponent. -/
inductive WritesDouble : List Char → Prop where
  | intro {front rest : List Char} {mark : Char} (given : front ≠ [])
      (digits : ∀ c ∈ front, c.isDigit = true) (marks : mark = '.' ∨ mark = 'e')
      (solid : ∀ c ∈ rest, Text.isBlank c = false) : WritesDouble (front ++ mark :: rest)

theorem WritesDouble.head {cs : List Char} (double : WritesDouble cs) :
    ∃ c, cs.head? = some c ∧ c.isDigit = true := by
  obtain @⟨front, rest, mark, given, digits, -, -⟩ := double
  obtain ⟨c, front, rfl⟩ := List.exists_cons_of_ne_nil given
  exact ⟨c, rfl, digits c List.mem_cons_self⟩

theorem WritesDouble.solid {cs : List Char} (double : WritesDouble cs) :
    ∀ c ∈ cs, Text.isBlank c = false := by
  obtain @⟨front, rest, mark, given, digits, marks, solid⟩ := double
  have mark_solid : Text.isBlank mark = false := by
    obtain rfl | rfl := marks
    all_goals decide
  exact List.forall_mem_append.2 ⟨fun c mem => Text.isBlank_of_isDigit (digits c mem),
    List.forall_mem_cons.2 ⟨mark_solid, solid⟩⟩

section
variable {s : Scientific}

theorem isDigit_digitChar {ds : List Nat} (digits : ∀ d ∈ ds, d < 10) :
    ∀ c ∈ ds.map digitChar, c.isDigit = true := by
  have digit : ∀ d < 10, (digitChar d).isDigit = true := by decide
  intro c mem
  obtain ⟨d, there, rfl⟩ := List.mem_map.1 mem
  exact digit d (digits d there)

theorem isDigit_replicate (n : Nat) : ∀ c ∈ List.replicate n '0', c.isDigit = true := by
  intro c mem
  rw [List.eq_of_mem_replicate mem]
  rfl

theorem solid_of_isDigit {cs : List Char} (digits : ∀ c ∈ cs, c.isDigit = true) :
    ∀ c ∈ cs, Text.isBlank c = false :=
  fun c mem => Text.isBlank_of_isDigit (digits c mem)

theorem writesDouble_positional (digits : ∀ d ∈ s.digits, d < 10) :
    WritesDouble (positional true s) := by
  have chars := isDigit_digitChar digits
  unfold positional
  dsimp only
  split
  · have behind : ∀ c ∈ List.replicate (-s.exponent - 1).toNat '0' ++ s.digits.map digitChar,
        c.isDigit = true :=
      List.forall_mem_append.2 ⟨isDigit_replicate _, chars⟩
    show WritesDouble (['0'] ++ '.' :: _)
    exact .intro (List.cons_ne_nil '0' []) (isDigit_replicate 1) (.inl rfl)
      (solid_of_isDigit behind)
  · generalize s.digits.map digitChar = cs at chars
    generalize split : cs.take (s.exponent.toNat + 1) ++
      List.replicate (s.exponent.toNat + 1 - cs.length) '0' = front
    have given : front ≠ [] := by
      rw [← List.length_pos_iff, ← split, List.length_append, List.length_take,
        List.length_replicate]
      omega
    have whole : ∀ c ∈ front, c.isDigit = true := by
      rw [← split]
      exact List.forall_mem_append.2 ⟨fun c mem => chars c (List.mem_of_mem_take mem),
        isDigit_replicate _⟩
    have behind : ∀ c ∈ cs.drop (s.exponent.toNat + 1), Text.isBlank c = false :=
      solid_of_isDigit fun c mem => chars c (List.mem_of_mem_drop mem)
    split
    · rw [if_pos rfl]
      exact .intro given whole (.inl rfl) (solid_of_isDigit (isDigit_replicate 1))
    · exact .intro given whole (.inl rfl) behind

theorem writesDouble_scientific (plus : Bool) (digits : ∀ d ∈ s.digits, d < 10) :
    WritesDouble (scientific plus s) := by
  have chars := isDigit_digitChar digits
  have power : ∀ c ∈ Nat.toDigits 10 s.exponent.natAbs, Text.isBlank c = false :=
    solid_of_isDigit Text.isDigit_of_mem_toDigits
  obtain ⟨sign, signs, marks⟩ : ∃ sign : List Char, (∀ c ∈ sign, Text.isBlank c = false) ∧
      (if s.exponent < 0 then ['e', '-'] else if plus then ['e', '+'] else ['e']) =
        'e' :: sign := by
    split
    · exact ⟨['-'], Text.solid_of_any rfl, rfl⟩
    · split
      · exact ⟨['+'], Text.solid_of_any rfl, rfl⟩
      · exact ⟨[], nofun, rfl⟩
  have behind := List.forall_mem_append.2 ⟨signs, power⟩
  unfold scientific
  dsimp only
  rw [marks]
  split
  · exact .intro (List.cons_ne_nil '0' []) (isDigit_replicate 1) (.inr rfl) behind
  · rename_i d same
    rw [same] at chars
    exact .intro (List.cons_ne_nil d []) chars (.inr rfl) behind
  · rename_i d ds _ same
    rw [same] at chars
    obtain ⟨first, others⟩ := List.forall_mem_cons.1 chars
    have solid := List.forall_mem_append.2 ⟨solid_of_isDigit others,
      List.forall_mem_cons.2 ⟨(by decide : Text.isBlank 'e' = false), behind⟩⟩
    show WritesDouble ([d] ++ '.' :: (ds ++ 'e' :: sign ++ _))
    rw [List.append_assoc]
    exact .intro (List.cons_ne_nil d []) (by simpa using first) (.inl rfl) solid

/-- **A double is written with a point or an exponent**, after a sign if it has one. -/
theorem writesDouble_write (l : Layout) (x : Float) : WritesDouble (l.write (ofFloat x)) := by
  have digits : ∀ d ∈ (ofFloat x).digits, d < 10 := fun _ => mem_ofFloat_lt
  unfold Layout.write
  split
  · exact writesDouble_positional digits
  · exact writesDouble_scientific _ digits

end

end Decimal

namespace Json

/-! ## What is read from a number -/

/-- A number that is not read as a whole one. -/
inductive Token.IsInexact : Token → Prop where
  | double (x : Float) : IsInexact (.plain (.float x))
  | unreadable (wanted : Fault) (skipped : Option Fault) :
      IsInexact (.plain (.unreadable wanted skipped))

theorem isInexact_brokenNumber (rest : List Char) : (brokenNumber rest).1.IsInexact :=
  .unreadable _ _

theorem isInexact_numberToken {s : Spelling} (fractional : ∀ n, s.value ≠ .whole n) :
    (numberToken s).IsInexact := by
  unfold numberToken
  split
  · rename_i n same
    exact absurd same (fractional n)
  · exact .double _
  · exact .unreadable _ _

/-- Scaling by a power of ten gives no whole number. -/
theorem scaled_ne_whole (negative : Bool) (significand : Nat) (power : Int)
    (exponent : Option (Bool × List Nat)) (n : Int) :
    scaled negative significand power exponent ≠ .whole n := by
  unfold scaled
  grind

/-- A number with a point or an exponent is not whole. -/
theorem value_ne_whole {s : Spelling} (marked : s.fraction ≠ none ∨ s.exponent ≠ none) (n : Int) :
    s.value ≠ .whole n := by
  unfold Spelling.value
  dsimp only
  split
  · rename_i fraction exponent _
    exact absurd marked (by simp [fraction, exponent])
  · exact scaled_ne_whole _ _ _ _ n

theorem isInexact_readExponent {negative : Bool} {whole : List Nat} {fraction : Option (List Nat)}
    {cs : List Char} (marked : fraction ≠ none ∨ cs.head? = some 'e') :
    (readExponent negative whole fraction cs).1.IsInexact := by
  unfold readExponent
  split
  case h_1 | h_2 =>
    dsimp only
    split
    · exact isInexact_brokenNumber _
    · exact isInexact_numberToken (value_ne_whole (.inr (Option.some_ne_none _)))
  case h_3 other _ =>
    have fractional : fraction ≠ none := by
      refine marked.resolve_right fun head => ?_
      obtain ⟨rest, same⟩ := List.head?_eq_some_iff.1 head
      exact other rest same
    exact isInexact_numberToken (value_ne_whole (.inl fractional))

/-- **What is written with a point or an exponent is not read as a whole number**, whatever
follows it. -/
theorem isInexact_readNumber (negative : Bool) {cs : List Char}
    (double : Decimal.WritesDouble cs) (behind : List Char) :
    (readNumber negative (cs ++ behind)).1.IsInexact := by
  obtain @⟨front, rest, mark, -, digits, marks, -⟩ := double
  have stops : mark.isDigit = false := by
    obtain rfl | rfl := marks
    all_goals rfl
  have stopped : (takeDigits (front ++ mark :: (rest ++ behind))).2 = mark :: (rest ++ behind) := by
    rw [takeDigits, List.dropWhile_append_of_pos digits, List.dropWhile_cons, stops]
    rfl
  rw [List.append_assoc, List.cons_append]
  unfold readNumber
  split
  · exact isInexact_brokenNumber _
  · exact isInexact_brokenNumber _
  · split
    · exact isInexact_brokenNumber _
    · exact isInexact_readExponent (.inl (Option.some_ne_none _))
  · rename_i point same
    rw [same] at stopped
    subst stopped
    refine isInexact_readExponent (.inr ?_)
    obtain rfl | rfl := marks
    · exact (point _ rfl).elim
    · rfl

/-! ## Whole numbers beyond 64 bits -/

theorem eq_of_fit {n m : Nat} {ds : List Nat} (fits : fit n ds = (m, [])) :
    m = ds.foldl (fun n d => n * 10 + d) n := by
  induction ds generalizing n with
  | nil =>
    cases fits
    rfl
  | cons d ds ih =>
    rw [fit] at fits
    split at fits
    · exact ih fits
    · cases fits

theorem fit_le {n : Nat} (within : n ≤ maxWord) (ds : List Nat) : (fit n ds).1 ≤ maxWord := by
  induction ds generalizing n with
  | nil => exact within
  | cons d ds ih =>
    rw [fit]
    split
    · exact ih ‹_›
    · exact within

theorem natOf_digitsOf (n : Nat) : natOf (digitsOf n) = n := by
  rw [natOf, digitsOf, List.foldl_map]
  exact Text.digitsValue_toDigits n

/-- All digits of a number are read only if it fits 64 bits. -/
theorem fit_digitsOf_eq {n : Nat} (fits : (fit 0 (digitsOf n)).2 = []) :
    (fit 0 (digitsOf n)).1 = n ∧ n ≤ maxWord := by
  have same : (fit 0 (digitsOf n)).1 = n :=
    (eq_of_fit (Prod.ext rfl fits)).trans (natOf_digitsOf n)
  have within := fit_le (Nat.zero_le _) (digitsOf n)
  rw [same] at within
  exact ⟨same, within⟩

/-- The digits of a number that does not fit 64 bits with its sign spell no whole number. -/
theorem value_ne_whole_of_beyond {negative : Bool} {n : Nat}
    (beyond : (if negative then 0x8000000000000000 else maxWord) < n) (k : Int) :
    Spelling.value ⟨negative, digitsOf n, none, none⟩ ≠ .whole k := by
  unfold Spelling.value
  dsimp only
  split
  · rename_i left
    obtain ⟨same, within⟩ := fit_digitsOf_eq left
    rw [same]
    cases negative with
    | false => exact absurd beyond (Nat.not_lt.2 within)
    | true =>
      have large : n = 0 ∨ n > 0x8000000000000000 := .inr beyond
      rw [if_pos large]
      nofun
  · exact scaled_ne_whole _ _ _ _ k

/-! ## Tokens -/

/-- A number in a text is cut into one token, its sign included. -/
theorem tokens_number (negative : Bool) {cs : List Char} {c : Char} (head : cs.head? = some c)
    (digit : c.isDigit = true) :
    tokens (if negative then '-' :: cs else cs) =
      (readNumber negative cs).1 :: tokens (readNumber negative cs).2 := by
  obtain ⟨rest, rfl⟩ := List.head?_eq_some_iff.1 head
  cases negative with
  | true => exact tokens_cons (by decide) _
  | false =>
    rw [if_neg (by decide), tokens_cons (isGap_of_isDigit digit), readToken_of_isDigit digit]

/-- **The token of a double is inexact.** -/
theorem tokens_writeFloat (x : Float) (rest : List Char) :
    ∃ token more, tokens (floatLayout.writeFloat x ++ rest) = token :: more ∧
      token.IsInexact := by
  have double := Decimal.writesDouble_write floatLayout x
  have written : floatLayout.writeFloat x ++ rest =
      if Decimal.isNegative x then '-' :: (floatLayout.write (Decimal.ofFloat x) ++ rest)
      else floatLayout.write (Decimal.ofFloat x) ++ rest := by
    rw [Decimal.Layout.writeFloat]
    split
    all_goals rfl
  obtain ⟨c, head, digit⟩ := double.head
  rw [written]
  refine ⟨_, _, tokens_number _ ?_ digit, isInexact_readNumber _ double rest⟩
  rw [List.head?_append, head]
  rfl

/-- **The token of a whole number is inexact if the number does not fit 64 bits**, with a sign or
without. -/
theorem tokens_writeInt_of_beyond {n : Int} (beyond : ¬(Json.int n).IsWhole) {rest : List Char}
    (ends : EndsNumber rest) :
    ∃ token more, tokens (writeInt n rest) = token :: more ∧ token.IsInexact := by
  have inexact {negative : Bool} {k : Nat}
      (above : (if negative then 0x8000000000000000 else maxWord) < k) :
      (readNumber negative (Nat.toDigits 10 k ++ rest)).1.IsInexact := by
    rw [readNumber_toDigits negative k ends]
    exact isInexact_numberToken (value_ne_whole_of_beyond above)
  have head (k : Nat) : ∃ c, (Nat.toDigits 10 k ++ rest).head? = some c ∧ c.isDigit = true := by
    obtain ⟨c, cs, digits⟩ := List.exists_cons_of_ne_nil (Nat.toDigits_ne_nil (n := k) (b := 10))
    have mem : c ∈ Nat.toDigits 10 k := by
      rw [digits]
      exact List.mem_cons_self
    exact ⟨c, by rw [digits]; rfl, Text.isDigit_of_mem_toDigits c mem⟩
  rw [IsWhole] at beyond
  cases n with
  | ofNat n =>
    rw [Int.ofNat_eq_natCast] at beyond
    obtain ⟨c, first, digit⟩ := head n
    refine ⟨_, _, tokens_number false first digit, inexact ?_⟩
    show maxWord < n
    omega
  | negSucc n =>
    obtain ⟨c, first, digit⟩ := head (n + 1)
    refine ⟨_, _, tokens_number true first digit, inexact ?_⟩
    show 0x8000000000000000 < n + 1
    omega

end Json

end FlowGraph
