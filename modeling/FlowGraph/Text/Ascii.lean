/-!
# ASCII letters, digits and prefixes

Letter case is compared and changed for ASCII letters only; every other character
stands for itself.
-/

namespace FlowGraph.Text

/-- The text with its ASCII capital letters in lower case. -/
def lowerAscii (s : String) : String :=
  String.ofList (s.toList.map Char.toLower)

/-- Equality up to the case of ASCII letters. -/
def eqIgnoringCase (s t : String) : Bool :=
  s.toList.map Char.toLower == t.toList.map Char.toLower

/-- The rest of `s` after the prefix `p`, if `s` starts with `p`. -/
def afterPrefix? (p s : String) : Option String :=
  (p.toList.isPrefixOf? s.toList).map String.ofList

/-- The number that a run of ASCII digits writes. -/
def digitsValue (ds : List Char) : Nat :=
  ds.foldl (fun n d => n * 10 + (d.toNat - '0'.toNat)) 0

/-- The number written by ASCII digits after an optional plus sign, if it is below
`bound`. -/
def natBelow? (bound : Nat) (cs : List Char) : Option Nat :=
  let ds := match cs with
    | '+' :: rest => rest
    | _ => cs
  if ds.isEmpty || !ds.all Char.isDigit then none
  else if digitsValue ds < bound then some (digitsValue ds) else none

theorem isDigit_of_mem_toDigits {n : Nat} : ∀ c ∈ Nat.toDigits 10 n, c.isDigit = true :=
  fun _ mem => Nat.isDigit_of_mem_toDigits (by decide) (by decide) mem

/-- A number is read back from its decimal digits. -/
@[simp] theorem digitsValue_toDigits (n : Nat) : digitsValue (Nat.toDigits 10 n) = n := by
  have read := Nat.ofDigitChars_toDigits (b := 10) (n := n) (by decide) (by decide)
  simp only [Nat.ofDigitChars, Nat.mul_comm 10] at read
  exact read

/-- Digits without a sign are read if what they write is below the bound. -/
theorem natBelow?_digits (bound : Nat) {ds : List Char} (given : ds ≠ [])
    (digits : ∀ c ∈ ds, c.isDigit = true) :
    natBelow? bound ds = if digitsValue ds < bound then some (digitsValue ds) else none := by
  obtain ⟨d, ds, rfl⟩ := List.exists_cons_of_ne_nil given
  have unsigned : d ≠ '+' := by
    rintro rfl
    exact absurd (digits '+' List.mem_cons_self) (by decide)
  have whole : ((d :: ds).isEmpty || !(d :: ds).all Char.isDigit) = false := by
    rw [List.all_eq_true.2 digits]
    rfl
  unfold natBelow?
  split
  · rename_i same
    cases same
    exact absurd rfl unsigned
  · dsimp only
    rw [whole]
    rfl

theorem lt_of_natBelow? {bound n : Nat} {cs : List Char} (reads : natBelow? bound cs = some n) :
    n < bound := by
  simp only [natBelow?, Option.ite_none_left_eq_some, Option.ite_none_right_eq_some,
    Option.some.injEq] at reads
  obtain ⟨-, below, rfl⟩ := reads
  exact below

/-- The value of a hexadecimal digit of either case. -/
def hexValue? (c : Char) : Option (Fin 16) :=
  if h : 48 ≤ c.toNat ∧ c.toNat ≤ 57 then some ⟨c.toNat - 48, by omega⟩
  else if h : 97 ≤ c.toNat ∧ c.toNat ≤ 102 then some ⟨c.toNat - 87, by omega⟩
  else if h : 65 ≤ c.toNat ∧ c.toNat ≤ 70 then some ⟨c.toNat - 55, by omega⟩
  else none

/-- The lower-case hexadecimal digit of a value. -/
def hexDigit (d : Fin 16) : Char :=
  if d.val < 10 then Char.ofNat (48 + d.val) else Char.ofNat (87 + d.val)

@[simp] theorem hexValue?_hexDigit (d : Fin 16) : hexValue? (hexDigit d) = some d := by
  revert d
  decide

end FlowGraph.Text
