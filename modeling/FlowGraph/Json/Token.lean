import FlowGraph.Json.Draft
import FlowGraph.Json.Number
import FlowGraph.Text.Ascii

/-!
# JSON tokens

A text is cut into brackets, separators, texts and plain values. Every token takes at
least one character, so the cutting ends; a token that cannot be read is the last one.
-/

namespace FlowGraph.Json

/-- A token of a text. -/
inductive Token where
  | openList
  | closeList
  | openObject
  | closeObject
  | colon
  | comma
  /-- A value of one token that is not a text. -/
  | plain (value : Draft)
  /-- A text, `none` if its escapes name no character; or the fault it ends in. -/
  | text (content : Option String)
  | brokenText (wanted skipped : Fault)

/-- JSON's own blank characters. -/
def isGap (c : Char) : Bool :=
  c == ' ' || c == '\n' || c == '\t' || c == '\r'

/-- A high surrogate. -/
def isHighUnit (n : Nat) : Bool := 0xD800 ≤ n && n < 0xDC00

/-- A low surrogate. -/
def isLowUnit (n : Nat) : Bool := 0xDC00 ≤ n && n < 0xE000

/-- How far the characters of a text have been read. -/
inductive TextState where
  /-- Between characters; a high surrogate may wait for its partner. -/
  | open (high : Option Nat)
  /-- After a backslash. -/
  | escaped (high : Option Nat)
  /-- Inside four hexadecimal digits: how many are left and the value so far. -/
  | unit (high : Option Nat) (left value : Nat)

/-- The character of a simple escape. -/
def simpleEscape? (c : Char) : Option Char :=
  match c with
  | '"' => some '"'
  | '\\' => some '\\'
  | '/' => some '/'
  | 'b' => some '\x08'
  | 'f' => some '\x0c'
  | 'n' => some '\n'
  | 'r' => some '\r'
  | 't' => some '\t'
  | _ => none

/-- The text collected so far, last character first, or nothing once an escape named no
character. -/
abbrev Collected := Option (List Char)

/-- Reads the rest of a text after its opening quote. -/
def readText (state : TextState) (done : Collected) : List Char → Token × List Char
  | [] =>
    let wanted := match done with
      | some _ => Fault.ended
      | none => Fault.malformed
    (.brokenText wanted .ended, [])
  | c :: cs =>
    match state with
    | .open high =>
      if c == '"' then
        let whole := if high.isSome then none else done
        (.text (whole.map fun cs => String.ofList cs.reverse), cs)
      else if c == '\\' then readText (.escaped high) done cs
      else if c.toNat < 0x20 then (.brokenText .malformed .malformed, [])
      else readText (.open none) (if high.isSome then none else done.map (c :: ·)) cs
    | .escaped high =>
      if c == 'u' then readText (.unit high 4 0) done cs
      else
        match simpleEscape? c with
        | none => (.brokenText .malformed .malformed, [])
        | some e =>
          readText (.open none) (if high.isSome then none else done.map (e :: ·)) cs
    | .unit high left value =>
      match Text.hexValue? c with
      | none => (.brokenText .malformed .malformed, [])
      | some d =>
        let n := value * 16 + d.val
        if left ≠ 1 then readText (.unit high (left - 1) n) done cs
        else
          match high with
          | some h =>
            if isLowUnit n then
              let point := 0x10000 + (h - 0xD800) * 0x400 + (n - 0xDC00)
              readText (.open none) (done.map (Char.ofNat point :: ·)) cs
            else readText (.open none) none cs
          | none =>
            if isHighUnit n then readText (.open (some n)) done cs
            else if isLowUnit n then readText (.open none) none cs
            else readText (.open none) (done.map (Char.ofNat n :: ·)) cs

/-- The digits at the front and what follows them. -/
def takeDigits (cs : List Char) : List Nat × List Char :=
  ((cs.takeWhile Char.isDigit).map fun c => c.toNat - '0'.toNat, cs.dropWhile Char.isDigit)

/-- A number that breaks off here: it ends if the text does. -/
def brokenNumber (rest : List Char) : Token × List Char :=
  (.plain (.unreadable (if rest.isEmpty then .ended else .malformed) (some .malformed)), [])

/-- The token of a whole number's value. -/
def numberToken (s : Spelling) : Token :=
  match s.value with
  | .whole n => .plain (.int n)
  | .double x => .plain (.float x)
  | .tooLarge => .plain (.unreadable .malformed none)

/-- The sign of an exponent, whether it is a minus sign, and what follows it. -/
def exponentSign : List Char → Bool × List Char
  | '+' :: rest => (false, rest)
  | '-' :: rest => (true, rest)
  | rest => (false, rest)

/-- Reads the exponent of a number, if there is one. -/
def readExponent (negative : Bool) (whole : List Nat) (fraction : Option (List Nat))
    (cs : List Char) : Token × List Char :=
  match cs with
  | 'e' :: rest | 'E' :: rest =>
    let (down, rest) := exponentSign rest
    match takeDigits rest with
    | ([], rest) => brokenNumber rest
    | (ds, rest) => (numberToken ⟨negative, whole, fraction, some (down, ds)⟩, rest)
  | rest => (numberToken ⟨negative, whole, fraction, none⟩, rest)

/-- Reads a number from its first digit on. -/
def readNumber (negative : Bool) (cs : List Char) : Token × List Char :=
  match takeDigits cs with
  | ([], rest) => brokenNumber rest
  | (0 :: _ :: _, rest) => brokenNumber ('0' :: rest)
  | (whole, '.' :: rest) =>
    match takeDigits rest with
    | ([], rest) => brokenNumber rest
    | (fraction, rest) => readExponent negative whole (some fraction) rest
  | (whole, rest) => readExponent negative whole none rest

/-- Reads the rest of a word whose first letter has been seen. -/
def readWord (value : Draft) : List Char → List Char → Token × List Char
  | [], cs => (.plain value, cs)
  | _ :: _, [] => (.plain (.unreadable .ended (some .ended)), [])
  | w :: ws, c :: cs =>
    if w == c then readWord value ws cs
    else (.plain (.unreadable .malformed (some .malformed)), [])

/-- Reads the token that starts with a character. -/
def readToken (c : Char) (cs : List Char) : Token × List Char :=
  match c with
  | '[' => (.openList, cs)
  | ']' => (.closeList, cs)
  | '\x7b' => (.openObject, cs)
  | '\x7d' => (.closeObject, cs)
  | ':' => (.colon, cs)
  | ',' => (.comma, cs)
  | '"' => readText (.open none) (some []) cs
  | '-' => readNumber true cs
  | 'n' => readWord .null ['u', 'l', 'l'] cs
  | 't' => readWord (.bool true) ['r', 'u', 'e'] cs
  | 'f' => readWord (.bool false) ['a', 'l', 's', 'e'] cs
  | c =>
    if c.isDigit then readNumber false (c :: cs)
    else (.plain (.unreadable .malformed (some .malformed)), [])

theorem length_readText_le (state : TextState) (done : Collected) (cs : List Char) :
    (readText state done cs).2.length ≤ cs.length := by
  fun_induction readText state done cs <;> simp_all <;> omega

/-- What follows the digits at the front is no longer than the text. -/
theorem length_of_takeDigits {cs rest : List Char} {ds : List Nat}
    (taken : takeDigits cs = (ds, rest)) : rest.length ≤ cs.length := by
  cases taken
  exact (List.dropWhile_sublist _).length_le

theorem length_exponentSign_le (cs : List Char) : (exponentSign cs).2.length ≤ cs.length := by
  fun_cases exponentSign cs with
  | case1 => exact Nat.le_succ _
  | case2 => exact Nat.le_succ _
  | case3 => exact Nat.le_refl _

theorem length_readExponent_le (negative : Bool) (whole : List Nat)
    (fraction : Option (List Nat)) (cs : List Char) :
    (readExponent negative whole fraction cs).2.length ≤ cs.length := by
  have digits {signed unsigned rest : List Char} {down : Bool} {ds : List Nat}
      (sign : exponentSign signed = (down, unsigned))
      (taken : takeDigits unsigned = (ds, rest)) : rest.length ≤ signed.length + 1 := by
    have unsignedLength := length_exponentSign_le signed
    rw [sign] at unsignedLength
    exact Nat.le_succ_of_le (Nat.le_trans (length_of_takeDigits taken) unsignedLength)
  fun_cases readExponent negative whole fraction cs with
  | case1 => exact Nat.zero_le _
  | case2 signed down unsigned sign ds rest _ taken => exact digits sign taken
  | case3 => exact Nat.zero_le _
  | case4 signed down unsigned sign ds rest _ taken => exact digits sign taken
  | case5 => exact Nat.le_refl _

theorem length_readWord_le (value : Draft) (ws cs : List Char) :
    (readWord value ws cs).2.length ≤ cs.length := by
  fun_induction readWord value ws cs with
  | case1 cs => exact Nat.le_refl _
  | case2 => exact Nat.zero_le _
  | case3 w ws c cs _ ih => exact Nat.le_succ_of_le ih
  | case4 => exact Nat.zero_le _

/-- A number ends behind the digits at its front. -/
theorem length_readNumber_le_takeDigits (negative : Bool) (cs : List Char) :
    (readNumber negative cs).2.length ≤ (takeDigits cs).2.length := by
  fun_cases readNumber negative cs with
  | case1 => exact Nat.zero_le _
  | case2 => exact Nat.zero_le _
  | case3 => exact Nat.zero_le _
  | case4 whole rest _ _ taken fraction behind _ fractionTaken =>
    have exponent := length_readExponent_le negative whole (some fraction) behind
    rw [taken]
    exact Nat.le_succ_of_le (Nat.le_trans exponent (length_of_takeDigits fractionTaken))
  | case5 whole rest _ _ _ taken =>
    rw [taken]
    exact length_readExponent_le ..

theorem length_readNumber_le (negative : Bool) (cs : List Char) :
    (readNumber negative cs).2.length ≤ cs.length :=
  Nat.le_trans (length_readNumber_le_takeDigits negative cs) (length_of_takeDigits rfl)

theorem length_readNumber_lt {c : Char} (hc : c.isDigit = true) (negative : Bool)
    (cs : List Char) : (readNumber negative (c :: cs)).2.length ≤ cs.length := by
  refine Nat.le_trans (length_readNumber_le_takeDigits negative (c :: cs)) ?_
  rw [takeDigits, List.dropWhile_cons_of_pos hc]
  exact (List.dropWhile_sublist _).length_le

theorem length_readToken_le (c : Char) (cs : List Char) :
    (readToken c cs).2.length ≤ cs.length := by
  unfold readToken
  split
  all_goals first
    | exact Nat.le_refl _
    | exact length_readText_le ..
    | exact length_readNumber_le ..
    | exact length_readWord_le ..
    | skip
  split
  · rename_i h
    exact length_readNumber_lt h ..
  · exact Nat.zero_le _

/-- Cuts a text into tokens; blanks separate them and a fault ends them. -/
def tokens (cs : List Char) : List Token :=
  match cs with
  | [] => []
  | c :: cs =>
    if isGap c then tokens cs
    else
      let next := readToken c cs
      next.1 :: tokens next.2
termination_by cs.length
decreasing_by
  · simp
  · have h := length_readToken_le c cs
    simp only [List.length_cons]
    omega

end FlowGraph.Json
