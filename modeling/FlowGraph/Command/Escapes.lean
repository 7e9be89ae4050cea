/-!
# Backslash escapes in the texts of commands

`echo` and `printf` read the same escapes, but write octal numbers differently: `echo`
wants a zero in front of three digits.
-/

namespace FlowGraph.Command

/-- The bytes of a text. -/
def bytesOf (cs : List Char) : List UInt8 := (String.ofList cs).toUTF8.toList

/-- The value of an octal digit. -/
def octalValue? (c : Char) : Option Nat :=
  if '0' ≤ c && c ≤ '7' then some (c.toNat - '0'.toNat) else none

/-- The byte of a one-letter escape. -/
def letterEscape? : Char → Option UInt8
  | 'a' => some 7
  | 'b' => some 8
  | 'e' => some 27
  | 'f' => some 12
  | 'n' => some 10
  | 'r' => some 13
  | 't' => some 9
  | 'v' => some 11
  | '\\' => some 92
  | _ => none

/-- Where the reading of escapes stands. -/
inductive EscapeState where
  | plain
  | afterBackslash
  /-- Inside an octal number, which may have so many more digits. -/
  | octal (value left : Nat)

/-- Replaces the escapes of a text. `zeroFirst` says that octal numbers start with a
zero; `\c` ends the text. -/
def unescape (zeroFirst : Bool) : EscapeState → List Char → List UInt8
  | .plain, [] => []
  | .afterBackslash, [] => [92]
  | .octal value _, [] => [UInt8.ofNat value]
  | .plain, c :: cs =>
    if c = '\\' then unescape zeroFirst .afterBackslash cs
    else bytesOf [c] ++ unescape zeroFirst .plain cs
  | .afterBackslash, c :: cs =>
    match letterEscape? c, octalValue? c with
    | some b, _ => b :: unescape zeroFirst .plain cs
    | none, some n =>
      if zeroFirst then
        if n = 0 then unescape zeroFirst (.octal 0 3) cs
        else 92 :: (bytesOf [c] ++ unescape zeroFirst .plain cs)
      else unescape zeroFirst (.octal n 2) cs
    | none, none =>
      if c = 'c' then [] else 92 :: (bytesOf [c] ++ unescape zeroFirst .plain cs)
  | .octal value left, c :: cs =>
    match octalValue? c, left with
    | some n, left + 1 => unescape zeroFirst (.octal (value * 8 + n) left) cs
    | _, _ =>
      UInt8.ofNat value ::
        (if c = '\\' then unescape zeroFirst .afterBackslash cs
         else bytesOf [c] ++ unescape zeroFirst .plain cs)

end FlowGraph.Command
