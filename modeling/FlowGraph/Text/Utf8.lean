/-!
# Bytes read as text

The bytes of a file or of a command's output are read as UTF-8. Every longest piece
that cannot be the start of a character is shown as one replacement character.
-/

namespace FlowGraph.Text

/-- What stands for bytes that are no character. -/
def replacement : Char := '\ufffd'

/-- The least and greatest second byte after a first one, and how many bytes follow it. -/
def followers? (first : UInt8) : Option (UInt8 × UInt8 × Nat) :=
  if 0xC2 ≤ first && first ≤ 0xDF then some (0x80, 0xBF, 1)
  else if first = 0xE0 then some (0xA0, 0xBF, 2)
  else if first = 0xED then some (0x80, 0x9F, 2)
  else if 0xE1 ≤ first && first ≤ 0xEF then some (0x80, 0xBF, 2)
  else if first = 0xF0 then some (0x90, 0xBF, 3)
  else if 0xF1 ≤ first && first ≤ 0xF3 then some (0x80, 0xBF, 3)
  else if first = 0xF4 then some (0x80, 0x8F, 3)
  else none

/-- The bits that a first byte adds to a character with so many bytes after it. -/
def firstBits (first : UInt8) (following : Nat) : Nat :=
  first.toNat % (1 <<< (6 - following))

/-- A character whose first bytes gave `value`: so many bytes are wanted, the next one
between `low` and `high`. -/
structure Pending where
  value : Nat
  wanted : Nat
  low : UInt8
  high : UInt8

/-- Reads the rest of some bytes. -/
def readFrom : Option Pending → List UInt8 → List Char
  | none, [] => []
  | some _, [] => [replacement]
  | none, b :: bs =>
    if b < 0x80 then Char.ofNat b.toNat :: readFrom none bs
    else
      match followers? b with
      | some (low, high, wanted) => readFrom (some ⟨firstBits b wanted, wanted, low, high⟩) bs
      | none => replacement :: readFrom none bs
  | some p, b :: bs =>
    if p.low ≤ b && b ≤ p.high then
      let value := p.value * 64 + b.toNat % 64
      if p.wanted ≤ 1 then Char.ofNat value :: readFrom none bs
      else readFrom (some ⟨value, p.wanted - 1, 0x80, 0xBF⟩) bs
    else if b < 0x80 then replacement :: Char.ofNat b.toNat :: readFrom none bs
    else
      match followers? b with
      | some (low, high, wanted) =>
        replacement :: readFrom (some ⟨firstBits b wanted, wanted, low, high⟩) bs
      | none => replacement :: replacement :: readFrom none bs

/-- The text of some bytes. -/
def readBytes (bytes : ByteArray) : String := String.ofList (readFrom none bytes.toList)

theorem fromUTF8?_toUTF8 (s : String) : String.fromUTF8? s.toUTF8 = some s := by
  unfold String.fromUTF8?
  exact dif_pos s.isValidUTF8

end FlowGraph.Text
