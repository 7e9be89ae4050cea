import Mathlib.Data.String.Basic

/-!
# The order of texts is the order of their bytes

Texts are compared by the numbers of their characters, and in UTF-8 a character of a greater number
has greater bytes, whatever follows: the first byte tells how many there are, and the bytes hold the
digits of the number, the highest first.
-/

namespace FlowGraph.Text

/-- The bytes of a text in UTF-8. -/
def bytes (s : String) : List UInt8 := s.toUTF8.data.toList

theorem bytes_eq (s : String) : bytes s = s.toList.flatMap String.utf8EncodeChar := by
  rw [bytes, String.toUTF8_eq_toByteArray, ← String.utf8Encode_toList, List.utf8Encode]
  simp

/-- Bytes are compared by the first ones that differ. -/
theorem cons_lt_cons {m n : Nat} {bs bs' : List UInt8} (le : m ≤ n) (small : n < 256)
    (rest : m = n → bs < bs') : UInt8.ofNat m :: bs < UInt8.ofNat n :: bs' := by
  rw [List.cons_lt_cons_iff]
  rcases Nat.lt_or_eq_of_le le with less | same
  · refine .inl ?_
    rw [UInt8.lt_iff_toNat_lt, UInt8.toNat_ofNat_of_lt' small,
      UInt8.toNat_ofNat_of_lt' (less.trans small)]
    exact less
  · exact .inr ⟨congrArg UInt8.ofNat same, rest same⟩

/-- A lesser character has lesser bytes, whatever follows. -/
theorem encode_lt {c d : Char} (less : c < d) (after after' : List UInt8) :
    String.utf8EncodeChar c ++ after < String.utf8EncodeChar d ++ after' := by
  have bound : d.val.toNat < 0x110000 := by
    rcases d.valid with low | ⟨-, high⟩
    · exact low.trans (by decide)
    · exact high
  have less : c.val.toNat < d.val.toNat := less
  unfold String.utf8EncodeChar
  generalize c.val.toNat = v at *
  generalize d.val.toNat = w at *
  simp only
  -- of bytes that are the same each adds to what is known of both numbers
  split_ifs
  all_goals
    repeat refine cons_lt_cons (by omega) (by omega) fun same => ?_
    omega

theorem flatMap_encode_lt {cs ds : List Char} (less : cs < ds) :
    cs.flatMap String.utf8EncodeChar < ds.flatMap String.utf8EncodeChar := by
  induction cs generalizing ds with
  | nil =>
    cases ds with
    | nil => exact absurd less (List.lt_irrefl _)
    | cons d ds =>
      have some := List.append_ne_nil_of_left_ne_nil
        (@String.utf8EncodeChar_ne_nil d) (ds.flatMap String.utf8EncodeChar)
      obtain ⟨b, bs, bytes⟩ := List.exists_cons_of_ne_nil some
      rw [List.flatMap_cons, bytes]
      exact List.nil_lt_cons b bs
  | cons c cs ih =>
    cases ds with
    | nil => exact absurd less (List.not_lt_nil _)
    | cons d ds =>
      rw [List.flatMap_cons, List.flatMap_cons]
      rcases List.cons_lt_cons_iff.1 less with first | ⟨rfl, rest⟩
      · exact encode_lt first _ _
      · exact List.append_left_lt (ih rest)

/-- **A text is less than another one if its bytes are.** -/
theorem lt_iff_bytes_lt {s t : String} : s < t ↔ bytes s < bytes t := by
  have mono {s t : String} (less : s < t) : bytes s < bytes t := by
    rw [bytes_eq, bytes_eq]
    exact flatMap_encode_lt (String.lt_iff.1 less)
  refine ⟨mono, ?_⟩
  intro less
  rcases lt_trichotomy s t with first | rfl | second
  · exact first
  · exact absurd less (List.lt_irrefl _)
  · exact absurd less (List.lt_asymm (mono second))

end FlowGraph.Text
