import FlowGraph.Text.Ascii

/-!
# Identifiers of 128 bits

A uuid is written as 32 lower-case hexadecimal digits in groups of 8, 4, 4, 4 and 12.
It may be read in four forms, in either letter case: the digits alone, the groups with
hyphens, and the groups with hyphens in braces or after `urn:uuid:`.
-/

namespace FlowGraph

/-- A 128-bit identifier, as its 32 hexadecimal digits. -/
structure Uuid where
  digits : List (Fin 16)
  length_digits : digits.length = 32
  deriving DecidableEq

namespace Uuid

instance : Inhabited Uuid := ⟨⟨List.replicate 32 ⟨0, by decide⟩, by simp⟩⟩

/-- The uuid of 32 hexadecimal digits. -/
def ofDigits? (cs : List Char) : Option Uuid :=
  match cs.mapM Text.hexValue? with
  | none => none
  | some ds => if h : ds.length = 32 then some ⟨ds, h⟩ else none

/-- The uuid of 36 characters in groups of 8, 4, 4, 4 and 12 digits with hyphens
between them. -/
def ofGroups? (cs : List Char) : Option Uuid :=
  if cs.length = 36 ∧ cs[8]? = some '-' ∧ cs[13]? = some '-' ∧ cs[18]? = some '-' ∧
      cs[23]? = some '-' then
    ofDigits? (cs.take 8 ++ (cs.drop 9).take 4 ++ (cs.drop 14).take 4 ++ (cs.drop 19).take 4 ++
      cs.drop 24)
  else none

/-- What stands between braces, or after the urn prefix, in 38 or 45 characters. -/
def unwrap? (cs : List Char) : Option (List Char) :=
  if cs.length = 38 ∧ cs[0]? = some '\x7b' ∧ cs[37]? = some '\x7d' then
    some ((cs.drop 1).take 36)
  else if cs.length = 45 then "urn:uuid:".toList.isPrefixOf? cs
  else none

/-- Reads one of the accepted forms, without space around it. -/
def parse? (s : String) : Option Uuid :=
  let cs := s.toList
  if cs.length = 32 then ofDigits? cs
  else if cs.length = 36 then ofGroups? cs
  else (unwrap? cs).bind ofGroups?

/-- The written form, as characters. -/
def toChars (u : Uuid) : List Char :=
  let ds := u.digits.map Text.hexDigit
  ds.take 8 ++ '-' :: ((ds.drop 8).take 4 ++ '-' :: ((ds.drop 12).take 4 ++
    '-' :: ((ds.drop 16).take 4 ++ '-' :: ds.drop 20)))

/-- The written form: lower case, with hyphens. -/
def text (u : Uuid) : String := String.ofList u.toChars

theorem mapM_hexDigit (ds : List (Fin 16)) :
    (ds.map Text.hexDigit).mapM Text.hexValue? = some ds := by
  induction ds with
  | nil => rfl
  | cons d ds ih =>
    rw [List.map_cons, List.mapM_cons, Text.hexValue?_hexDigit, ih]
    rfl

/-- A uuid is read back from its digits alone. -/
theorem ofDigits?_hexDigit (u : Uuid) : ofDigits? (u.digits.map Text.hexDigit) = some u := by
  rw [ofDigits?, mapM_hexDigit]
  exact dif_pos u.length_digits

/-- Five groups with hyphens between them are read as their digits are. -/
theorem ofGroups?_groups {a b c d e : List Char} (ha : a.length = 8) (hb : b.length = 4)
    (hc : c.length = 4) (hd : d.length = 4) (he : e.length = 12) :
    ofGroups? (a ++ '-' :: (b ++ '-' :: (c ++ '-' :: (d ++ '-' :: e)))) =
      ofDigits? (a ++ b ++ c ++ d ++ e) := by
  unfold ofGroups?
  rw [if_pos]
  · simp [List.drop_append, List.drop_eq_nil_of_le, ha, hb, hc, hd]
  · simp [ha, hb, hc, hd, he]

/-- Thirty-two characters in groups of 8, 4, 4, 4 and 12, with hyphens between them. -/
def hyphenated (cs : List Char) : List Char :=
  cs.take 8 ++ '-' :: ((cs.drop 8).take 4 ++ '-' :: ((cs.drop 12).take 4 ++
    '-' :: ((cs.drop 16).take 4 ++ '-' :: cs.drop 20)))

theorem toChars_eq (u : Uuid) : u.toChars = hyphenated (u.digits.map Text.hexDigit) := rfl

theorem forall_mem_hyphenated {P : Char → Prop} {cs : List Char} (hyphen : P '-')
    (each : ∀ c ∈ cs, P c) : ∀ c ∈ hyphenated cs, P c := by
  have piece (m n : Nat) : ∀ c ∈ (cs.drop m).take n, P c :=
    fun c mem => each c (List.mem_of_mem_drop (List.mem_of_mem_take mem))
  have first : ∀ c ∈ cs.take 8, P c := fun c mem => each c (List.mem_of_mem_take mem)
  have last : ∀ c ∈ cs.drop 20, P c := fun c mem => each c (List.mem_of_mem_drop mem)
  simp only [hyphenated, List.forall_mem_append, List.forall_mem_cons]
  exact ⟨first, hyphen, piece 8 4, hyphen, piece 12 4, hyphen, piece 16 4, hyphen, last⟩

theorem length_hyphenated {cs : List Char} (length : cs.length = 32) :
    (hyphenated cs).length = 36 := by
  simp [hyphenated, length]

/-- What holds of digits and hyphens holds of every character that is written. -/
theorem forall_mem_toChars {P : Char → Prop} (digit : ∀ d, P (Text.hexDigit d)) (hyphen : P '-')
    (u : Uuid) : ∀ c ∈ u.toChars, P c := by
  rw [toChars_eq]
  refine forall_mem_hyphenated hyphen ?_
  intro c mem
  obtain ⟨d, -, rfl⟩ := List.mem_map.1 mem
  exact digit d

/-- What is written in groups are the characters of the groups. -/
theorem ofGroups?_hyphenated {cs : List Char} (length : cs.length = 32) :
    ofGroups? (hyphenated cs) = ofDigits? cs := by
  have whole : cs.take 8 ++ (cs.drop 8).take 4 ++ (cs.drop 12).take 4 ++ (cs.drop 16).take 4 ++
      cs.drop 20 = cs := by
    have join (n : Nat) : (cs.drop n).take 4 ++ cs.drop (n + 4) = cs.drop n := by
      rw [← List.drop_drop, List.take_append_drop]
    rw [List.append_assoc, join 16, List.append_assoc, join 12, List.append_assoc, join 8,
      List.take_append_drop]
  refine (ofGroups?_groups ?_ ?_ ?_ ?_ ?_).trans (congrArg ofDigits? whole)
  all_goals simp [length]

/-- A uuid is read back from its written form. -/
theorem parse?_text (u : Uuid) : parse? u.text = some u := by
  have count : (u.digits.map Text.hexDigit).length = 32 := by
    rw [List.length_map, u.length_digits]
  have toList : u.text.toList = hyphenated (u.digits.map Text.hexDigit) := String.toList_ofList
  rw [parse?, toList]
  simp only [length_hyphenated count]
  exact (ofGroups?_hyphenated count).trans (ofDigits?_hexDigit u)

end Uuid

end FlowGraph
