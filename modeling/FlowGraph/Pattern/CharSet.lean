import FlowGraph.Text.Blank
import FlowGraph.Text.CaseFold
import FlowGraph.Text.Category
import FlowGraph.Text.Word

/-!
# Sets of characters in patterns

A set is built from ranges and character properties by the set operations. A folded
set holds a character as soon as the unfolded one holds one of its case variants.
-/

namespace FlowGraph.Pattern

/-- A property of characters that a pattern can name. -/
inductive Property where
  | decimalDigit
  | blank
  | word
  | letter
  | capital
  | smallLetter
  | mark
  | number
  | punctuation
  | symbol
  deriving DecidableEq

/-- The character has the property. -/
def Property.holds : Property → Char → Bool
  | .decimalDigit, c => Text.decimalDigits.mem c
  | .blank, c => Text.isBlank c
  | .word, c => Text.wordCharacters.mem c
  | .letter, c => Text.letters.mem c
  | .capital, c => Text.capitals.mem c
  | .smallLetter, c => Text.smallLetters.mem c
  | .mark, c => Text.marks.mem c
  | .number, c => Text.numbers.mem c
  | .punctuation, c => Text.punctuation.mem c
  | .symbol, c => Text.symbols.mem c

/-- A set of characters. -/
inductive CharSet where
  | none
  | range (first last : Char)
  | property (p : Property)
  | union (s t : CharSet)
  | inter (s t : CharSet)
  | compl (s : CharSet)
  /-- Every case variant of the characters of a set. -/
  | folded (s : CharSet)
  deriving DecidableEq

namespace CharSet

/-- The character lies in the set. -/
def mem : CharSet → Char → Bool
  | .none, _ => false
  | .range first last, c => first ≤ c && c ≤ last
  | .property p, c => p.holds c
  | .union s t, c => s.mem c || t.mem c
  | .inter s t, c => s.mem c && t.mem c
  | .compl s, c => !s.mem c
  | .folded s, c => (Text.variants c).any s.mem

/-- The set of one character. -/
def single (c : Char) : CharSet := .range c c

/-- Every character. -/
def all : CharSet := .compl .none

/-- Every character but the line feed. -/
def notLineFeed : CharSet := .compl (single '\n')

/-- What lies in the first set and not in the second. -/
def minus (s t : CharSet) : CharSet := .inter s (.compl t)

/-- What lies in exactly one of two sets. -/
def either (s t : CharSet) : CharSet := .union (minus s t) (minus t s)

/-- The union of sets. -/
def unions (ss : List CharSet) : CharSet := ss.foldr .union .none

end CharSet

end FlowGraph.Pattern
