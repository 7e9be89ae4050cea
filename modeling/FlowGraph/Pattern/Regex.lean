import FlowGraph.Pattern.CharSet

/-!
# Regular expressions and how they match

An expression is matched one character at a time. `step` gives the expressions that
may still match after a character; `isNullable` says that nothing more is needed. Both
are told the characters on the two sides of the place where the match stands, since
anchors depend on them. A search keeps the set of expressions that are under way and
starts the whole expression anew at every place.
-/

namespace FlowGraph.Pattern

/-- A condition on a place in a text. -/
inductive Anchor where
  | textStart
  | textEnd
  | lineStart
  | lineEnd
  | wordBoundary
  | noWordBoundary
  | wordStart
  | wordEnd
  | wordStartHalf
  | wordEndHalf
  deriving DecidableEq

/-- There is a character and it belongs to a word. -/
def isWordSide (c : Option Char) : Bool := c.any Property.word.holds

/-- The condition holds between two characters, or an end of the text. -/
def Anchor.holds (before after : Option Char) : Anchor → Bool
  | .textStart => before.isNone
  | .textEnd => after.isNone
  | .lineStart => before.isNone || before == some '\n'
  | .lineEnd => after.isNone || after == some '\n'
  | .wordBoundary => isWordSide before != isWordSide after
  | .noWordBoundary => isWordSide before == isWordSide after
  | .wordStart => !isWordSide before && isWordSide after
  | .wordEnd => isWordSide before && !isWordSide after
  | .wordStartHalf => !isWordSide before
  | .wordEndHalf => !isWordSide after

/-- A regular expression. -/
inductive Regex where
  | empty
  | set (s : CharSet)
  | anchor (a : Anchor)
  | seq (r s : Regex)
  | alt (r s : Regex)
  /-- At least `least` times, and at most `most` times if that is given. -/
  | repeated (r : Regex) (least : Nat) (most : Option Nat)
  deriving DecidableEq

namespace Regex

/-- One expression after another; nothing is added to what is finished. -/
def followedBy : Regex → Regex → Regex
  | .empty, s => s
  | r, s => .seq r s

/-- The sequence of expressions. -/
def sequence (rs : List Regex) : Regex := rs.foldr .seq .empty

/-- The choice among expressions. -/
def choice : List Regex → Regex
  | [] => .set .none
  | [r] => r
  | r :: rs => .alt r (choice rs)

/-- The expression matches the empty text at a place. -/
def isNullable (before after : Option Char) : Regex → Bool
  | .empty => true
  | .set _ => false
  | .anchor a => a.holds before after
  | .seq r s => r.isNullable before after && s.isNullable before after
  | .alt r s => r.isNullable before after || s.isNullable before after
  | .repeated r least most => least == 0 || most == some 0 || r.isNullable before after

/-- The expressions that may match what follows the character `c`. -/
def step (before : Option Char) (c : Char) : Regex → List Regex
  | .empty => []
  | .set s => if s.mem c then [.empty] else []
  | .anchor _ => []
  | .seq r s =>
    (r.step before c).map (followedBy · s) ++
      if r.isNullable before (some c) then s.step before c else []
  | .alt r s => r.step before c ++ s.step before c
  | .repeated r least most =>
    if most = some 0 then []
    else
      let least := if r.isNullable before (some c) then 0 else least - 1
      (r.step before c).map (followedBy · (.repeated r least (most.map (· - 1))))

/-- The elements of a list, each once. -/
def distinct (rs : List Regex) : List Regex :=
  rs.foldr (fun r rest => if r ∈ rest then rest else r :: rest) []

/-- A match of `whole`, or of an expression under way, ends in the rest of a text. -/
def searchFrom (whole : Regex) (underWay : List Regex) (before : Option Char) :
    List Char → Bool
  | [] => (whole :: underWay).any (isNullable before none)
  | c :: cs =>
    let active := whole :: underWay
    active.any (isNullable before (some c)) ||
      searchFrom whole (distinct (active.flatMap (step before c))) (some c) cs

/-- Some part of a text matches. -/
def isMatch (r : Regex) (text : String) : Bool :=
  searchFrom r [] none text.toList

end Regex

end FlowGraph.Pattern
