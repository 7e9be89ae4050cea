/-!
# Finding and replacing parts of a text

A text is cut at every place where another one stands, from left to right without
overlaps. The empty text stands before, between and behind all characters.
-/

namespace FlowGraph.Text

/-- The pieces between the places where `find` stands; `skip` characters still belong to
the last such place, and `piece` has the current piece, last character first. -/
def piecesFrom (find : List Char) (skip : Nat) (piece : List Char) :
    List Char → List (List Char)
  | [] => [piece.reverse]
  | c :: cs =>
    match skip with
    | skip + 1 => piecesFrom find skip piece cs
    | 0 =>
      if find.isPrefixOf (c :: cs) then
        piece.reverse :: piecesFrom find (find.length - 1) [] cs
      else piecesFrom find 0 (c :: piece) cs

/-- The pieces of a text between the places where `find` stands. -/
def pieces (find cs : List Char) : List (List Char) :=
  if find.isEmpty then [] :: cs.map (fun c => [c]) ++ [[]]
  else piecesFrom find 0 [] cs

/-- The pieces put together with `between` between them. -/
def join (between : List Char) (ps : List (List Char)) : List Char :=
  between.intercalate ps

/-- At most `limit` pieces, of which the last one keeps what it would be cut at. -/
def piecesUpTo (limit : Nat) (find cs : List Char) : List (List Char) :=
  let ps := pieces find cs
  if ps.length ≤ limit then ps
  else ps.take (limit - 1) ++ [join find (ps.drop (limit - 1))]

/-- The text with `put` in every place where `find` stands. -/
def replaceAll (find put cs : List Char) : List Char := join put (pieces find cs)

/-- The number of characters before the first place where `find` stands. -/
def position? (find : List Char) : List Char → Option Nat
  | [] => if find.isEmpty then some 0 else none
  | c :: cs =>
    if find.isPrefixOf (c :: cs) then some 0 else (position? find cs).map (· + 1)

end FlowGraph.Text
