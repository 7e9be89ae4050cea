import FlowGraph.Script.Numeral
import FlowGraph.Script.Text
import FlowGraph.Script.Token

/-!
# Cutting a script into tokens

Blank characters and comments stand between tokens; a block comment may hold others.
Of two signs that could be read, the longer one is. An expression inside a text is cut
like any other, up to the brace that closes it, where the text goes on.
-/

namespace FlowGraph.Script

/-- What stands between two tokens. -/
inductive Between where
  | blanks
  | lineComment
  /-- Inside so many block comments, less one. -/
  | blockComment (depth : Nat)

/-- The cursor behind blank characters and comments. -/
def skipFrom (b : Between) (place : Place) : List Char → Cursor
  | [] => ⟨place, []⟩
  | c :: cs =>
    match b, cs with
    | .blanks, d :: rest =>
      if c = '/' ∧ d = '/' then skipFrom .lineComment ((place.after c).after d) rest
      else if c = '/' ∧ d = '*' then skipFrom (.blockComment 0) ((place.after c).after d) rest
      else if Text.isBlank c then skipFrom .blanks (place.after c) (d :: rest)
      else ⟨place, c :: d :: rest⟩
    | .blanks, [] => if Text.isBlank c then ⟨place.after c, []⟩ else ⟨place, [c]⟩
    | .lineComment, cs =>
      skipFrom (if c = '\n' then .blanks else .lineComment) (place.after c) cs
    | .blockComment depth, d :: rest =>
      if c = '/' ∧ d = '*' then
        skipFrom (.blockComment (depth + 1)) ((place.after c).after d) rest
      else if c = '*' ∧ d = '/' then
        skipFrom (if depth = 0 then .blanks else .blockComment (depth - 1))
          ((place.after c).after d) rest
      else skipFrom (.blockComment depth) (place.after c) (d :: rest)
    | .blockComment _, [] => ⟨place.after c, []⟩

/-- The cursor at the next token. -/
def Cursor.toToken (c : Cursor) : Cursor := skipFrom .blanks c.place c.rest

/-- The signs of the grammar, longest first. -/
def grammarSigns : List String :=
  ["**=", "..=", "<<=", ">>=",
    "#\x7b", "()", "+=", "-=", "**", "*=", "/=", "..", "==", "=>", "::", "<=", "<<", ">=", ">>",
    "!=", "||", "|=", "&&", "&=", "^=", "%=", "?.", "??", "?[",
    "\x7b", "\x7d", "(", ")", "[", "]", "+", "-", "*", "/", ";", ",", ".", "=", ":", "<", ">",
    "!", "|", "&", "^", "%"]

/-- Signs that scripts may not use, longest first. -/
def keptSigns : List String :=
  ["===", "!==", "::<", "...", "# \x7b",
    "(*", "*)", "++", "--", "->", "<-", "<|", "|>", ":=", ":;", "!.", "#!",
    "#", "~", "@", "$", "?"]

/-- Signs of other languages, with the advice for those who use them. -/
def signAdvice : List (String × String) :=
  [("===", "'===' is not a valid operator. This is not JavaScript! Should it be '=='?"),
    ("!==", "'!==' is not a valid operator. This is not JavaScript! Should it be '!='?"),
    ("->", "'->' is not a valid symbol. This is not C or C++!"),
    ("<-", "'<-' is not a valid symbol. This is not Go! Should it be '<='?"),
    (":=",
      "':=' is not a valid assignment operator. This is not Go or Pascal! Should it be simply '='?"),
    ("(*",
      "'(* .. *)' is not a valid comment format. This is not Pascal! Should it be '/* .. */'?"),
    ("*)",
      "'(* .. *)' is not a valid comment format. This is not Pascal! Should it be '/* .. */'?")]

/-- The token of a kept sign. -/
def keptToken (s : String) : Token :=
  match signAdvice.lookup s with
  | some advice => .bad (.improperSign advice)
  | none => .reserved s

/-- The first of some signs that stands in front. -/
def signIn? (signs : List String) (cs : List Char) : Option String :=
  signs.find? fun s => s.toList.isPrefixOf cs

/-- The operator of not being inside, if it stands in front. -/
def notInside? (cs : List Char) : Option Token :=
  match cs with
  | '!' :: 'i' :: 'n' :: rest =>
    if (rest.head?.map Token.goesOnName).getD false then none else some (.sign "!in")
  | _ => none

/-- The sign in front, with the number of its characters. -/
def signToken? (cs : List Char) : Option (Token × Nat) :=
  match notInside? cs with
  | some t => some (t, 3)
  | none =>
    match signIn? grammarSigns cs, signIn? keptSigns cs with
    | some s, some k => if k.length > s.length then some (keptToken k, k.length)
      else some (.sign s, s.length)
    | some s, none => some (.sign s, s.length)
    | none, some k => some (keptToken k, k.length)
    | none, none => none

/-- The cursor behind a backtick; an end of line right there does not count. -/
def Cursor.intoFree (c : Cursor) : Cursor :=
  let inside := c.next
  match inside.rest with
  | '\n' :: _ => inside.next
  | '\r' :: '\n' :: _ => inside.next.next
  | _ => inside

/-- The lexeme of a text, with the cursor behind it. -/
def textLexeme (style : TextStyle) (start : Place) (c : Cursor) : Lexeme × Cursor :=
  match readText style start c with
  | .closed text after => (⟨.str text, start⟩, after)
  | .paused text after => (⟨.piece text, start⟩, after)
  | .unclosed => (⟨.bad .openText, start⟩, ⟨start, []⟩)
  | .broken m place => (⟨.bad m, place⟩, ⟨place, []⟩)

/-- The lexeme of a character between quotes, with the cursor behind it. -/
def charLexeme (start : Place) (c : Cursor) : Lexeme × Cursor :=
  match c.rest with
  | '\'' :: _ => (⟨.bad (.wrongChar ""), start⟩, c.next)
  | _ =>
    let (lexeme, after) := textLexeme .single start c
    match lexeme.token with
    | .str s =>
      match s.toList with
      | [d] => (⟨.char d, start⟩, after)
      | _ => (⟨.bad (.wrongChar s), start⟩, after)
    | _ => (lexeme, after)

/-- A minus in front of digits belongs to the number. -/
def startsNegative (opensOperand : Bool) (cs : List Char) : Bool :=
  match cs with
  | '-' :: c :: _ => opensOperand && c.isDigit
  | _ => false

/-- The lexeme at a cursor that stands at a token, with the cursor behind it. -/
def lexemeAt (opensOperand : Bool) (c : Cursor) (first : Char) : Lexeme × Cursor :=
  let at_ (t : Token) (n : Nat) : Lexeme × Cursor := (⟨t, c.place⟩, c.skip n)
  if first.isDigit then
    let (token, n) := numeral false c.rest
    at_ token n
  else if Token.startsName first then
    let word := c.rest.takeWhile Token.goesOnName
    at_ (Token.ofWord (String.ofList word)) word.length
  else if startsNegative opensOperand c.rest then
    let (token, n) := numeral true (c.rest.drop 1)
    at_ token (n + 1)
  else if first = '"' then textLexeme .plain c.place c.next
  else if first = '\x60' then textLexeme .free c.place c.intoFree
  else if first = '\'' then charLexeme c.place c.next
  else
    match signToken? c.rest with
    | some (token, n) => at_ token n
    | none => at_ (.bad (.unexpected first.toString)) 1

/-- The braces that are open inside texts, innermost text first. -/
abbrev OpenBraces := List Nat

/-- The open braces after a token; true if a text goes on. -/
def bracesAfter (token : Token) (braces : OpenBraces) : OpenBraces × Bool :=
  match token, braces with
  | .piece _, braces => (0 :: braces, false)
  | .sign "\x7b", n :: outer => ((n + 1) :: outer, false)
  | .sign "#\x7b", n :: outer => ((n + 1) :: outer, false)
  | .sign "\x7d", n :: outer => if n ≤ 1 then (outer, true) else ((n - 1) :: outer, false)
  | _, braces => (braces, false)

/-- Cuts a script from a cursor; every lexeme takes at least one character, so `fuel` is
their greatest number. -/
def cutFrom (fuel : Nat) (braces : OpenBraces) (opensOperand resumed : Bool) (c : Cursor) :
    List Lexeme :=
  match fuel with
  | 0 => []
  | fuel + 1 =>
    let c := if resumed then c else c.toToken
    match c.rest with
    | [] =>
      if resumed then [⟨.bad .openText, c.place⟩]
      else [⟨.ending, c.place⟩]
    | first :: _ =>
      let (lexeme, after) :=
        if resumed then textLexeme .free c.place c else lexemeAt opensOperand c first
      let (braces, resumes) := bracesAfter lexeme.token braces
      match lexeme.token with
      | .bad _ => [lexeme]
      | token => lexeme :: cutFrom fuel braces token.opensOperand resumes after

/-- The lexemes of a script. -/
def cut (source : String) : List Lexeme :=
  let cs := source.toList
  cutFrom (cs.length + 1) [] true false ⟨.start, cs⟩

end FlowGraph.Script
