import FlowGraph.Pattern.Regex
import FlowGraph.Text.Ascii

/-!
# The notation of regular expressions

An expression is read from left to right onto a stack of open groups. Every item takes
at least one character, and the reading goes on only with a shorter rest, so it ends.
Anything that the notation does not know makes the whole expression invalid.
-/

namespace FlowGraph.Pattern

/-- The settings that an expression can change for what follows inside a group. -/
structure Flags where
  /-- Letters stand for all their case variants. -/
  ignoreCase : Bool
  /-- A point stands for a line feed too. -/
  dotAll : Bool
  /-- The start and end signs hold at lines. -/
  multiLine : Bool
  /-- Blanks and comments between items are passed over. -/
  spaced : Bool

/-- The settings of file patterns. -/
def Flags.initial : Flags := ⟨true, false, false, false⟩

/-- The set of one character under the settings. -/
def Flags.char (f : Flags) (c : Char) : CharSet :=
  if f.ignoreCase then .folded (.single c) else .single c

/-- A set under the settings. -/
def Flags.fold (f : Flags) (s : CharSet) : CharSet :=
  if f.ignoreCase then .folded s else s

/-! ## Escapes -/

/-- What an escape stands for. -/
inductive Escape where
  | char (c : Char)
  | set (s : CharSet)
  | property (s : CharSet)
  | anchor (a : Anchor)

/-- The general categories by their names in lower case without separators. -/
def categories : List (String × CharSet) :=
  [("l", .property .letter), ("letter", .property .letter),
   ("lu", .property .capital), ("uppercaseletter", .property .capital),
   ("ll", .property .smallLetter), ("lowercaseletter", .property .smallLetter),
   ("m", .property .mark), ("mark", .property .mark),
   ("n", .property .number), ("number", .property .number),
   ("nd", .property .decimalDigit), ("decimalnumber", .property .decimalDigit),
   ("p", .property .punctuation), ("punctuation", .property .punctuation),
   ("punct", .property .punctuation),
   ("s", .property .symbol), ("symbol", .property .symbol),
   ("whitespace", .property .blank), ("any", .all), ("ascii", .range '\x00' '\x7f')]

/-- The set of a category's name. -/
def category? (name : List Char) : Option CharSet :=
  let bare := (name.filter fun c => c != ' ' && c != '_' && c != '-').map Char.toLower
  categories.lookup (String.ofList bare)

/-- The character of a hexadecimal number. -/
def charOfHex? (ds : List Char) : Option Char := do
  let values ← ds.mapM Text.hexValue?
  let n := values.foldl (fun n d => if n < 0x200000 then n * 16 + d.val else n) 0
  if ds.isEmpty || n ≥ 0x110000 || (0xD800 ≤ n && n < 0xE000) then none
  else some (Char.ofNat n)

/-- Reads the number of a hexadecimal escape with `digits` places or in braces. -/
def readHex? (digits : Nat) : List Char → Option (Char × List Char)
  | '\x7b' :: cs =>
    match cs.span (· != '\x7d') with
    | (ds, _ :: rest) => (charOfHex? ds).map fun c => (c, rest)
    | (_, []) => none
  | cs =>
    if cs.length < digits then none
    else (charOfHex? (cs.take digits)).map fun c => (c, cs.drop digits)

/-- Reads the name of a category, one letter or in braces. -/
def readCategory? (negated : Bool) : List Char → Option (CharSet × List Char)
  | '\x7b' :: cs =>
    match cs.span (· != '\x7d') with
    | (name, _ :: rest) =>
      let (inner, name) := match name with
        | '^' :: name => (true, name)
        | name => (false, name)
      (category? name).map fun s => (if negated != inner then .compl s else s, rest)
    | (_, []) => none
  | c :: rest => (category? [c]).map fun s => (if negated then .compl s else s, rest)
  | [] => none

/-- The escaped characters that stand for themselves. -/
def isEscapable (c : Char) : Bool :=
  c.toNat < 0x80 && !c.isAlphanum && c != '<' && c != '>'

/-- The signs of the notation, those inside brackets and of comments too. -/
def isMeta (c : Char) : Bool := "\\.+*?()|[]\x7b\x7d^$#&-~".toList.contains c

/-- The text of an expression that stands for a character itself. -/
def escape (c : Char) : List Char := if isMeta c then ['\\', c] else [c]

/-- The named word boundaries. -/
def boundaries : List (String × Anchor) :=
  [("start", .wordStart), ("end", .wordEnd), ("start-half", .wordStartHalf),
   ("end-half", .wordEndHalf)]

/-- Reads what follows `\b`: a named boundary, or nothing of it. -/
def readBoundary? (cs : List Char) : Option (Anchor × List Char) :=
  match cs with
  | '\x7b' :: inner =>
    match inner.head? with
    | some c =>
      if c.isAlpha || c == '-' then
        match inner.span (fun c => c.isAlpha || c == '-') with
        | (name, '\x7d' :: rest) =>
          (boundaries.lookup (String.ofList name)).map fun a => (a, rest)
        | _ => none
      else some (.wordBoundary, cs)
    | none => some (.wordBoundary, cs)
  | _ => some (.wordBoundary, cs)

/-- Reads an escape after its backslash. -/
def readEscape? (flags : Flags) : List Char → Option (Escape × List Char)
  | [] => none
  | c :: cs =>
    match c with
    | 'd' => some (.set (.property .decimalDigit), cs)
    | 'D' => some (.set (.compl (.property .decimalDigit)), cs)
    | 's' => some (.set (.property .blank), cs)
    | 'S' => some (.set (.compl (.property .blank)), cs)
    | 'w' => some (.set (.property .word), cs)
    | 'W' => some (.set (.compl (.property .word)), cs)
    | 'p' => (readCategory? false cs).map fun (s, rest) => (.property (flags.fold s), rest)
    | 'P' => (readCategory? true cs).map fun (s, rest) => (.property (flags.fold s), rest)
    | 'x' => (readHex? 2 cs).map fun (c, rest) => (.char c, rest)
    | 'u' => (readHex? 4 cs).map fun (c, rest) => (.char c, rest)
    | 'U' => (readHex? 8 cs).map fun (c, rest) => (.char c, rest)
    | 'a' => some (.char '\x07', cs)
    | 'f' => some (.char '\x0c', cs)
    | 't' => some (.char '\t', cs)
    | 'n' => some (.char '\n', cs)
    | 'r' => some (.char '\r', cs)
    | 'v' => some (.char '\x0b', cs)
    | 'A' => some (.anchor .textStart, cs)
    | 'z' => some (.anchor .textEnd, cs)
    | 'b' => (readBoundary? cs).map fun (a, rest) => (.anchor a, rest)
    | 'B' => some (.anchor .noWordBoundary, cs)
    | '<' => some (.anchor .wordStart, cs)
    | '>' => some (.anchor .wordEnd, cs)
    | c => if isEscapable c then some (.char c, cs) else none

/-! ## Sets in brackets -/

/-- The ASCII classes by name. -/
def asciiClasses : List (String × CharSet) :=
  let digit := CharSet.range '0' '9'
  let lower := CharSet.range 'a' 'z'
  let upper := CharSet.range 'A' 'Z'
  let alpha := CharSet.union lower upper
  [("alnum", .union digit alpha), ("alpha", alpha), ("ascii", .range '\x00' '\x7f'),
   ("blank", .union (.single '\t') (.single ' ')),
   ("cntrl", .union (.range '\x00' '\x1f') (.single '\x7f')), ("digit", digit),
   ("graph", .range '!' '~'), ("lower", lower), ("print", .range ' ' '~'),
   ("punct", .unions [.range '!' '/', .range ':' '@', .range '[' '\x60', .range '\x7b' '~']),
   ("space", .unions [.range '\t' '\r', .single ' ']), ("upper", upper),
   ("word", .unions [digit, alpha, .single '_']),
   ("xdigit", .unions [digit, .range 'a' 'f', .range 'A' 'F'])]

/-- Reads an ASCII class after the bracket that opens it. -/
def readAsciiClass? : List Char → Option (CharSet × List Char)
  | ':' :: cs =>
    let (negated, cs) := match cs with
      | '^' :: cs => (true, cs)
      | cs => (false, cs)
    match cs.span (fun c => c != ':' && c != ']') with
    | (name, ':' :: ']' :: rest) =>
      (asciiClasses.lookup (String.ofList name)).map fun s =>
        (if negated then .compl s else s, rest)
    | _ => none
  | _ => none

/-- An operation between two sets. -/
inductive SetOperation where
  | intersection
  | difference
  | symmetricDifference

/-- An open bracket: its operand and operation so far, and the union being collected. -/
structure Bracket where
  negated : Bool
  pending : Option (CharSet × SetOperation)
  members : CharSet

/-- The set of a bracket so far. -/
def Bracket.value (flags : Flags) (b : Bracket) : CharSet :=
  let members := flags.fold b.members
  match b.pending with
  | none => members
  | some (s, .intersection) => .inter s members
  | some (s, .difference) => .minus s members
  | some (s, .symmetricDifference) => .either s members

/-- The set of a bracket that is closed. -/
def Bracket.close (flags : Flags) (b : Bracket) : CharSet :=
  if b.negated then .compl (b.value flags) else b.value flags

/-- Adds members to a bracket. -/
def Bracket.add (b : Bracket) (s : CharSet) : Bracket :=
  { b with members := .union b.members s }

/-- The bracket after an operation sign. -/
def Bracket.operate (flags : Flags) (b : Bracket) (op : SetOperation) : Bracket :=
  { b with pending := some (b.value flags, op), members := .none }

/-- Reads the start of a bracket: a negation, hyphens and a closing bracket that stand
for themselves. -/
def openBracket (cs : List Char) : Bracket × List Char :=
  let (negated, cs) := match cs with
    | '^' :: cs => (true, cs)
    | cs => (false, cs)
  let hyphens := cs.takeWhile (· == '-')
  let cs := cs.drop hyphens.length
  if hyphens.isEmpty then
    match cs with
    | ']' :: cs => (⟨negated, none, .single ']'⟩, cs)
    | cs => (⟨negated, none, .none⟩, cs)
  else (⟨negated, none, .single '-'⟩, cs)

/-- Reads one character or escape of a bracket. -/
def readMember? (flags : Flags) : List Char → Option (Escape × List Char)
  | '\\' :: cs => readEscape? flags cs
  | c :: cs => some (.char c, cs)
  | [] => none

/-- The members that a single item stands for. -/
def memberSet? : Escape → Option CharSet
  | .char c => some (.single c)
  | .set s | .property s => some s
  | .anchor _ => none

/-- Reads an item of a bracket: a member or a range. -/
def readItem? (flags : Flags) (cs : List Char) : Option (CharSet × List Char) := do
  let (first, rest) ← readMember? flags cs
  match rest with
  | '-' :: ']' :: _ | '-' :: '-' :: _ => (memberSet? first).map fun s => (s, rest)
  | '-' :: rest =>
    let (last, rest) ← readMember? flags rest
    match first, last with
    | .char a, .char b => if a ≤ b then some (.range a b, rest) else none
    | _, _ => none
  | _ => (memberSet? first).map fun s => (s, rest)

/-- Reads brackets from inside the innermost of those that are open. -/
def readBrackets? (flags : Flags) (b : Bracket) (outer : List Bracket) (cs : List Char) :
    Option (CharSet × List Char) :=
  match cs with
  | [] => none
  | '[' :: cs =>
    match readAsciiClass? cs with
    | some (s, rest) =>
      if rest.length < cs.length then readBrackets? flags (b.add s) outer rest else none
    | none =>
      let (inner, rest) := openBracket cs
      if rest.length ≤ cs.length then readBrackets? flags inner (b :: outer) rest else none
  | ']' :: cs =>
    match outer with
    | [] => some (b.close flags, cs)
    | o :: outer => readBrackets? flags (o.add (b.close flags)) outer cs
  | '&' :: '&' :: cs => readBrackets? flags (b.operate flags .intersection) outer cs
  | '-' :: '-' :: cs => readBrackets? flags (b.operate flags .difference) outer cs
  | '~' :: '~' :: cs => readBrackets? flags (b.operate flags .symmetricDifference) outer cs
  | c :: cs =>
    match readItem? flags (c :: cs) with
    | some (s, rest) =>
      if rest.length < (c :: cs).length then readBrackets? flags (b.add s) outer rest else none
    | none => none
termination_by cs.length
decreasing_by all_goals (simp only [List.length_cons] at *; omega)

/-- Reads a set in brackets after the bracket that opens it. -/
def readSet? (flags : Flags) (cs : List Char) : Option (CharSet × List Char) :=
  let (b, rest) := openBracket cs
  readBrackets? flags b [] rest

/-! ## Repetitions -/

/-- Passes over the blank characters at the front. -/
def skipBlanks (cs : List Char) : List Char := cs.dropWhile Text.isBlank

/-- Reads a number of repetitions, blanks around it left out. -/
def readCount? (cs : List Char) : Option (Nat × List Char) :=
  let cs := skipBlanks cs
  let ds := cs.takeWhile Char.isDigit
  if ds.isEmpty || Text.digitsValue ds ≥ UInt32.size then none
  else some (Text.digitsValue ds, skipBlanks (cs.drop ds.length))

/-- Reads the bounds of a repetition after the brace that opens them. -/
def readBounds? (cs : List Char) : Option ((Nat × Option Nat) × List Char) := do
  let (least, rest) ← readCount? cs
  match rest with
  | ',' :: rest =>
    match skipBlanks rest with
    | '\x7d' :: rest => some ((least, none), rest)
    | rest =>
      let (most, rest) ← readCount? rest
      match rest with
      | '\x7d' :: rest => if least ≤ most then some ((least, some most), rest) else none
      | _ => none
  | '\x7d' :: rest => some ((least, some least), rest)
  | _ => none

/-- Passes over the sign that makes a repetition lazy. -/
def skipLazy : List Char → List Char
  | '?' :: cs => cs
  | cs => cs

/-! ## Groups -/

/-- Reads settings: letters, and a minus sign before those that are switched off. -/
def readFlags? (flags : Flags) (off : Bool) (seen : List Char) : List Char →
    Option (Flags × List Char × List Char)
  | [] => none
  | c :: cs =>
    if c == ':' || c == ')' then
      if seen.head? == some '-' then none else some (flags, seen, c :: cs)
    else if c ∈ seen then none
    else
      match c with
      | '-' => readFlags? flags true ('-' :: seen) cs
      | 'i' => readFlags? { flags with ignoreCase := !off } off (c :: seen) cs
      | 's' => readFlags? { flags with dotAll := !off } off (c :: seen) cs
      | 'm' => readFlags? { flags with multiLine := !off } off (c :: seen) cs
      | 'x' => readFlags? { flags with spaced := !off } off (c :: seen) cs
      | 'u' | 'U' | 'R' => readFlags? flags off (c :: seen) cs
      | _ => none

/-- A character of a group's name; the first one is more restricted. -/
def isGroupNameChar (first : Bool) (c : Char) : Bool :=
  c == '_' || Text.letters.mem c ||
    (!first && (c == '.' || c == '[' || c == ']' || Text.numbers.mem c))

/-- The name of a group, if it is one. -/
def isGroupName : List Char → Bool
  | [] => false
  | c :: cs => isGroupNameChar true c && cs.all (isGroupNameChar false)

/-- What stands at the start of a group. -/
inductive GroupStart where
  /-- A group with its settings, and its name if it has one. -/
  | group (flags : Flags) (name : Option (List Char))
  /-- No group: the settings of what follows. -/
  | settings (flags : Flags)

/-- Reads the name of a group up to its closing sign. -/
def readGroupName? (flags : Flags) (cs : List Char) : Option (GroupStart × List Char) :=
  match cs.span (· != '>') with
  | (name, _ :: rest) => if isGroupName name then some (.group flags (some name), rest) else none
  | (_, []) => none

/-- Reads the start of a group after its parenthesis. -/
def readGroupStart? (flags : Flags) : List Char → Option (GroupStart × List Char)
  | '?' :: '=' :: _ | '?' :: '!' :: _ | '?' :: '<' :: '=' :: _ | '?' :: '<' :: '!' :: _ => none
  | '?' :: 'P' :: '<' :: cs => readGroupName? flags cs
  | '?' :: '<' :: cs => readGroupName? flags cs
  | '?' :: cs =>
    match readFlags? flags false [] cs with
    | some (flags, _, ':' :: rest) => some (.group flags none, rest)
    | some (flags, seen, ')' :: rest) => if seen.isEmpty then none else some (.settings flags, rest)
    | _ => none
  | cs => some (.group flags none, cs)

/-! ## Expressions -/

/-- An open group: its branches so far, the items of the current one, and the settings
to return to. An item without expression is a change of settings, which cannot be
repeated. All are kept last one first. -/
structure Group where
  branches : List Regex
  items : List (Option Regex)
  outside : Flags

/-- The expression of the current branch. -/
def Group.branch (g : Group) : Regex := Regex.sequence (g.items.reverse.filterMap id)

/-- The expression of a group that is closed. -/
def Group.close (g : Group) : Regex := Regex.choice (g.branch :: g.branches).reverse

/-- Adds an item. -/
def Group.add (g : Group) (r : Regex) : Group := { g with items := some r :: g.items }

/-- Starts another branch. -/
def Group.nextBranch (g : Group) : Group :=
  { g with branches := g.branch :: g.branches, items := [] }

/-- Repeats the last item. -/
def Group.repeatLast? (g : Group) (least : Nat) (most : Option Nat) : Option Group :=
  match g.items with
  | some r :: items => some { g with items := some (.repeated r least most) :: items }
  | _ => none

/-- The expression of an escape. -/
def escapeRegex (flags : Flags) : Escape → Regex
  | .char c => .set (flags.char c)
  | .set s | .property s => .set s
  | .anchor a => .anchor a

/-- The state of reading an expression. -/
structure Reading where
  flags : Flags
  group : Group
  outer : List Group
  /-- The names of groups so far. -/
  names : List (List Char)

/-- Adds an item to the innermost group. -/
def Reading.put (r : Reading) (x : Regex) : Reading := { r with group := r.group.add x }

/-- Reads a repetition sign's bounds and passes over what makes it lazy. -/
def Reading.repeat? (r : Reading) (least : Nat) (most : Option Nat) (rest : List Char) :
    Option (Reading × List Char) :=
  (r.group.repeatLast? least most).map fun g => ({ r with group := g }, skipLazy rest)

/-- Reads one item of an expression. -/
def Reading.item? (r : Reading) (c : Char) (cs : List Char) : Option (Reading × List Char) :=
  if r.flags.spaced && Text.isBlank c then some (r, cs)
  else
    match c with
    | '(' =>
      match readGroupStart? r.flags cs with
      | some (.settings flags, rest) =>
        some ({ r with flags, group := { r.group with items := none :: r.group.items } }, rest)
      | some (.group flags name, rest) =>
        let repeatsName := name.any (· ∈ r.names)
        if repeatsName then none
        else
          some ({ flags, group := ⟨[], [], r.flags⟩, outer := r.group :: r.outer,
                  names := name.toList ++ r.names }, rest)
      | none => none
    | ')' =>
      match r.outer with
      | [] => none
      | g :: outer =>
        some ({ r with flags := r.group.outside, group := g.add r.group.close, outer }, cs)
    | '|' => some ({ r with group := r.group.nextBranch }, cs)
    | '[' =>
      match readSet? r.flags cs with
      | some (s, rest) => some (r.put (.set s), rest)
      | none => none
    | '?' => r.repeat? 0 (some 1) cs
    | '*' => r.repeat? 0 none cs
    | '+' => r.repeat? 1 none cs
    | '\x7b' =>
      match readBounds? cs with
      | some ((least, most), rest) => r.repeat? least most rest
      | none => none
    | '.' => some (r.put (.set (if r.flags.dotAll then .all else .notLineFeed)), cs)
    | '^' => some (r.put (.anchor (if r.flags.multiLine then .lineStart else .textStart)), cs)
    | '$' => some (r.put (.anchor (if r.flags.multiLine then .lineEnd else .textEnd)), cs)
    | '\\' =>
      match readEscape? r.flags cs with
      | some (e, rest) => some (r.put (escapeRegex r.flags e), rest)
      | none => none
    | c =>
      if r.flags.spaced && c == '#' then some (r, cs.dropWhile (· != '\n'))
      else some (r.put (.set (r.flags.char c)), cs)

/-- Reads the rest of an expression. -/
def Reading.toEnd? (r : Reading) (cs : List Char) : Option Regex :=
  match cs with
  | [] => if r.outer.isEmpty then some r.group.close else none
  | c :: cs =>
    match r.item? c cs with
    | some (r, rest) => if rest.length ≤ cs.length then r.toEnd? rest else none
    | none => none
termination_by cs.length

/-- The reading before the first character of an expression. -/
def Reading.start : Reading := ⟨.initial, ⟨[], [], .initial⟩, [], []⟩

/-- The expression of a text, if the text is one. -/
def Regex.parse? (text : String) : Option Regex := Reading.start.toEnd? text.toList

end FlowGraph.Pattern
