import FlowGraph.Text.Unprintable

/-!
# Quoted text for messages

A quoted text stands between double quotes. Quotes, backslashes and the usual controls
have two-character escapes, and a character without a shape of its own is shown by its
code point in braces.
-/

namespace FlowGraph.Text

/-- One character of a quoted text. -/
def quoteChar (c : Char) : List Char :=
  match c with
  | '\x00' => ['\\', '0']
  | '\t' => ['\\', 't']
  | '\r' => ['\\', 'r']
  | '\n' => ['\\', 'n']
  | '\\' => ['\\', '\\']
  | '"' => ['\\', '"']
  | c =>
    if unprintable.mem c then
      ['\\', 'u', '\x7b'] ++ Nat.toDigits 16 c.toNat ++ ['\x7d']
    else [c]

/-- The text between double quotes. -/
def quoted (s : String) : String :=
  String.ofList ('"' :: (s.toList.flatMap quoteChar ++ ['"']))

end FlowGraph.Text
