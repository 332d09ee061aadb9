/-
  TagAudit.Text.Quoted — text in quotes for people to read.

  Quotes, backslashes and line breaks are escaped, and so is every character that would not
  show: one without shape, one that no character is assigned to, or one that melts into the
  character before it, all by their code point, as in `\u{301}`.
-/

import TagAudit.Unicode.Category
import TagAudit.Unicode.Property

namespace TagAudit.Text

/-- Whether a code point shows as a character of its own. -/
def isVisible (n : Nat) : Bool :=
  if n < 0x7F then 0x20 ≤ n
  else Unicode.assigned.contains n && !Unicode.shapeless.contains n && !Unicode.graphemeExtend.contains n

def quotedChar (c : Char) : List Char :=
  match c with
  | '\x00' => ['\\', '0']
  | '\t' => ['\\', 't']
  | '\r' => ['\\', 'r']
  | '\n' => ['\\', 'n']
  | '"' => ['\\', '"']
  | '\\' => ['\\', '\\']
  | c =>
    if isVisible c.toNat then [c]
    else ['\\', 'u', '\x7b'] ++ Nat.toDigits 16 c.toNat ++ ['\x7d']

def quoted (s : String) : String := String.ofList ('"' :: s.toList.flatMap quotedChar ++ ['"'])

end TagAudit.Text
