/-
  TagAudit.Text.Lines — the lines of a text.

  A line ends with a line feed, or with a carriage return and a line feed; the end is not part
  of the line, and a text that ends with a line feed has no empty line after it.
-/

namespace TagAudit.Text

/-- Reads on after `line`, the characters of the current line in reverse. -/
def linesFrom (line : List Char) : List Char → List (List Char)
  | [] => if line.isEmpty then [] else [line.reverse]
  | '\n' :: cs =>
    (match line with
      | '\r' :: line => line.reverse
      | line => line.reverse) :: linesFrom [] cs
  | c :: cs => linesFrom (c :: line) cs

def lines (cs : List Char) : List (List Char) := linesFrom [] cs

def joinLines (ls : List (List Char)) : List Char := (ls.intersperse ['\n']).flatten

def countLineFeeds (cs : List Char) : Nat := cs.count '\n'

end TagAudit.Text
