/-
  TagAudit.Snippet — lines of a source text, and the text of a declaration cut out of it.

  Offsets count the bytes of the UTF-8 form, lines are numbered from one. A snippet runs from
  the line a declaration starts on to the line on which its braces balance; `truncate` keeps
  it from growing long.
-/

import TagAudit.Text.Blank
import TagAudit.Text.Lines

namespace TagAudit.Snippet

open Text

/-! ## Lines of offsets -/

/-- The characters that start before a byte. -/
def before (offset : Nat) : List Char → List Char
  | [] => []
  | c :: cs => if offset = 0 then [] else c :: before (offset - c.utf8Size) cs

/-- The characters that do not start before a byte. -/
def after (offset : Nat) : List Char → List Char
  | [] => []
  | c :: cs => if offset = 0 then c :: cs else after (offset - c.utf8Size) cs

/-- The line of an offset; that of the last character for one past the end. -/
def lineOf (source : List Char) (offset : Nat) : Nat := countLineFeeds (before offset source) + 1

def atLineFeed (cs : List Char) : List Char := cs.dropWhile (· != '\n')

/-- The text after the end of a comment; nothing is left after one without an end. -/
def afterComment : List Char → List Char
  | [] => []
  | '*' :: '/' :: cs => cs
  | _ :: cs => afterComment cs

/-- The text from the first token on: white space and comments are skipped. -/
def tokenFrom : Nat → List Char → List Char
  | 0, cs => cs
  | fuel + 1, cs =>
    match trimStart cs with
    | '#' :: rest => tokenFrom fuel (atLineFeed rest)
    | '/' :: '/' :: rest => tokenFrom fuel (atLineFeed rest)
    | '/' :: '*' :: rest => tokenFrom fuel (afterComment rest)
    | rest => rest

/-- The line of the first token at or after an offset. -/
def tokenLine (source : List Char) (offset : Nat) : Nat :=
  let rest := after offset source
  let token := tokenFrom (rest.length + 1) rest
  countLineFeeds (source.take (source.length - token.length)) + 1

/-! ## Balancing braces -/

/-- How many braces are open, whether there was one yet, and whether a comment is open. -/
structure Braces where
  depth : Nat
  opened : Bool
  inComment : Bool
  deriving DecidableEq, Repr, Inhabited

namespace Braces

def start : Braces := ⟨0, false, false⟩

/-- Reads on in a line; whether the outermost brace was closed. Braces in quotes and in
    comments do not count, and quotes end with the line. -/
def feed (b : Braces) (quoted : Bool) : List Char → Braces × Bool
  | [] => (b, false)
  | c :: cs =>
    if b.inComment then
      match c, cs with
      | '*', '/' :: cs => feed { b with inComment := false } quoted cs
      | _, cs => feed b quoted cs
    else if quoted then
      match c, cs with
      | '\\', _ :: cs => feed b true cs
      | '"', cs => feed b false cs
      | _, cs => feed b true cs
    else
      match c, cs with
      | '"', cs => feed b true cs
      | '#', _ => (b, false)
      | '/', '/' :: _ => (b, false)
      | '/', '*' :: cs => feed { b with inComment := true } false cs
      | '\x7b', cs => feed { b with depth := b.depth + 1, opened := true } false cs
      | '\x7d', cs =>
        if b.opened then
          if b.depth ≤ 1 then ({ b with depth := 0 }, true) else feed { b with depth := b.depth - 1 } false cs
        else feed b false cs
      | _, cs => feed b false cs

/-- Number of lines up to the one that closes the outermost brace. -/
def linesToClose? (b : Braces) : List (List Char) → Option Nat
  | [] => none
  | l :: ls =>
    match b.feed false l with
    | (_, true) => some 1
    | (b, false) => (b.linesToClose? ls).map (· + 1)

end Braces

/-! ## Snippets -/

/-- Greatest number of bytes of a snippet that is kept whole. -/
def maxBytes : Nat := 10240

/-- What stands at the end of a snippet that was cut. -/
def truncationMark : List Char := "\n# ... (truncated for display)".toList

/-- The longest beginning of at most `room` bytes that a line feed follows. -/
def wholeLines? (room : Nat) : List Char → Option (List Char)
  | [] => none
  | c :: cs =>
    let more := if c.utf8Size ≤ room then (wholeLines? (room - c.utf8Size) cs).map (c :: ·) else none
    match more with
    | some p => some p
    | none => if c = '\n' then some [] else none

/-- Cuts a long snippet at the end of a line. -/
def truncate (cs : List Char) : List Char :=
  if byteSize cs ≤ maxBytes then cs
  else
    match wholeLines? maxBytes cs with
    | some p => p ++ truncationMark
    | none => trimStart truncationMark

/-- The text of the declaration that starts on a line. Where its braces do not balance it runs
    to `lastLine`. -/
def extract (source : List Char) (startLine lastLine : Nat) : List Char :=
  let ls := lines source
  if startLine = 0 ∨ ls.length < startLine then []
  else
    let from_ := ls.drop (startLine - 1)
    let count := (Braces.start.linesToClose? from_).getD
      (min (max lastLine startLine) ls.length - (startLine - 1))
    truncate (trim (joinLines (from_.take count)))

end TagAudit.Snippet
