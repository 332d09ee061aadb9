/-
  TagAudit.Yaml.Cursor — a place in YAML text.

  A `Cursor` is the text that is left with the line and column where it starts, since YAML
  is laid out by indentation. Carriage return and line feed together are one line break, and
  the next-line, line separator and paragraph separator characters are line breaks as well.
-/

namespace TagAudit.Yaml

def isBreak (c : Char) : Bool := c == '\n' || c == '\r' || c == '\u0085' || c == '\u2028' || c == '\u2029'

def isBlank (c : Char) : Bool := c == ' ' || c == '\t'

/-- The characters of anchors and of the names of directives and tag handles. -/
def isWordChar (c : Char) : Bool := c.isAlphanum || c == '_' || c == '-'

/-- The characters that YAML text may hold: no control characters but tab and line breaks. -/
def isAllowed (c : Char) : Bool :=
  let n := c.toNat
  c == '\t' || isBreak c || (0x20 ≤ n && n ≤ 0x7E) || (0xA0 ≤ n && n ≤ 0xFFFD) || 0x10000 ≤ n

/-- Whether a word that `rest` follows is over: at a blank, a line break or the end of the text. -/
def endsWord (rest : List Char) : Bool := (rest.head?.map fun c => isBlank c || isBreak c).getD true

structure Cursor where
  rest : List Char
  index : Nat
  line : Nat
  column : Nat

namespace Cursor

def ofText (cs : List Char) : Cursor := ⟨cs, 0, 0, 0⟩

/-- The place `n` characters on in the same line. -/
def advance (c : Cursor) (n : Nat) : Cursor :=
  { c with rest := c.rest.drop n, index := c.index + n, column := c.column + n }

/-- The longest run of characters of a class, and the place after it. -/
def span (p : Char → Bool) (c : Cursor) : List Char × Cursor :=
  let run := c.rest.takeWhile p
  (run, c.advance run.length)

def skipWhile (p : Char → Bool) (c : Cursor) : Cursor := (c.span p).2

def startsWith (c : Cursor) (ch : Char) : Bool := c.rest.head? == some ch

/-- The line break here as it counts in a scalar, where the usual ones are all a line feed,
    and the start of the next line. -/
def lineBreak? (c : Cursor) : Option (Char × Cursor) :=
  match c.rest with
  | '\r' :: '\n' :: rest => some ('\n', ⟨rest, c.index + 2, c.line + 1, 0⟩)
  | ch :: rest =>
    if isBreak ch then
      some (if ch == '\u2028' || ch == '\u2029' then ch else '\n', ⟨rest, c.index + 1, c.line + 1, 0⟩)
    else none
  | [] => none

/-- The place after blanks and a comment in this line. -/
def skipComment (c : Cursor) : Cursor :=
  let c := c.skipWhile isBlank
  if c.startsWith '#' then c.skipWhile (!isBreak ·) else c

/-- The start of the next line, or the end of the text, if only blanks and a comment are left
    in this line. -/
def endLine? (c : Cursor) : Option Cursor :=
  let c := c.skipComment
  if c.rest.isEmpty then some c else c.lineBreak?.map (·.2)

/-- Whether a line starts here with one of the marks that end a document. -/
def atMarker (c : Cursor) (mark : Char) : Bool :=
  c.column == 0 &&
    match c.rest with
    | a :: b :: d :: rest => a == mark && b == mark && d == mark && endsWord rest
    | _ => false

/-- Whether a document ends or another starts here. -/
def atDocumentEdge (c : Cursor) : Bool := c.atMarker '-' || c.atMarker '.'

end Cursor

end TagAudit.Yaml
