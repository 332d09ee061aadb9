/-
  TagAudit.Yaml.Scalar — the texts of YAML documents.

  A scalar is written plain, in quotes of two kinds, or as a block of lines that are kept
  (literal) or folded. Line breaks inside are folded: one becomes a space, of several the
  first is dropped.
-/

import TagAudit.Text.Digits
import TagAudit.Yaml.Cursor

namespace TagAudit.Yaml

inductive Style where
  | plain
  | quoted
  | literal
  | folded
  deriving DecidableEq, Repr

structure Scalar where
  style : Style
  text : String

/-! ## Gaps between words -/

/-- What stands between two words of a scalar: blanks, or line breaks (with none for a first
    one that is escaped). -/
inductive Gap where
  | blanks (cs : List Char)
  | lines (first : Option Char) (more : List Char)

def Gap.text : Gap → List Char
  | .blanks cs => cs
  | .lines (some '\n') [] => [' ']
  | .lines (some '\n') more => more
  | .lines first more => first.toList ++ more

def Gap.isBroken : Gap → Bool
  | .blanks _ => false
  | .lines .. => true

/-- Line breaks with the blanks after each. A tab may not stand left of column `indent`. -/
def lineBreaks? (indent : Nat) : Nat → Cursor → Option (List Char × Cursor)
  | 0, c => some ([], c)
  | fuel + 1, c =>
    match c.lineBreak? with
    | none => some ([], c)
    | some (b, c) =>
      let (ws, c) := c.span isBlank
      if (ws.take indent).contains '\t' then none
      else do
        let (bs, c) ← lineBreaks? indent fuel c
        some (b :: bs, c)

/-- The gap here, which may be empty. -/
def gap? (indent : Nat) (c : Cursor) : Option (Gap × Cursor) := do
  let (ws, c) := c.span isBlank
  let (bs, c) ← lineBreaks? indent c.rest.length c
  match bs with
  | [] => some (.blanks ws, c)
  | b :: more => some (.lines (some b) more, c)

/-! ## Plain scalars -/

/-- The word of a plain scalar here. Inside brackets it ends at their punctuation, before which
    no colon may stand. -/
def plainWord? (inFlow : Bool) : List Char → Option (List Char)
  | [] => some []
  | c :: cs =>
    if isBlank c || isBreak c then some []
    else if c == ':' && inFlow && (cs.head?.map fun d => ",?[]\x7b\x7d".contains d).getD false then none
    else if c == ':' && endsWord cs then some []
    else if inFlow && ",[]\x7b\x7d".contains c then some []
    else (plainWord? inFlow cs).map (c :: ·)

/-- The rest of a plain scalar: what was read is `done`, in reverse, and a gap follows it. The
    last part of the answer says whether a line break came after the scalar. -/
def plainRest? (inFlow : Bool) (indent : Nat) :
    Nat → (done : List Char) → Gap → Cursor → Option (List Char × Cursor × Bool)
  | 0, _, _, _ => none
  | fuel + 1, done, gap, c => do
    let finished := some (done, c, gap.isBroken)
    if c.atDocumentEdge || c.startsWith '#' then finished
    else
      let word ← plainWord? inFlow c.rest
      if word.isEmpty then finished
      else
        let done := word.reverse ++ (gap.text.reverse ++ done)
        let c := c.advance word.length
        if c.rest.isEmpty || !endsWord c.rest then some (done, c, false)
        else
          let (gap, c) ← gap? indent c
          if !inFlow && c.column < indent then some (done, c, gap.isBroken)
          else plainRest? inFlow indent fuel done gap c

def plain? (inFlow : Bool) (indent : Nat) (c : Cursor) : Option (Scalar × Cursor × Bool) := do
  let (done, c, broken) ← plainRest? inFlow indent (c.rest.length + 1) [] (.blanks []) c
  some (⟨.plain, String.ofList done.reverse⟩, c, broken)

/-! ## Quoted scalars -/

/-- The character that an escape of two characters stands for. -/
def escaped? : Char → Option Char
  | '0' => some '\x00'
  | 'a' => some '\x07'
  | 'b' => some '\x08'
  | 't' => some '\t'
  | '\t' => some '\t'
  | 'n' => some '\n'
  | 'v' => some '\x0b'
  | 'f' => some '\x0c'
  | 'r' => some '\r'
  | 'e' => some '\x1b'
  | ' ' => some ' '
  | '"' => some '"'
  | '/' => some '/'
  | '\\' => some '\\'
  | 'N' => some '\u0085'
  | '_' => some '\u00a0'
  | 'L' => some '\u2028'
  | 'P' => some '\u2029'
  | _ => none

/-- How many hexadecimal digits follow the letter of an escape. -/
def escapeDigits : Char → Nat
  | 'x' => 2
  | 'u' => 4
  | 'U' => 8
  | _ => 0

/-- The character of a code given in hexadecimal digits. -/
def charOfHex? (digits : List Char) : Option Char := do
  let ds ← digits.mapM Text.hexDigit?
  let n := ds.foldl (fun n d => 16 * n + d) 0
  if h : n.isValidChar then some (Char.ofNatAux n h) else none

/-- The character written by the escape whose letter is `letter`, and how many characters after
    the letter belong to it. -/
def escape? (letter : Char) (rest : List Char) : Option (Char × Nat) :=
  let n := escapeDigits letter
  if n = 0 then (escaped? letter).map (·, 0)
  else if rest.length < n then none
  else (charOfHex? (rest.take n)).map (·, n)

/-- The rest of a quoted scalar: what was read is `done`, in reverse. Single quotes know no
    escape but the quote written twice. -/
def quotedRest? (single : Bool) : Nat → (done : List Char) → Cursor → Option (List Char × Cursor)
  | 0, _, _ => none
  | fuel + 1, done, c =>
    let afterGap (gap : Gap) (c : Cursor) : Option (List Char × Cursor) :=
      if c.atDocumentEdge then none else quotedRest? single fuel (gap.text.reverse ++ done) c
    match c.rest with
    | [] => none
    | ch :: rest =>
      if isBlank ch || isBreak ch then do
        let (gap, c) ← gap? 0 c
        afterGap gap c
      else if single then
        if ch != '\'' then quotedRest? single fuel (ch :: done) (c.advance 1)
        else if rest.head? == some '\'' then quotedRest? single fuel ('\'' :: done) (c.advance 2)
        else some (done, c.advance 1)
      else if ch == '"' then some (done, c.advance 1)
      else if ch != '\\' then quotedRest? single fuel (ch :: done) (c.advance 1)
      else
        match (c.advance 1).lineBreak? with
        | some (_, c) => do
          let (more, c) ← lineBreaks? 0 c.rest.length (c.skipWhile isBlank)
          afterGap (.lines none more) c
        | none =>
          match rest with
          | [] => none
          | letter :: rest => do
            let (value, n) ← escape? letter rest
            quotedRest? single fuel (value :: done) (c.advance (2 + n))

/-- A scalar in quotes, the first of which has been read. -/
def quoted? (single : Bool) (c : Cursor) : Option (Scalar × Cursor) := do
  let (done, c) ← quotedRest? single (c.rest.length + 1) [] c
  some (⟨.quoted, String.ofList done.reverse⟩, c)

/-! ## Block scalars -/

/-- What becomes of the line breaks at the end of a block. -/
inductive Chomping where
  | strip
  | clip
  | keep
  deriving DecidableEq

/-- The header of a block: chomping, and an indentation from 1 to 9, in either order. -/
def blockHeader? (c : Cursor) : Option (Chomping × Option Nat × Cursor) :=
  let chomping (c : Cursor) : Chomping × Cursor :=
    if c.startsWith '+' then (.keep, c.advance 1)
    else if c.startsWith '-' then (.strip, c.advance 1)
    else (.clip, c)
  let width? (c : Cursor) : Option (Option Nat × Cursor) :=
    match c.rest with
    | d :: _ =>
      if d == '0' then none
      else if Text.isDigit d then some (some (d.toNat - 48), c.advance 1)
      else some (none, c)
    | [] => some (none, c)
  do
    let (chomp, c) := chomping c
    let (width, c) ← width? c
    let (chomp, c) := if chomp = .clip then chomping c else (chomp, c)
    let c ← c.endLine?
    some (chomp, width, c)

/-- The line breaks before the next line of a block that is not empty, with the widest run of
    spaces among these lines; spaces count up to column `indent` if it is known. -/
def blockGap? (indent : Option Nat) : Nat → (widest : Nat) → Cursor → Option (List Char × Nat × Cursor)
  | 0, _, _ => none
  | fuel + 1, widest, c =>
    let spaces := (c.rest.takeWhile (· == ' ')).length
    let c := c.advance (match indent with
      | some n => min spaces (n - c.column)
      | none => spaces)
    let widest := max widest c.column
    if c.startsWith '\t' && (indent.map fun n => decide (c.column < n)).getD true then none
    else
      match c.lineBreak? with
      | none => some ([], widest, c)
      | some (b, c) => do
        let (bs, widest, c) ← blockGap? indent fuel widest c
        some (b :: bs, widest, c)

/-- The rest of a block with the text `done` so far, in reverse, then the line break `first` and
    the empty lines `more`. A line break between two lines that do not start with a blank is
    folded in a folded block. -/
def blockRest? (fold : Bool) (chomp : Chomping) (indent : Nat) :
    Nat → (done : List Char) → (blankBefore : Bool) → (first : Option Char) → (more : List Char) → Cursor →
      Option (List Char × Cursor)
  | 0, _, _, _, _, _ => none
  | fuel + 1, done, blankBefore, first, more, c =>
    if c.column = indent ∧ ¬ c.rest.isEmpty then do
      let blank := (c.rest.head?.map isBlank).getD false
      let gap : Gap := if fold && !blankBefore && !blank then .lines first more else .lines none (first.toList ++ more)
      let (line, c) := c.span (!isBreak ·)
      let done := line.reverse ++ (gap.text.reverse ++ done)
      let (next, c) := match c.lineBreak? with
        | some (b, c) => (some b, c)
        | none => (none, c)
      let (more, _, c) ← blockGap? (some indent) (c.rest.length + 1) 0 c
      blockRest? fold chomp indent fuel done blank next more c
    else
      let kept := match chomp with
        | .strip => []
        | .clip => first.toList
        | .keep => first.toList ++ more
      some (kept.reverse ++ done, c)

/-- A block scalar, whose indicator has been read, in a node that starts at column `base` or
    further right. -/
def block? (fold : Bool) (base : Nat) (c : Cursor) : Option (Scalar × Cursor) := do
  let (chomp, width, c) ← blockHeader? c
  let known := width.map (base - 1 + ·)
  let (more, widest, c) ← blockGap? known (c.rest.length + 1) 0 c
  let indent := known.getD (max widest (max base 1))
  let (done, c) ← blockRest? fold chomp indent (c.rest.length + 1) [] false none more c
  some (⟨if fold then .folded else .literal, String.ofList done.reverse⟩, c)

end TagAudit.Yaml
