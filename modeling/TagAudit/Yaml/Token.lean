/-
  TagAudit.Yaml.Token — YAML text as tokens.

  `Token.ofText?` splits a text into tokens and makes its layout explicit: where a block
  collection starts by indentation and where it ends there are tokens as well. A key is known
  by the colon after it, so a place where one may start is kept as a `Candidate`, and its
  tokens are put there once the colon is found; the candidate is given up at the end of its
  line or after 1024 characters. Text that is laid out wrongly has no tokens.
-/

import TagAudit.Yaml.Property
import TagAudit.Yaml.Scalar

namespace TagAudit.Yaml

inductive Token where
  | streamEnd
  | directive (d : Directive)
  | documentStart
  | documentEnd
  | blockSequence
  | blockMapping
  | blockEnd
  | flowSequence
  | flowSequenceEnd
  | flowMapping
  | flowMappingEnd
  | blockEntry
  | flowEntry
  | key
  | value
  | alias (name : String)
  | anchor (name : String)
  | tag (name : TagName)
  | scalar (s : Scalar)

namespace Token

/-- A place where a key may have started. It is required to be one if nothing but a key can
    stand at its column. -/
structure Candidate where
  required : Bool
  /-- How many tokens come before it. -/
  position : Nat
  index : Nat
  line : Nat
  column : Nat

/-- How far a text has been read. -/
structure Layout where
  cursor : Cursor
  tokens : Array Token
  /-- The columns of the open block collections, innermost first. -/
  columns : List Nat
  /-- The candidate of each open flow collection, innermost first, and of the block around them. -/
  candidates : List (Option Candidate)
  /-- Whether a key may start here. -/
  keyAllowed : Bool

namespace Layout

def start (cs : List Char) : Layout := ⟨.ofText cs, #[], [], [none], true⟩

def inFlow (l : Layout) : Bool := 1 < l.candidates.length

/-- The column at which or to the right of which content of the innermost block stands. -/
def base (l : Layout) : Nat := (l.columns.head?.map (· + 1)).getD 0

def push (l : Layout) (t : Token) : Layout := { l with tokens := l.tokens.push t }

def take (l : Layout) (n : Nat) (t : Token) : Layout := { l.push t with cursor := l.cursor.advance n }

def allowKey (l : Layout) (allowed : Bool) : Layout := { l with keyAllowed := allowed }

/-- Opens a block collection at a column further right than the open ones, its token standing
    at `position`. -/
def openBlock (l : Layout) (column position : Nat) (t : Token) : Layout :=
  if l.inFlow || column < l.base then l
  else { l with columns := column :: l.columns, tokens := l.tokens.insertIdxIfInBounds position t }

/-- Closes the block collections that satisfy `p`, from the innermost on. -/
def closeBlocks (l : Layout) (p : Nat → Bool) : Layout :=
  if l.inFlow then l
  else
    { l with
      columns := l.columns.dropWhile p
      tokens := l.tokens ++ (l.columns.takeWhile p).map fun _ => Token.blockEnd }

/-- Gives up the innermost candidate, which must not be required. -/
def dropCandidate? (l : Layout) : Option Layout :=
  match l.candidates with
  | some k :: ks => if k.required then none else some { l with candidates := none :: ks }
  | _ => some l

/-- Makes this place a candidate if a key may start here. -/
def addCandidate? (l : Layout) : Option Layout :=
  if !l.keyAllowed then some l
  else do
    let l ← l.dropCandidate?
    let c := l.cursor
    let k : Candidate := ⟨!l.inFlow && l.columns.head? == some c.column, l.tokens.size, c.index, c.line, c.column⟩
    some { l with candidates := some k :: l.candidates.drop 1 }

/-- Gives up the candidates that are too far back. -/
def dropOldCandidates? (l : Layout) : Option Layout := do
  let isOld (k : Candidate) : Bool := k.line < l.cursor.line || k.index + 1024 < l.cursor.index
  if l.candidates.any fun k => (k.map fun k => k.required && isOld k).getD false then none
  else some { l with candidates := l.candidates.map fun k => k.filter fun k => !isOld k }

/-- The place of the next token: blanks, comments and line breaks are passed over, and tabs
    only where no indentation counts. -/
def skipSpace : Nat → Layout → Layout
  | 0, l => l
  | fuel + 1, l =>
    let c := l.cursor
    let c := if c.column == 0 && c.startsWith '\ufeff' then c.advance 1 else c
    let c := c.skipWhile fun ch => ch == ' ' || (ch == '\t' && (l.inFlow || !l.keyAllowed))
    let c := if c.startsWith '#' then c.skipWhile (!isBreak ·) else c
    match c.lineBreak? with
    | some (_, c) => skipSpace fuel { l with cursor := c, keyAllowed := l.keyAllowed || !l.inFlow }
    | none => { l with cursor := c }

def endBlocks? (l : Layout) : Option Layout := do
  some ((← (l.closeBlocks fun _ => true).dropCandidate?).allowKey false)

def openFlow? (l : Layout) (t : Token) : Option Layout := do
  let l ← l.addCandidate?
  some (({ l with candidates := none :: l.candidates }.allowKey true).take 1 t)

def closeFlow? (l : Layout) (t : Token) : Option Layout := do
  let l ← l.dropCandidate?
  let l := if l.inFlow then { l with candidates := l.candidates.drop 1 } else l
  some ((l.allowKey false).take 1 t)

/-- An indicator that starts an entry, key or value of a block collection, which may open here. -/
def indicator? (l : Layout) (collection t : Token) : Option Layout := do
  if !l.inFlow && !l.keyAllowed then none
  else (l.openBlock l.cursor.column l.tokens.size collection).dropCandidate?.map (·.take 1 t)

/-- The colon before a value. -/
def value? (l : Layout) : Option Layout :=
  match l.candidates with
  | some k :: ks =>
    let l := { l with candidates := none :: ks, tokens := l.tokens.insertIdxIfInBounds k.position .key }
    some (((l.openBlock k.column k.position .blockMapping).allowKey false).take 1 .value)
  | _ => do
    if l.inFlow then some ((l.allowKey false).take 1 .value)
    else some ((← l.indicator? .blockMapping .value).allowKey true)

/-- A part of a node before or in place of its text: an anchor, an alias or a tag. -/
def part? (l : Layout) (read? : Cursor → Option (Token × Cursor)) : Option Layout := do
  let l ← l.addCandidate?
  let (t, c) ← read? l.cursor
  some { (l.push t).allowKey false with cursor := c }

def quoted? (l : Layout) (single : Bool) : Option Layout :=
  l.part? fun c => (Yaml.quoted? single (c.advance 1)).map fun (s, c) => (.scalar s, c)

def block? (l : Layout) (fold : Bool) : Option Layout := do
  let l ← l.dropCandidate?
  let (s, c) ← Yaml.block? fold l.base (l.cursor.advance 1)
  some { (l.push (.scalar s)).allowKey true with cursor := c }

/-- A plain scalar. A key may follow if a line break does. -/
def plain? (l : Layout) : Option Layout := do
  let l ← l.addCandidate?
  let (s, c, broken) ← Yaml.plain? l.inFlow l.base l.cursor
  some { (l.push (.scalar s)).allowKey broken with cursor := c }

/-- The token that starts with the character `ch`, which `rest` follows. -/
def token? (l : Layout) (ch : Char) (rest : List Char) : Option Layout :=
  let c := l.cursor
  let isIndicator := endsWord rest
  if c.column == 0 && ch == '%' then do
    let l ← l.endBlocks?
    let (d, c) ← directive? c
    some { l.push (.directive d) with cursor := c }
  else if c.atMarker '-' then l.endBlocks?.map (·.take 3 .documentStart)
  else if c.atMarker '.' then l.endBlocks?.map (·.take 3 .documentEnd)
  else if ch == '[' then l.openFlow? .flowSequence
  else if ch == '\x7b' then l.openFlow? .flowMapping
  else if ch == ']' then l.closeFlow? .flowSequenceEnd
  else if ch == '\x7d' then l.closeFlow? .flowMappingEnd
  else if ch == ',' then l.dropCandidate?.map fun l => (l.allowKey true).take 1 .flowEntry
  else if ch == '-' && isIndicator then (l.indicator? .blockSequence .blockEntry).map (·.allowKey true)
  else if ch == '?' && (l.inFlow || isIndicator) then
    (l.indicator? .blockMapping .key).map (·.allowKey !l.inFlow)
  else if ch == ':' && (l.inFlow || isIndicator) then l.value?
  else if ch == '*' then l.part? fun c => (anchorName? (c.advance 1)).map fun (name, c) => (.alias name, c)
  else if ch == '&' then l.part? fun c => (anchorName? (c.advance 1)).map fun (name, c) => (.anchor name, c)
  else if ch == '!' then l.part? fun c => (tagName? l.inFlow c).map fun (name, c) => (.tag name, c)
  else if ch == '|' && !l.inFlow then l.block? false
  else if ch == '>' && !l.inFlow then l.block? true
  else if ch == '\'' then l.quoted? true
  else if ch == '"' then l.quoted? false
  else if ch == '-' || ((ch == '?' || ch == ':') && !l.inFlow) then l.plain?
  else if isBlank ch || "?:,[]\x7b\x7d#&*!|>'\"%@`".contains ch then none
  else l.plain?

def finish? (l : Layout) : Option (Array Token) := l.endBlocks?.map fun l => l.tokens.push .streamEnd

/-- The tokens from here on. -/
def run? : Nat → Layout → Option (Array Token)
  | 0, _ => none
  | fuel + 1, l => do
    let l ← (l.skipSpace (l.cursor.rest.length + 1)).dropOldCandidates?
    let l := l.closeBlocks (l.cursor.column < ·)
    match l.cursor.rest with
    | [] => l.finish?
    | ch :: rest => run? fuel (← l.token? ch rest)

end Layout

def ofText? (cs : List Char) : Option (List Token) :=
  if cs.all isAllowed then ((Layout.start cs).run? (cs.length + 1)).map Array.toList else none

end Token

end TagAudit.Yaml
