/-
  TagAudit.Gloss — what the expressions in a snippet resolve to.

  Each line of a snippet is searched for calls of `merge`, interpolations and references; those
  that resolve are listed below the snippet by line. What stands in quotes is text and not
  searched, interpolations in it aside, and lines that are comments are passed over.
-/

import TagAudit.Symbols.Dependencies
import TagAudit.Symbols.Resolution
import TagAudit.Text.Lines
import TagAudit.Unicode.Word

namespace TagAudit

/-- A resolved expression on a line of a snippet, to be noted below it. -/
structure Gloss where
  line : Nat
  written : String
  value : Value
  origin : Symbols.Origin

namespace Gloss

/-- The characters of a line from position `start` up to `stop`. -/
structure Range where
  start : Nat
  stop : Nat
  deriving DecidableEq, Repr, Inhabited

def Range.contains (r : Range) (n : Nat) : Bool := r.start ≤ n && n < r.stop

def covered (rs : List Range) (n : Nat) : Bool := rs.any (·.contains n)

/-! ## Text in quotes -/

/-- Where the search stands: in a text, or in an interpolation with a number of open braces. -/
inductive Frame where
  | text
  | code (depth : Nat)
  deriving DecidableEq, Repr, Inhabited

/-- The ranges of quoted text from position `at_` on, inside of `frames`, the innermost first.
    The current text began at `start`, and `escaped` tells of a backslash before. -/
def quotedFrom (frames : List Frame) (start : Nat) (escaped : Bool) (at_ : Nat) : List Char → List Range
  | [] => if frames.head? = some .text then [⟨start, at_⟩] else []
  | c :: cs =>
    match frames with
    | .text :: outer =>
      if escaped then quotedFrom frames start false (at_ + 1) cs
      else
        match c, cs with
        | '\\', cs => quotedFrom frames start true (at_ + 1) cs
        | '"', cs => ⟨start, at_⟩ :: quotedFrom outer start false (at_ + 1) cs
        | '$', '\x7b' :: cs => ⟨start, at_⟩ :: quotedFrom (.code 0 :: frames) start false (at_ + 2) cs
        | _, cs => quotedFrom frames start false (at_ + 1) cs
    | _ =>
      match c, frames with
      | '"', _ => quotedFrom (.text :: frames) (at_ + 1) escaped (at_ + 1) cs
      | '\x7b', .code depth :: outer => quotedFrom (.code (depth + 1) :: outer) start escaped (at_ + 1) cs
      | '\x7d', .code 0 :: outer => quotedFrom outer (at_ + 1) escaped (at_ + 1) cs
      | '\x7d', .code (depth + 1) :: outer => quotedFrom (.code depth :: outer) start escaped (at_ + 1) cs
      | _, _ => quotedFrom frames start escaped (at_ + 1) cs

def quotedRanges (line : List Char) : List Range := quotedFrom [] 0 false 0 line

/-! ## Calls, interpolations and references -/

/-- Number of characters up to the parenthesis that closes a call, after `depth` are open. -/
def lengthToClose? (depth : Nat) (quoted escaped : Bool) : List Char → Option Nat
  | [] => none
  | c :: cs =>
    let rest (depth : Nat) (quoted escaped : Bool) := (lengthToClose? depth quoted escaped cs).map (· + 1)
    if quoted then
      if escaped then rest depth true false
      else
        match c with
        | '\\' => rest depth true true
        | '"' => rest depth false false
        | _ => rest depth true false
    else
      match c with
      | '"' => rest depth true false
      | '(' => rest (depth + 1) false false
      | ')' => if depth ≤ 1 then some 1 else rest (depth - 1) false false
      | _ => rest depth false false

/-- The length of an interpolation that starts here: it is not empty and ends with the first
    closing brace. -/
def interpolationLength? : List Char → Option Nat
  | '$' :: '\x7b' :: cs =>
    let inside := cs.takeWhile (· != '\x7d')
    if inside.isEmpty || inside.length = cs.length then none else some (inside.length + 3)
  | _ => none

def isNameStart (c : Char) : Bool := c.isAlpha || c == '_'

def isNameChar (c : Char) : Bool := c.isAlphanum || c == '_' || c == '-'

def nameLength? : List Char → Option Nat
  | [] => none
  | c :: cs => if isNameStart c then some ((cs.takeWhile isNameChar).length + 1) else none

/-- The length of a step that starts here: a name after a point, or something in brackets. -/
def stepLength? : List Char → Option Nat
  | '.' :: cs => (nameLength? cs).map (· + 1)
  | '[' :: cs =>
    let inside := cs.takeWhile (· != ']')
    if inside.isEmpty || inside.length = cs.length then none else some (inside.length + 2)
  | _ => none

def pathLength : Nat → List Char → Nat
  | 0, _ => 0
  | fuel + 1, cs =>
    match stepLength? cs with
    | none => 0
    | some n => n + pathLength fuel (cs.drop n)

/-- The length of a reference that starts here, where no word goes on. -/
def referenceLength? (cs : List Char) : Option Nat :=
  let after (mark : List Char) : Option Nat := do
    let rest ← Text.afterMark? mark cs
    let n ← nameLength? rest
    some (mark.length + n + pathLength rest.length (rest.drop n))
  match after "var.".toList with
  | some n => some n
  | none => after "local.".toList

/-- The ranges of what `length?` recognises, one after the other from position `at_` on; it is
    told the character before. -/
def find (length? : Option Char → List Char → Option Nat) (at_ : Nat) (before : Option Char) (skip : Nat) :
    List Char → List Range
  | [] => []
  | c :: cs =>
    if 0 < skip then find length? (at_ + 1) (some c) (skip - 1) cs
    else
      match length? before (c :: cs) with
      | some n => ⟨at_, at_ + n⟩ :: find length? (at_ + 1) (some c) (n - 1) cs
      | none => find length? (at_ + 1) (some c) 0 cs

def findAll (length? : Option Char → List Char → Option Nat) (line : List Char) : List Range :=
  find length? 0 none 0 line

/-- Whether a word that starts here would go on from the character before. -/
def midWord (before : Option Char) : Bool := (before.map Unicode.isWordChar).getD false

def mergeMark : List Char := "merge(".toList

/-- Calls of `merge` up to their opening parenthesis. -/
def mergeStarts (line : List Char) : List Range :=
  findAll (fun before cs =>
    if !midWord before && Text.startsWith cs mergeMark then some mergeMark.length else none) line

def interpolations (line : List Char) : List Range := findAll (fun _ cs => interpolationLength? cs) line

def referenceRanges (line : List Char) : List Range :=
  findAll (fun before cs => if midWord before then none else referenceLength? cs) line

/-- The call that starts with `r`, up to its closing parenthesis. -/
def closeCall? (line : List Char) (r : Range) : Option Range :=
  (lengthToClose? 1 false false (line.drop r.stop)).map fun n => ⟨r.start, r.stop + n⟩

/-- The calls of `merge` that do not start in what is covered already, each covering its range
    from then on. -/
def mergeCalls (line : List Char) (taken : List Range) : List Range → List Range
  | [] => []
  | r :: rs =>
    if covered taken r.start then mergeCalls line taken rs
    else
      match closeCall? line r with
      | some call => call :: mergeCalls line (call :: taken) rs
      | none => mergeCalls line taken rs

/-- The ranges that do not start in what is covered, each covering itself from then on. -/
def uncovered (taken : List Range) : List Range → List Range
  | [] => []
  | r :: rs => if covered taken r.start then uncovered taken rs else r :: uncovered (r :: taken) rs

/-- The expressions of interest in a line, from left to right. -/
def candidates (line : List Char) : List Range :=
  let quoted := quotedRanges line
  let calls := mergeCalls line quoted (mergeStarts line)
  let inner := uncovered (quoted ++ calls) (interpolations line)
  let names := (referenceRanges line).filter fun r => !covered (quoted ++ calls ++ inner) r.start
  (calls ++ inner ++ names).mergeSort fun a b => decide (a.start ≤ b.start)

def textOf (line : List Char) (r : Range) : String := String.ofList ((line.drop r.start).take (r.stop - r.start))

def isIdle (line : List Char) : Bool :=
  match Text.trimStart line with
  | [] => true
  | '#' :: _ => true
  | '/' :: '/' :: _ => true
  | _ => false

/-- The resolved expressions of a line, each once. -/
def ofLine (t : Symbols.Table) (number : Nat) (line : List Char) : List Gloss :=
  if isIdle line then []
  else
    (Symbols.distinct ((candidates line).map (textOf line))).filterMap fun s =>
      let r := t.resolveText s
      if r.resolved then some ⟨number, r.written, r.value, r.origin⟩ else none

def collect (t : Symbols.Table) (snippet : String) : List Gloss :=
  ((Text.lines snippet.toList).mapIdx fun i line => ofLine t (i + 1) line).flatten

/-! ## The annotated snippet -/

/-- The line between a snippet and what its expressions resolve to. -/
def header : String := "── Variable Resolutions ──"

def text (a : Gloss) : String := "  " ++ a.written ++ "  →  " ++ a.value.display ++ "\n"

/-- The lines that glosses are for, in ascending order. -/
def lineNumbers (as : List Gloss) : List Nat :=
  ((as.map (·.line)).mergeSort fun a b => decide (a ≤ b)).eraseReps

/-- The glosses of one line after an empty line. -/
def groupText (as : List Gloss) (number : Nat) : String :=
  "\n" ++ String.join ((as.filter (·.line == number)).map text)

/-- The snippet with its glosses below; just the snippet if there are none. -/
def annotate (snippet : String) (as : List Gloss) : String :=
  if as.isEmpty then snippet
  else
    let out := snippet ++ "\n\n" ++ header ++ "\n" ++ String.join ((lineNumbers as).map (groupText as))
    String.ofList (Text.trimEnd out.toList)

end Gloss
end TagAudit
