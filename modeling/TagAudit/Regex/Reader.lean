/-
  TagAudit.Regex.Reader — reading regular expressions.

  There are no references back and no looking around. What a name in braces, a flag or an
  escape does not mean is an error, and so is whatever could match half of a character.

  Which classes have names, and which texts are too large or nested too deeply, is up to the package
  that reads the expressions (`Package`).
-/

import TagAudit.Regex.Classes
import TagAudit.Json.Reader
import TagAudit.Text.Blank

namespace TagAudit.Regex

/-- What a reader of expressions is built with: classes by name, classes by a property and its value,
    and the texts that are within its limits. -/
class Package where
  named? (name : String) : Option CharClass
  valued? (prop value : String) : Option CharClass
  admits (text : String) : Bool

/-- The names of the Unicode standard, and no limits. -/
instance : Package := ⟨CharClass.ofName?, CharClass.ofValue?, fun _ => true⟩

/-- Flags that change how an expression is read. -/
structure Flags where
  caseless : Bool
  multiline : Bool
  dotAll : Bool
  lazy : Bool
  unicode : Bool
  extended : Bool
  returns : Bool
  deriving DecidableEq, Repr, Inhabited

def Flags.start : Flags := ⟨false, false, false, false, true, false, false⟩

def Flags.set (f : Flags) (value : Bool) : Char → Option Flags
  | 'i' => some { f with caseless := value }
  | 'm' => some { f with multiline := value }
  | 's' => some { f with dotAll := value }
  | 'U' => some { f with lazy := value }
  | 'u' => some { f with unicode := value }
  | 'x' => some { f with extended := value }
  | 'R' => some { f with returns := value }
  | _ => none

/-- The text that is left, the flags in force, and the names of groups so far. -/
structure State where
  rest : List Char
  flags : Flags
  names : List (List Char)

abbrev Reading (α : Type) := StateT State Option α

/-! ## Characters -/

/-- Drops white space, and comments up to the end of their line. -/
def skipExtended (comment : Bool) : List Char → List Char
  | [] => []
  | c :: cs =>
    if comment then skipExtended (c != '\n') cs
    else if Text.isBlank c then skipExtended false cs
    else if c = '#' then skipExtended true cs
    else c :: cs

/-- Drops white space where it has no meaning. -/
def space : Reading Unit := modify fun s => if s.flags.extended then { s with rest := skipExtended false s.rest } else s

/-- The characters of a kind that stand here, and what follows them; white space and comments among
    them are dropped. -/
def spacedRun (p : Char → Bool) (comment : Bool) : List Char → List Char × List Char
  | [] => ([], [])
  | c :: cs =>
    if comment then spacedRun p (c != '\n') cs
    else if Text.isBlank c then spacedRun p false cs
    else if c = '#' then spacedRun p true cs
    else if p c then
      let (run, rest) := spacedRun p false cs
      (c :: run, rest)
    else ([], c :: cs)

/-- The characters of a kind that stand here, and what follows them. -/
def Flags.run (f : Flags) (p : Char → Bool) (cs : List Char) : List Char × List Char :=
  if f.extended then spacedRun p false cs else (cs.takeWhile p, cs.dropWhile p)

def rest : Reading (List Char) := return (← get).rest

def flags : Reading Flags := return (← get).flags

def setRest (cs : List Char) : Reading Unit := modify fun s => { s with rest := cs }

def next : Reading Char := do
  let c :: cs ← rest | failure
  setRest cs
  return c

/-- The text after `mark`, if it stands here. -/
def accept (mark : String) : Reading Bool := do
  match Text.afterMark? mark.toList (← rest) with
  | some cs => setRest cs; return true
  | none => return false

/-- Goes on after white space; there has to be something. -/
def nextSpaced : Reading Char := do
  let c ← next
  space
  if (← rest).isEmpty then failure
  return c

/-! ## Escapes -/

/-- What an escape stands for. Of a literal it is known whether it was written as a byte. -/
inductive Primitive where
  | literal (c : Char) (byte : Bool)
  | cls (c : CharClass)
  | assertion (a : Assertion)

def charOf (n : Nat) : Reading Char := if n.isValidChar then return Char.ofNat n else failure

def hexOf (cs : List Char) : Reading Nat := do
  let some ds := cs.mapM Text.hexDigit? | failure
  return ds.foldl (fun n d => n * 16 + d) 0

/-- A number of characters, with white space before each where it has no meaning. -/
def spacedChars : Nat → Reading (List Char)
  | 0 => return []
  | n + 1 => do
    space
    let c ← next
    return c :: (← spacedChars n)

/-- What braces hold, up to the closing one. -/
def braced : Reading (List Char) := do
  let (inner, after) := (← flags).run (· != '\x7d') (← rest)
  let '\x7d' :: after := after | failure
  setRest after
  return inner

/-- A code point in braces, or in a number of digits. -/
def hexEscape (count : Nat) : Reading Primitive := do
  space
  match ← rest with
  | '\x7b' :: cs =>
    setRest cs
    let digits ← braced
    if digits.isEmpty then failure
    return .literal (← charOf (← hexOf digits)) false
  | _ => return .literal (← charOf (← hexOf (← spacedChars count))) (count == 2)

/-- A class folded where case does not count, and complemented where it is negated. -/
def foldAndNegate (f : Flags) (negated : Bool) (c : CharClass) : CharClass :=
  let c := if f.caseless then .folded f.unicode c else c
  if negated then .complement c else c

def namedClass? [Package] (name : List Char) : Option (CharClass × Bool) :=
  let value (mark : String) (negated : Bool) : Option (Option (CharClass × Bool)) :=
    (Text.splitAtMark? mark.toList name).map fun (p, v) =>
      (Package.valued? (String.ofList p) (String.ofList v)).map (·, negated)
  match (value "!=" true).or ((value ":" false).or (value "=" false)) with
  | some found => found
  | none => (Package.named? (String.ofList name)).map (·, false)

/-- A class by its name in braces or by one letter. -/
def unicodeClass [Package] (negated : Bool) : Reading CharClass := do
  space
  let c ← next
  let f ← flags
  if !f.unicode then failure
  let name ←
    if c = '\x7b' then braced
    else if c = '\\' then failure
    else pure [c]
  let some (found, otherwise) := namedClass? name | failure
  return foldAndNegate f (negated != otherwise) found

/-- A class by a letter. Bytes beyond ASCII are no characters, so no class may have them. -/
def letterClass (kind : CharClass.Kind) (negated : Bool) : Reading CharClass := do
  let f ← flags
  if negated && !f.unicode then failure
  let c := CharClass.ofKind f.unicode kind
  return if negated then .complement c else c

/-- Word boundaries with a name in braces; anything else in braces is a repetition. -/
def wordBoundary : Reading Assertion := do
  let f ← flags
  match ← rest with
  | '\x7b' :: cs =>
    let cs := if f.extended then skipExtended false cs else cs
    let isNameChar (c : Char) : Bool := c.isAlpha || c == '-'
    match cs with
    | [] => failure
    | c :: _ =>
      if !isNameChar c then return .wordBoundary f.unicode
      let (name, after) := f.run isNameChar cs
      let '\x7d' :: after := after | failure
      setRest after
      match String.ofList name with
      | "start" => return .wordStart f.unicode
      | "end" => return .wordEnd f.unicode
      | "start-half" => return .noWordBefore f.unicode
      | "end-half" => return .noWordAfter f.unicode
      | _ => failure
  | _ => return .wordBoundary f.unicode

/-- ASCII characters that a backslash may stand before to no effect. -/
def isEscapable (c : Char) : Bool := c.toNat < 128 && !c.isAlphanum && c != '<' && c != '>'

/-- What follows a backslash. -/
def escape [Package] : Reading Primitive := do
  let u := (← flags).unicode
  match ← next with
  | 'x' => hexEscape 2
  | 'u' => hexEscape 4
  | 'U' => hexEscape 8
  | 'p' => return .cls (← unicodeClass false)
  | 'P' => return .cls (← unicodeClass true)
  | 'd' => return .cls (← letterClass .digit false)
  | 'D' => return .cls (← letterClass .digit true)
  | 's' => return .cls (← letterClass .space false)
  | 'S' => return .cls (← letterClass .space true)
  | 'w' => return .cls (← letterClass .word false)
  | 'W' => return .cls (← letterClass .word true)
  | 'a' => return .literal '\x07' false
  | 'f' => return .literal '\x0c' false
  | 't' => return .literal '\t' false
  | 'n' => return .literal '\n' false
  | 'r' => return .literal '\r' false
  | 'v' => return .literal '\x0b' false
  | 'A' => return .assertion .textStart
  | 'z' => return .assertion .textEnd
  | 'b' => return .assertion (← wordBoundary)
  | 'B' => return .assertion (.noWordBoundary u)
  | '<' => return .assertion (.wordStart u)
  | '>' => return .assertion (.wordEnd u)
  | c => if isEscapable c then return .literal c false else failure

/-! ## Classes in brackets -/

def classItem [Package] : Reading Primitive := do
  match ← next with
  | '\\' => escape
  | c => return .literal c false

/-- The number of a literal in a class; without Unicode there are only ASCII characters. -/
def classLiteral : Primitive → Reading Nat
  | .literal c _ => do
    if !(← flags).unicode && 127 < c.toNat then failure
    return c.toNat
  | _ => failure

/-- The first character after white space. Of a comment only the number sign is passed over. -/
def Flags.peek? (f : Flags) (cs : List Char) : Option Char :=
  if f.extended then
    match cs.dropWhile Text.isBlank with
    | '#' :: comment => (comment.dropWhile Text.isBlank).head?
    | cs => cs.head?
  else cs.head?

/-- An element, or a range between two. A hyphen before the closing bracket or before another
    hyphen is no range. -/
def classRange [Package] : Reading CharClass := do
  let first ← classItem
  space
  let cs ← rest
  if cs.isEmpty then failure
  let f ← flags
  let second := f.peek? (cs.drop 1)
  if cs.head? != some '-' || second == some ']' || second == some '-' then
    match first with
    | .cls c => return c
    | p => do
      let n ← classLiteral p
      return .between n n
  else
    setRest (cs.drop 1)
    let low ← classLiteral first
    space
    let high ← classLiteral (← classItem)
    if high < low then failure
    return .between low high

/-- An ASCII class by its name, as in `[:alpha:]`, without its first bracket. -/
def bracketName? (cs : List Char) : Option ((Bool × CharClass) × List Char) := do
  let ':' :: cs := cs | none
  let (negated, cs) := match cs with
    | '^' :: cs => (true, cs)
    | cs => (false, cs)
  let ':' :: ']' :: after := cs.dropWhile (· != ':') | none
  let c ← CharClass.ofBracketName? (String.ofList (cs.takeWhile (· != ':')))
  some ((negated, c), after)

inductive ClassOp where
  | intersection
  | difference
  | symmetricDifference

def ClassOp.apply : ClassOp → CharClass → CharClass → CharClass
  | .intersection, a, b => .intersection a b
  | .difference, a, b => .difference a b
  | .symmetricDifference, a, b => .union (.difference a b) (.difference b a)

/-- The items taken together, as right operand of the operator before them. -/
def combine (f : Flags) (before : Option (ClassOp × CharClass)) (items : CharClass) : CharClass :=
  match before with
  | none => items
  | some (op, left) => op.apply (foldAndNegate f false left) (foldAndNegate f false items)

/-- A class of a number of items or with a name. Without Unicode it is one of bytes, and what its
    complement has beyond ASCII is no character. -/
def wholeClass (negated : Bool) (c : CharClass) : Reading CharClass := do
  let f ← flags
  if negated && !f.unicode then failure
  return foldAndNegate f negated c

/-- The items of a class up to its closing bracket; `nested` reads a class after its bracket. -/
def classItems [Package] (nested : Reading CharClass) : Nat → Option (ClassOp × CharClass) → CharClass → Reading CharClass
  | 0, _, _ => failure
  | fuel + 1, before, items => do
    space
    let f ← flags
    let operator (op : ClassOp) (cs : List Char) : Reading CharClass := do
      setRest cs
      classItems nested fuel (some (op, combine f before items)) .none
    match ← rest with
    | [] => failure
    | '[' :: cs =>
      match bracketName? cs with
      | some ((negated, c), cs) =>
        setRest cs
        let c ← wholeClass negated c
        classItems nested fuel before (.union items c)
      | none =>
        setRest cs
        let c ← nested
        classItems nested fuel before (.union items c)
    | ']' :: cs =>
      setRest cs
      return combine f before items
    | '&' :: '&' :: cs => operator .intersection cs
    | '-' :: '-' :: cs => operator .difference cs
    | '~' :: '~' :: cs => operator .symmetricDifference cs
    | _ =>
      let c ← classRange
      classItems nested fuel before (.union items c)

/-- Hyphens at the start of a class stand for themselves. -/
def leadingHyphens : Nat → CharClass → Reading CharClass
  | 0, items => return items
  | fuel + 1, items => do
    match ← rest with
    | '-' :: _ =>
      let _ ← nextSpaced
      leadingHyphens fuel (.union items (.single '-'))
    | _ => return items

/-- A class after its opening bracket. -/
def bracketClass [Package] : Nat → Reading CharClass
  | 0 => failure
  | depth + 1 => do
    space
    let negated ← match ← rest with
      | '^' :: _ => do
        let _ ← nextSpaced
        pure true
      | [] => failure
      | _ => pure false
    let hyphens ← leadingHyphens (← rest).length .none
    let items ← match hyphens, ← rest with
      | .runs [], ']' :: _ => do
        let _ ← nextSpaced
        pure (CharClass.single ']')
      | items, _ => pure items
    let items ← classItems (bracketClass depth) ((← rest).length + 1) none items
    wholeClass negated items

/-! ## Expressions -/

def ofPrimitive : Primitive → Reading Regex
  | .assertion a => return .assertion a
  | .cls c => return .set c
  | .literal c byte => do
    let f ← flags
    if byte && !f.unicode && 127 < c.toNat then failure
    return .set (foldAndNegate f false (.single c))

/-- Any character but the end of a line, unless that counts too. -/
def dot : Reading Regex := do
  let f ← flags
  if !f.unicode then failure
  return .set
    (if f.dotAll then .any
     else .complement (if f.returns then .union (.single '\n') (.single '\r') else .single '\n'))

def count : Reading Nat := do
  let (digits, after) := (← flags).run Text.isDigit ((← rest).dropWhile Text.isBlank)
  let after := after.dropWhile Text.isBlank
  if after.isEmpty then failure
  setRest after
  let n := Text.natOfDigits digits
  if !digits.isEmpty && n < UInt32.size then return n else failure

/-- The bounds of a repetition after its opening brace; the lower one has to be there. -/
def bounds : Reading (Nat × Option Nat) := do
  space
  let least ← count
  let most ← match ← rest with
    | ',' :: cs => do
      setRest cs
      space
      match ← rest with
      | '\x7d' :: _ => pure none
      | _ => some <$> count
    | _ => pure (some least)
  let '\x7d' :: cs ← rest | failure
  setRest cs
  if most.any fun most => decide (most < least) then failure
  return (least, most)

/-- Whether a letter may stand in the name of a group, at its start or later. -/
def isGroupNameChar (first : Bool) (c : Char) : Bool :=
  c == '_' || Unicode.alphabetic.contains c.toNat ||
    (!first && (c == '.' || c == '[' || c == ']' ||
      ["Nd", "Nl", "No"].any fun k => (Unicode.category k).contains c.toNat))

/-- The name of a group up to its closing bracket; each group has a name of its own. -/
def groupName : Reading Unit := do
  let cs ← rest
  let name := cs.takeWhile (· != '>')
  let '>' :: after := cs.dropWhile (· != '>') | failure
  match name with
  | [] => failure
  | c :: more =>
    if !isGroupNameChar true c || !more.all (isGroupNameChar false) then failure
    if (← get).names.contains name then failure
    modify fun s => { s with rest := after, names := name :: s.names }

/-- Flags up to the mark that ends them, each at most once. `dangling` tells of a minus sign
    that nothing has followed yet. -/
def groupFlags (f : Flags) (negated dangling : Bool) (seen : List Char) :
    List Char → Option (Flags × Bool × Char × List Char)
  | [] => none
  | ':' :: cs => if dangling then none else some (f, seen.isEmpty, ':', cs)
  | ')' :: cs => if dangling then none else some (f, seen.isEmpty, ')', cs)
  | '-' :: cs => if negated then none else groupFlags f true true seen cs
  | c :: cs =>
    if seen.contains c then none
    else do groupFlags (← f.set (!negated) c) negated false (c :: seen) cs

/-- An item of a sequence: an expression, or flags that were set. -/
abbrev Items := List (Option Regex)

/-- The expression that items make up, written last to first. -/
def ofItems (items : Items) : Regex :=
  match items.reverse.filterMap id with
  | [] => .empty
  | [r] => r
  | rs => .concat rs

def ofAlternatives : List Regex → Regex
  | [r] => r
  | rs => .alternatives rs.reverse

/-- The last item repeated; there has to be one. -/
def repeated (items : Items) (least : Nat) (most : Option Nat) : Reading Items := do
  let some r :: before := items | failure
  let _ ← accept "?"
  return some (.repetition r least most) :: before

/-- A group after its opening parenthesis: an expression, or nothing where flags are set from
    here on. `inner` reads up to the end of the group. -/
def readGroup (inner : Reading Regex) : Reading (Option Regex) := do
  space
  let outer ← flags
  let closed : Reading (Option Regex) := do
    let r ← inner
    let ')' ← next | failure
    modify fun s => { s with flags := outer }
    return some (.group r)
  let cs ← rest
  if ["?=", "?!", "?<=", "?<!"].any fun m => Text.startsWith cs m.toList then failure
  if ← accept "?P<" then
    groupName
    closed
  else if ← accept "?<" then
    groupName
    closed
  else if ← accept "?" then
    let some (f, unset, mark, cs) := groupFlags outer false false [] (← rest) | failure
    modify fun s => { s with rest := cs, flags := f }
    if mark = ')' then
      if unset then failure
      return none
    else closed
  else closed

/-- Alternatives up to the end of the text or a closing parenthesis. -/
def readAlternatives [Package] : Nat → List Regex → Items → Reading Regex
  | 0, _, _ => failure
  | fuel + 1, done, items => do
    space
    let goOn (items : Items) : Reading Regex := readAlternatives fuel done items
    let add (r : Regex) : Reading Regex := goOn (some r :: items)
    match ← rest with
    | [] => return ofAlternatives (ofItems items :: done)
    | ')' :: _ => return ofAlternatives (ofItems items :: done)
    | '|' :: cs => do
      setRest cs
      readAlternatives fuel (ofItems items :: done) []
    | '(' :: cs => do
      setRest cs
      let g ← readGroup (readAlternatives fuel [] [])
      goOn (g :: items)
    | '[' :: cs => do
      setRest cs
      add (.set (← bracketClass (cs.length + 1)))
    | '?' :: cs => do
      setRest cs
      goOn (← repeated items 0 (some 1))
    | '*' :: cs => do
      setRest cs
      goOn (← repeated items 0 none)
    | '+' :: cs => do
      setRest cs
      goOn (← repeated items 1 none)
    | '\x7b' :: cs => do
      setRest cs
      let (least, most) ← bounds
      space
      goOn (← repeated items least most)
    | '\\' :: cs => do
      setRest cs
      add (← ofPrimitive (← escape))
    | '.' :: cs => do
      setRest cs
      add (← dot)
    | '^' :: cs => do
      setRest cs
      let f ← flags
      add (.assertion (if f.multiline then .lineStart f.returns else .textStart))
    | '$' :: cs => do
      setRest cs
      let f ← flags
      add (.assertion (if f.multiline then .lineEnd f.returns else .textEnd))
    | c :: cs => do
      setRest cs
      add (← ofPrimitive (.literal c false))

def parse? [Package] (text : String) : Option Regex := do
  let cs := text.toList
  let (r, s) ← (readAlternatives (cs.length + 1) [] []).run ⟨cs, Flags.start, []⟩
  if s.rest.isEmpty then some r else none

/-- The expression in a text. -/
def read? [Package] (text : String) : Option Regex := if Package.admits text then parse? text else none

/-- The expression that matches a text as a whole where the one written in `text` does. -/
def readWhole? [Package] (text : String) : Option Regex := read? ("^(?:" ++ text ++ ")$")

end TagAudit.Regex
