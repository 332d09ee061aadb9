/-
  TagAudit.Hcl.Lexeme — identifiers, numbers and the characters of texts.

  Readers take the text and give what they read with the rest of the text, or stop with an
  error that is the text where they gave up.
-/

import TagAudit.Json.Reader

namespace TagAudit.Hcl

open Decimal
open Text (digitRun natOfDigits hexDigit? exponent boundedExponent)

/-! ## Identifiers -/

def isIdentStart (c : Char) : Bool := c.isAlpha || c == '_'

def isIdentChar (c : Char) : Bool := c.isAlphanum || c == '_' || c == '-'

def ident (cs : List Char) : Except (List Char) (String × List Char) :=
  match cs with
  | c :: rest =>
    if isIdentStart c then .ok (String.ofList (c :: rest.takeWhile isIdentChar), rest.dropWhile isIdentChar)
    else .error cs
  | [] => .error cs

/-- The text after a keyword that no identifier goes on from. -/
def afterKeyword? (word : List Char) (cs : List Char) : Option (List Char) := do
  let rest ← Text.afterMark? word cs
  if (rest.head?.map isIdentChar).getD false then none else some rest

/-! ## Numbers -/

/-- A fraction: a point and digits. -/
def fractionDigits (cs : List Char) : Option (List Char × List Char) :=
  match cs with
  | '.' :: rest =>
    let (ds, rest) := digitRun rest
    if ds.isEmpty then none else some (ds, rest)
  | _ => none

/-- A number without sign: an integer that fits 64 bits, or a finite fraction. -/
def number (cs : List Char) : Except (List Char) (Number × List Char) :=
  let (whole, rest) := digitRun cs
  let fraction := fractionDigits rest
  let afterFraction := (fraction.map (·.2)).getD rest
  let power := exponent afterFraction
  let rest := (power.map (·.2)).getD afterFraction
  if whole.isEmpty then .error cs
  else if fraction.isNone && power.isNone then
    let n := natOfDigits whole
    if n < UInt64.size then .ok (.integer n, rest) else .error cs
  else
    let ds := (fraction.map (·.1)).getD []
    let e := (power.map (·.1)).getD 0
    let digits := whole ++ ds
    match Binary64.ofDecimal? false (natOfDigits digits) (boundedExponent digits.length e - ds.length) with
    | some x => .ok (Number.ofBinary x, rest)
    | none => .error cs

/-! ## Characters of texts -/

/-- The code point written by a number of hexadecimal digits. -/
def codePoint? (count : Nat) (cs : List Char) : Option (Char × List Char) := do
  let ds ← (cs.take count).mapM hexDigit?
  if ds.length = count then
    let n := ds.foldl (fun n d => n * 16 + d) 0
    if n.isValidChar then some (Char.ofNat n, cs.drop count) else none
  else none

def escaped? : List Char → Option (Char × List Char)
  | 'n' :: cs => some ('\n', cs)
  | 'r' :: cs => some ('\r', cs)
  | 't' :: cs => some ('\t', cs)
  | '\\' :: cs => some ('\\', cs)
  | '"' :: cs => some ('"', cs)
  | '/' :: cs => some ('/', cs)
  | 'b' :: cs => some ('\x08', cs)
  | 'f' :: cs => some ('\x0c', cs)
  | 'u' :: cs => codePoint? 4 cs
  | 'U' :: cs => codePoint? 8 cs
  | _ => none

/-- Literal text of a quoted template: up to the closing quote, an interpolation or a
    directive. -/
def quotedLiteral : Nat → List Char → Except (List Char) (List Char × List Char)
  | 0, cs => .error cs
  | fuel + 1, cs =>
    match cs with
    | '"' :: _ => .ok ([], cs)
    | '$' :: '$' :: '\x7b' :: rest => do let (t, rest) ← quotedLiteral fuel rest; .ok ('$' :: '\x7b' :: t, rest)
    | '%' :: '%' :: '\x7b' :: rest => do let (t, rest) ← quotedLiteral fuel rest; .ok ('%' :: '\x7b' :: t, rest)
    | '$' :: '\x7b' :: _ => .ok ([], cs)
    | '%' :: '\x7b' :: _ => .ok ([], cs)
    | '\\' :: rest =>
      match escaped? rest with
      | some (c, rest) => do let (t, rest) ← quotedLiteral fuel rest; .ok (c :: t, rest)
      | none => .error cs
    | c :: rest => do let (t, rest) ← quotedLiteral fuel rest; .ok (c :: t, rest)
    | [] => .error cs

/-- Literal text without escapes: up to an interpolation, a directive or a place where `ends`
    holds. -/
def plainLiteral (ends : List Char → Bool) : List Char → Except (List Char) (List Char × List Char)
  | '$' :: '$' :: '\x7b' :: rest => do let (t, rest) ← plainLiteral ends rest; .ok ('$' :: '\x7b' :: t, rest)
  | '%' :: '%' :: '\x7b' :: rest => do let (t, rest) ← plainLiteral ends rest; .ok ('%' :: '\x7b' :: t, rest)
  | '$' :: '\x7b' :: rest => .ok ([], '$' :: '\x7b' :: rest)
  | '%' :: '\x7b' :: rest => .ok ([], '%' :: '\x7b' :: rest)
  | [] => if ends [] then .ok ([], []) else .error []
  | c :: rest =>
    if ends (c :: rest) then .ok ([], c :: rest)
    else do let (t, rest) ← plainLiteral ends rest; .ok (c :: t, rest)

/-- A text in quotes without interpolations or directives. -/
def quotedText (cs : List Char) : Except (List Char) (String × List Char) :=
  match cs with
  | '"' :: rest => do
    let (t, rest) ← quotedLiteral (rest.length + 1) rest
    match rest with
    | '"' :: rest => .ok (String.ofList t, rest)
    | _ => .error rest
  | _ => .error cs

/-- Literal text as written where the marks of interpolations and directives have a meaning:
    with the first character of each mark twice. -/
def escapeMarks : List Char → List Char
  | '$' :: '\x7b' :: cs => '$' :: '$' :: '\x7b' :: escapeMarks cs
  | '%' :: '\x7b' :: cs => '%' :: '%' :: '\x7b' :: escapeMarks cs
  | c :: cs => c :: escapeMarks cs
  | [] => []

end TagAudit.Hcl
