/-
  TagAudit.Yaml.Printer — data as YAML text.

  Collections are written as blocks, the items of a list not indented below their key; empty
  ones in brackets. A text is plain if it then reads back as the same text, and otherwise in
  single quotes, as a literal block if it has several lines, or in double quotes if it holds
  what no other form can show.
-/

import TagAudit.Decimal.Binary64
import TagAudit.Json.Basic
import TagAudit.Text.Blank
import TagAudit.Yaml.Format

namespace TagAudit.Yaml

open Decimal

/-! ## Plain texts that would not read as texts -/

/-- Digits after a needless zero, with a sign perhaps: no number, though it looks like one. -/
def isPaddedNumber (cs : List Char) : Bool :=
  let digits := match cs with
    | '-' :: rest => rest
    | '+' :: rest => rest
    | rest => rest
  match digits with
  | '0' :: d :: rest => (d :: rest).all Text.isDigit
  | _ => false

/-- Whether a text reads as an integer of 128 bits. -/
def isInteger (cs : List Char) : Bool :=
  match cs with
  | '-' :: rest => rest.head? != some '+' && (natural? rest).any fun n => decide (n ≤ pow2 127)
  | _ => (natural? cs).any fun n => decide (n < pow2 128)

/-- Whether a text reads as a finite decimal fraction, without a sign before it. -/
def isUnsignedFraction (cs : List Char) : Bool :=
  let (whole, rest) := Text.digitRun cs
  let (fraction, rest) := match rest with
    | '.' :: rest => Text.digitRun rest
    | rest => ([], rest)
  let digits := whole ++ fraction
  let finite (e : Int) : Bool :=
    (Binary64.ofDecimal? false (Text.natOfDigits digits)
      (Text.boundedExponent digits.length e - fraction.length)).isSome
  if digits.isEmpty then false
  else if rest.isEmpty then finite 0
  else
    match Text.exponent rest with
    | some (e, []) => finite e
    | _ => false

/-- The words for infinity, and for what is no number. -/
def specialNumbers : List String := [".inf", ".Inf", ".INF"]

/-- Whether a text reads as a fraction. -/
def isFraction (cs : List Char) : Bool :=
  let isInfinity (cs : List Char) : Bool := specialNumbers.contains (String.ofList cs)
  match cs with
  | '-' :: rest => isInfinity rest || isUnsignedFraction rest
  | '+' :: rest => isInfinity rest || isUnsignedFraction rest
  | rest => isInfinity rest || [".nan", ".NaN", ".NAN"].contains (String.ofList rest) || isUnsignedFraction rest

/-- Whether a plain scalar with this text would be something else, or is taken for such by some. -/
def looksTyped (cs : List Char) : Bool :=
  cs.isEmpty || isNull (String.ofList cs) || (truth? (String.ofList cs)).isSome || isInteger cs || isFraction cs ||
    isPaddedNumber cs

/-! ## What the forms of scalars can show -/

/-- Whether a character may stand as it is in any form. -/
def isPrintable (c : Char) : Bool :=
  let n := c.toNat
  c == '\n' || (0x20 ≤ n && n ≤ 0x7E) || (0xA0 ≤ n && n ≤ 0xFFFD && n != 0xFEFF) || 0x10000 ≤ n

/-- Whether a blank, a line break, a null character or the end follows. -/
def endsPlainWord (rest : List Char) : Bool := endsWord rest || rest.head? == some '\x00'

/-- Whether a character after the first, with the one before it, ends a plain scalar. -/
def hasInnerIndicator (before : Char) : List Char → Bool
  | [] => false
  | c :: cs =>
    (c == ':' && endsPlainWord cs) || (c == '#' && endsPlainWord [before]) || hasInnerIndicator c cs

/-- Whether the start of a text or something in it has a meaning in YAML. -/
def hasIndicator : List Char → Bool
  | [] => false
  | c :: cs =>
    let text := c :: cs
    Text.startsWith text ['-', '-', '-'] || Text.startsWith text ['.', '.', '.'] ||
      "#,[]\x7b\x7d&*!|>'\"%@`".contains c || ((c == '?' || c == ':' || c == '-') && endsPlainWord cs) ||
      hasInnerIndicator c cs

/-- Whether two neighbours in a text are of these kinds. -/
def hasPair (p q : Char → Bool) : List Char → Bool
  | a :: b :: cs => (p a && q b) || hasPair p q (b :: cs)
  | _ => false

def isSpace (c : Char) : Bool := c == ' '

def spaceBeforeBreak (cs : List Char) : Bool := hasPair isSpace isBreak cs

def spaceAfterBreak (cs : List Char) : Bool := hasPair isBreak isSpace cs

def isPlainAllowed (cs : List Char) : Bool :=
  cs.all isPrintable && !cs.any isBreak && !(cs.head?.any isSpace) && !(cs.getLast?.any isSpace) && !hasIndicator cs

def isSingleQuotedAllowed (cs : List Char) : Bool :=
  cs.all isPrintable && !spaceBeforeBreak cs && !spaceAfterBreak cs

def isLiteralAllowed (cs : List Char) : Bool :=
  cs.all isPrintable && !spaceBeforeBreak cs && !(cs.getLast?.any isSpace)

/-! ## Scalars -/

def hexDigit (n : Nat) : Char := if n < 10 then Char.ofNat (48 + n) else Char.ofNat (55 + n)

def hexDigits : (count : Nat) → Nat → List Char
  | 0, _ => []
  | count + 1, n => hexDigits count (n / 16) ++ [hexDigit (n % 16)]

def escapeLetter? (c : Char) : Option Char :=
  "0abtnvfre\"\\N_LP".toList.find? fun letter => escaped? letter == some c

/-- A character between double quotes. -/
def doubleQuotedChar (c : Char) : List Char :=
  if isPrintable c && !isBreak c && c != '"' && c != '\\' then [c]
  else
    match escapeLetter? c with
    | some letter => ['\\', letter]
    | none =>
      let n := c.toNat
      if n < 0x100 then '\\' :: 'x' :: hexDigits 2 n
      else if n < 0x10000 then '\\' :: 'u' :: hexDigits 4 n
      else '\\' :: 'U' :: hexDigits 8 n

def doubleQuoted (cs : List Char) : List Char := '"' :: cs.flatMap doubleQuotedChar ++ ['"']

def singleQuoted (cs : List Char) : List Char :=
  '\'' :: cs.flatMap (fun c => if c == '\'' then ['\'', '\''] else [c]) ++ ['\'']

/-- What tells how the line breaks at the end of a block are read. -/
def chompingMark (cs : List Char) : List Char :=
  match cs.reverse with
  | [] => ['-']
  | [c] => if isBreak c then ['+'] else ['-']
  | c :: d :: _ => if !isBreak c then ['-'] else if isBreak d then ['+'] else []

def literal (cs : List Char) : List Char :=
  let indentation := if cs.head?.any fun c => isSpace c || isBreak c then ['2'] else []
  '|' :: indentation ++ chompingMark cs ++ '\n' :: cs

def scalar (cs : List Char) : List Char :=
  if cs.contains '\n' then if isLiteralAllowed cs then literal cs else doubleQuoted cs
  else if !looksTyped cs && isPlainAllowed cs then cs
  else if isSingleQuotedAllowed cs then singleQuoted cs
  else doubleQuoted cs

/-! ## Collections -/

/-- Indents all lines but the first that are not empty. -/
def shift : List Char → List Char
  | [] => []
  | [c] => [c]
  | c :: d :: cs => if isBreak c && !isBreak d then c :: ' ' :: ' ' :: shift (d :: cs) else c :: shift (d :: cs)

def endLine (cs : List Char) : List Char := if cs.getLast?.any isBreak then cs else cs ++ ['\n']

/-- The length in bytes up to which a key can stand before its colon. -/
def keyLimit : Nat := 128

/-- A key and the text of its value. -/
def member (key : List Char) (value : Json) (text : List Char) : List Char :=
  if key.any isBreak || keyLimit < Text.byteSize key then
    endLine ('?' :: ' ' :: shift (scalar key)) ++ endLine (':' :: ' ' :: shift text)
  else
    endLine (scalar key ++ ':' ::
      match value with
      | .arr (_ :: _) => '\n' :: text
      | .obj (_ :: _) => '\n' :: ' ' :: ' ' :: shift text
      | _ => ' ' :: shift text)

mutual

/-- A value as a block that starts at the left. -/
def block : Json → List Char
  | .null => "null".toList
  | .bool b => (if b then "true" else "false").toList
  | .number n => n.text.toList
  | .str s => scalar s.toList
  | .arr items => if items.isEmpty then ['[', ']'] else blockItems items
  | .obj members => if members.isEmpty then ['\x7b', '\x7d'] else blockMembers members

def blockItems : List Json → List Char
  | [] => []
  | j :: js => endLine ('-' :: ' ' :: shift (block j)) ++ blockItems js

def blockMembers : List (String × Json) → List Char
  | [] => []
  | (k, j) :: ms => member k.toList j (block j) ++ blockMembers ms

end

end TagAudit.Yaml

namespace TagAudit.Json

def yaml (j : Json) : String :=
  String.ofList (Yaml.endLine (match j with
    | .str s => Yaml.shift (Yaml.scalar s.toList)
    | j => Yaml.block j))

end TagAudit.Json
