/-
  TagAudit.Json.Reader — reading JSON text.

  Reading has two steps. `Source.read?` reads the text; numbers that no 64-bit integer or
  finite binary number represents, and strings with half of a surrogate pair, have no value
  but do not stop it, since a part of the text that nobody asks for may hold them.
  `Source.value?` asks for the value of a part, and fails if anything in it has none or is
  nested too deep.
-/

import TagAudit.Json.Basic
import TagAudit.Text.Blank
import TagAudit.Text.Digits

namespace TagAudit.Json

open Decimal Text

/-- JSON text as read: `none` marks a number or string without value. -/
inductive Source where
  | null
  | bool (b : Bool)
  | number (n : Option Number)
  | str (s : Option String)
  | arr (items : List Source)
  | obj (members : List (Option String × Source))
  deriving Inhabited

def isSpace (c : Char) : Bool := c == ' ' || c == '\n' || c == '\t' || c == '\r'

def skipSpace (cs : List Char) : List Char := cs.dropWhile isSpace

/-! ## Strings -/

/-- One element of a string: a character, or half of a surrogate pair. -/
inductive Unit where
  | char (c : Char)
  | high (n : Nat)
  | low (n : Nat)

def Unit.ofCode (n : Nat) : Unit :=
  if 0xD800 ≤ n ∧ n < 0xDC00 then .high n else if 0xDC00 ≤ n ∧ n < 0xE000 then .low n else .char (Char.ofNat n)

/-- The characters of a string; surrogate halves have to come in pairs. -/
def joinUnits : List Unit → Option (List Char)
  | [] => some []
  | .char c :: us => (joinUnits us).map (c :: ·)
  | .high h :: .low l :: us =>
    (joinUnits us).map (Char.ofNat (0x10000 + (h - 0xD800) * 0x400 + (l - 0xDC00)) :: ·)
  | .high _ :: _ => none
  | .low _ :: _ => none

def escapedChar? : Char → Option Char
  | '"' => some '"'
  | '\\' => some '\\'
  | '/' => some '/'
  | 'b' => some '\x08'
  | 'f' => some '\x0c'
  | 'n' => some '\n'
  | 'r' => some '\r'
  | 't' => some '\t'
  | _ => none

/-- The rest of a string after its opening quote. -/
def stringUnits : List Char → Option (List Unit × List Char)
  | '"' :: cs => some ([], cs)
  | '\\' :: 'u' :: a :: b :: c :: d :: cs => do
    let code := (((← hexDigit? a) * 16 + (← hexDigit? b)) * 16 + (← hexDigit? c)) * 16 + (← hexDigit? d)
    let (us, cs) ← stringUnits cs
    some (Unit.ofCode code :: us, cs)
  | '\\' :: c :: cs => do
    let e ← escapedChar? c
    let (us, cs) ← stringUnits cs
    some (.char e :: us, cs)
  | c :: cs =>
    if c.toNat < 0x20 then none else (stringUnits cs).map fun (us, cs) => (.char c :: us, cs)
  | [] => none

def string (cs : List Char) : Option (Option String × List Char) :=
  (stringUnits cs).map fun (us, cs) => ((joinUnits us).map String.ofList, cs)

/-! ## Numbers -/

/-- Leading digits taken into a number below 2^64, and the digits left over. -/
def significand (n : Nat) : List Char → Nat × List Char
  | [] => (n, [])
  | d :: ds =>
    if n * 10 + digitValue d < UInt64.size then significand (n * 10 + digitValue d) ds else (n, d :: ds)

/-- Scales by a power of ten in steps of at most 308 places, each rounded. -/
def scaleBy (exponent : Int) : Nat → Binary64 → Option Binary64
  | 0, x => some x
  | fuel + 1, x =>
    if exponent.natAbs ≤ 308 then do
      let p ← Binary64.ofDecimal? false 1 exponent.natAbs
      if 0 ≤ exponent then x.mul? p else x.div? p
    else if x.mantissa = 0 then some x
    else if 0 ≤ exponent then none
    else do scaleBy (exponent + 308) fuel (← x.div? (← Binary64.ofDecimal? false 1 308))

/-- The number written as `digits · 10^exponent` with a fraction or exponent. -/
def fractionOf (negative : Bool) (n : Nat) (exponent : Int) : Option Number := do
  let x ← Binary64.ofQuotient? negative n 1
  (scaleBy exponent (exponent.natAbs / 308 + 2) x).map .fraction

/-- The greatest exponent that is read as written. -/
def greatestExponent : Nat := 2147483647

/-- An exponent after its mark: its value, `none` if it is too great, and its sign. -/
def exponentPart (cs : List Char) : Option ((Bool × Option Nat) × List Char) := do
  let (negative, cs) := match cs with
    | '-' :: cs => (true, cs)
    | '+' :: cs => (false, cs)
    | cs => (false, cs)
  let (ds, cs) := digitRun cs
  if ds.isEmpty then none
  let n := natOfDigits ds
  some ((negative, if n ≤ greatestExponent then some n else none), cs)

/-- The value of a number: whole digits, fraction digits and exponent. Digits past the 64 bits
    of the significand only count for the power of ten, and only before the point. -/
def numberOf (negative : Bool) (whole : List Char) (fraction : Option (List Char))
    (exponent : Option (Bool × Option Nat)) : Option Number :=
  let (n, left) := significand 0 whole
  if left.isEmpty && fraction.isNone && exponent.isNone then
    if !negative then some (.integer n)
    else if n = 0 ∨ pow2 63 < n then (Binary64.ofQuotient? true n 1).map .fraction
    else some (.integer (-n))
  else
    let ds := fraction.getD []
    let (n, more) := significand n ds
    let point : Int := left.length - (ds.length - more.length : Nat)
    match exponent with
    | none => fractionOf negative n point
    | some (_, some e) =>
      fractionOf negative n (point + if exponent.any (·.1) then -(e : Int) else e)
    | some (down, none) =>
      if n ≠ 0 ∧ !down then none else some (.fraction ⟨negative, 0, Binary64.leastExponent⟩)

/-- A number after its sign. -/
def unsigned (negative : Bool) (cs : List Char) : Option (Option Number × List Char) := do
  let (whole, cs) ← match cs with
    | '0' :: c :: cs => if isDigit c then none else some (['0'], c :: cs)
    | ['0'] => some (['0'], [])
    | cs => let (ds, cs) := digitRun cs; if ds.isEmpty then none else some (ds, cs)
  let (fraction, cs) ← match cs with
    | '.' :: cs => let (ds, cs) := digitRun cs; if ds.isEmpty then none else some (some ds, cs)
    | cs => some (none, cs)
  let (exponent, cs) ← match cs with
    | 'e' :: cs => (exponentPart cs).map fun (e, cs) => (some e, cs)
    | 'E' :: cs => (exponentPart cs).map fun (e, cs) => (some e, cs)
    | cs => some (none, cs)
  some (numberOf negative whole fraction exponent, cs)

/-! ## Values -/

def items (value : List Char → Option (Source × List Char)) : Nat → List Char → Option (List Source × List Char)
  | 0, _ => none
  | fuel + 1, cs => do
    let (j, cs) ← value (skipSpace cs)
    match skipSpace cs with
    | ',' :: cs => (items value fuel cs).map fun (js, cs) => (j :: js, cs)
    | ']' :: cs => some ([j], cs)
    | _ => none

def members (value : List Char → Option (Source × List Char)) :
    Nat → List Char → Option (List (Option String × Source) × List Char)
  | 0, _ => none
  | fuel + 1, cs => do
    let '"' :: cs := skipSpace cs | none
    let (key, cs) ← string cs
    let ':' :: cs := skipSpace cs | none
    let (j, cs) ← value (skipSpace cs)
    match skipSpace cs with
    | ',' :: cs => (members value fuel cs).map fun (ms, cs) => ((key, j) :: ms, cs)
    | '}' :: cs => some ([(key, j)], cs)
    | _ => none

/-- A value, nested at most `depth` deep. -/
def value : Nat → List Char → Option (Source × List Char)
  | 0, _ => none
  | depth + 1, cs =>
    match cs with
    | '"' :: cs => (string cs).map fun (s, cs) => (.str s, cs)
    | '[' :: cs =>
      match skipSpace cs with
      | ']' :: cs => some (.arr [], cs)
      | cs => (items (value depth) cs.length cs).map fun (js, cs) => (.arr js, cs)
    | '\x7b' :: cs =>
      match skipSpace cs with
      | '}' :: cs => some (.obj [], cs)
      | cs => (members (value depth) cs.length cs).map fun (ms, cs) => (.obj ms, cs)
    | 'n' :: 'u' :: 'l' :: 'l' :: cs => some (.null, cs)
    | 't' :: 'r' :: 'u' :: 'e' :: cs => some (.bool true, cs)
    | 'f' :: 'a' :: 'l' :: 's' :: 'e' :: cs => some (.bool false, cs)
    | '-' :: cs => (unsigned true cs).map fun (n, cs) => (.number n, cs)
    | cs => (unsigned false cs).map fun (n, cs) => (.number n, cs)

namespace Source

def read? (text : String) : Option Source := do
  let cs := text.toList
  let (j, cs) ← Json.value (cs.length + 1) (skipSpace cs)
  if (skipSpace cs).isEmpty then some j else none

/-- How deep arrays and objects may be nested. -/
def depthLimit : Nat := 127

mutual
/-- The value, if every part of it has one and at most `depth` arrays and objects are nested. -/
def value? (depth : Nat) : Source → Option Json
  | .null => some .null
  | .bool b => some (.bool b)
  | .number n => n.map .number
  | .str s => s.map .str
  | .arr items =>
    match depth with
    | 0 => none
    | depth + 1 => (itemValues? depth items).map .arr
  | .obj members =>
    match depth with
    | 0 => none
    | depth + 1 => (memberValues? depth members []).map .obj
def itemValues? (depth : Nat) : List Source → Option (List Json)
  | [] => some []
  | j :: js => do some ((← j.value? depth) :: (← itemValues? depth js))
/-- The members, each key once, with the value that comes last. -/
def memberValues? (depth : Nat) : List (Option String × Source) → List (String × Json) →
    Option (List (String × Json))
  | [], done => some done
  | (key, j) :: ms, done => do
    let key ← key
    let v ← j.value? depth
    memberValues? depth ms (OrderedMap.insert done key v)
end

end Source

/-- The value of a JSON text; members keep their order. -/
def read? (text : String) : Option Json := do (← Source.read? text).value? Source.depthLimit

end TagAudit.Json
