/-
  TagAudit.Text.Digits — digits and the numbers that they write.
-/

namespace TagAudit.Text

def isDigit (c : Char) : Bool := '0' ≤ c && c ≤ '9'

/-- The value of a hexadecimal digit, in either case. -/
def hexDigit? (c : Char) : Option Nat :=
  if '0' ≤ c ∧ c ≤ '9' then some (c.toNat - 48)
  else if 'a' ≤ c ∧ c ≤ 'f' then some (c.toNat - 87)
  else if 'A' ≤ c ∧ c ≤ 'F' then some (c.toNat - 55)
  else none

/-- The digits at the start of a text, as characters. -/
def digitRun (cs : List Char) : List Char × List Char := (cs.takeWhile isDigit, cs.dropWhile isDigit)

def digitValue (c : Char) : Nat := c.toNat - 48

def natOfDigits (ds : List Char) : Nat := ds.foldl (fun n d => n * 10 + digitValue d) 0

/-! ## Powers of ten -/

/-- An exponent: its mark, a sign perhaps, and digits. -/
def exponent (cs : List Char) : Option (Int × List Char) :=
  let after (rest : List Char) : Option (Int × List Char) :=
    let (negative, rest) := match rest with
      | '-' :: rest => (true, rest)
      | '+' :: rest => (false, rest)
      | rest => (false, rest)
    let (ds, rest) := digitRun rest
    if ds.isEmpty then none
    else some (if negative then -(natOfDigits ds : Int) else natOfDigits ds, rest)
  match cs with
  | 'e' :: rest => after rest
  | 'E' :: rest => after rest
  | _ => none

/-- Beyond this power of ten, up or down, a number with that many digits overflows or is zero. -/
def boundedExponent (digits : Nat) (e : Int) : Int :=
  let bound : Int := digits + 400
  if bound < e then bound else if e < -bound then -bound else e

end TagAudit.Text
