/-
  TagAudit.Number — the numbers of configuration files.

  A number is an integer or a binary fraction. Integers are those that fit 64 bits, with or
  without sign; a fraction that is such an integer is turned into it by `ofBinary`.
-/

import TagAudit.Decimal.Shortest

namespace TagAudit

open Decimal

inductive Number where
  | integer (n : Int)
  | fraction (x : Binary64)
  deriving DecidableEq, Repr, Inhabited

namespace Number

/-- The integers that fit 64 bits. -/
def fits (n : Int) : Bool := -(pow2 63) ≤ n && n < pow2 64

/-- A binary number, as an integer where it is one. -/
def ofBinary (x : Binary64) : Number :=
  match x.toInt? with
  | some n => if fits n then .integer n else .fraction x
  | none => .fraction x

def normalized : Number → Number
  | .integer n => .integer n
  | .fraction x => ofBinary x

/-- The number less its sign: below -2^63 there are only fractions. -/
def negated : Number → Number
  | .integer n =>
    if -n < -(pow2 63) then .fraction ((Binary64.ofQuotient? true n.natAbs 1).getD .zero) else .integer (-n)
  | .fraction x => .fraction x.neg

def toNat? : Number → Option Nat
  | .integer n => if 0 ≤ n then some n.toNat else none
  | .fraction _ => none

def integerText (n : Int) : String :=
  String.ofList (if n < 0 then '-' :: digits n.natAbs else digits n.natAbs)

/-- The text of a number, a fraction in the given layout. -/
def textIn (l : Layout) : Number → String
  | .integer n => integerText n
  | .fraction x => l.text x

def text : Number → String := textIn .display

def jsonText : Number → String := textIn .json

end Number
end TagAudit
