/-
  TagAudit.Decimal.Binary64 — finite binary floating point numbers with 53 bits of precision,
  as exact values.

  A number is a sign, a mantissa and an exponent of two. `ofQuotient?` rounds a quotient of
  natural numbers to the nearest such number, a tie to the even mantissa, and fails on overflow.
  The canonical form has a mantissa below 2^53, and at least 2^52 unless the exponent is the
  least one, so equal numbers (of one sign) are equal structures.
-/

namespace TagAudit.Decimal

def pow2 (n : Nat) : Nat := Nat.pow 2 n

def pow10 (n : Nat) : Nat := Nat.pow 10 n

/-- The number ± `mantissa` · 2^`exponent`. -/
structure Binary64 where
  negative : Bool
  mantissa : Nat
  exponent : Int
  deriving DecidableEq, Repr, Inhabited

namespace Binary64

def leastExponent : Int := -1074

def greatestExponent : Int := 971

def zero : Binary64 := ⟨false, 0, leastExponent⟩

/-- `num / (den · 2^e)` as a quotient of natural numbers. -/
def scaled (num den : Nat) (e : Int) : Nat × Nat :=
  if 0 ≤ e then (num, den * pow2 e.toNat) else (num * pow2 (-e).toNat, den)

/-- The nearest natural number to `num / den`, a tie to the even one. -/
def roundHalfEven (num den : Nat) : Nat :=
  let q := num / den
  let r := num % den
  if 2 * r < den then q else if den < 2 * r then q + 1 else if q % 2 = 0 then q else q + 1

/-- The exponent at which `num / den` has 53 bits before the binary point, or the least one. -/
def exponentOf (num den : Nat) : Int :=
  let e : Int := (num.log2 : Int) - den.log2 - 52
  let (n, d) := scaled num den e
  let e := if n / d < pow2 52 then e - 1 else e
  max e leastExponent

/-- `± num / den` rounded, `none` when it is too great. -/
def ofQuotient? (negative : Bool) (num den : Nat) : Option Binary64 :=
  if num = 0 then some ⟨negative, 0, leastExponent⟩
  else
    let e := exponentOf num den
    let (n, d) := scaled num den e
    let m := roundHalfEven n d
    let (m, e) := if m = pow2 53 then (pow2 52, e + 1) else (m, e)
    if greatestExponent < e then none else some ⟨negative, m, e⟩

/-- `± digits · 10^exponent` rounded. -/
def ofDecimal? (negative : Bool) (digits : Nat) (exponent : Int) : Option Binary64 :=
  if 0 ≤ exponent then ofQuotient? negative (digits * pow10 exponent.toNat) 1
  else ofQuotient? negative digits (pow10 (-exponent).toNat)

/-- The absolute value as a quotient of natural numbers. -/
def quotient (x : Binary64) : Nat × Nat :=
  if 0 ≤ x.exponent then (x.mantissa * pow2 x.exponent.toNat, 1) else (x.mantissa, pow2 (-x.exponent).toNat)

def neg (x : Binary64) : Binary64 := { x with negative := !x.negative }

def mul? (x y : Binary64) : Option Binary64 :=
  let (a, b) := x.quotient
  let (c, d) := y.quotient
  ofQuotient? (x.negative != y.negative) (a * c) (b * d)

/-- Quotient by a number other than zero, rounded. -/
def div? (x y : Binary64) : Option Binary64 :=
  let (a, b) := x.quotient
  let (c, d) := y.quotient
  ofQuotient? (x.negative != y.negative) (a * d) (b * c)

/-- The integer that the number is, if it has no fraction. -/
def toInt? (x : Binary64) : Option Int :=
  let (num, den) := x.quotient
  if num % den = 0 then
    let n : Int := (num / den : Nat)
    some (if x.negative then -n else n)
  else none

/-- Rounded to one decimal place, in tenths, a tie to the even digit. -/
def tenths (x : Binary64) : Nat :=
  let (num, den) := x.quotient
  roundHalfEven (num * 10) den

end Binary64
end TagAudit.Decimal
