/-
  TagAudit.Decimal.Shortest — the shortest decimal that reads back as a binary number.

  The reals that round to a positive number `x` form an interval around it, its ends included
  exactly when the mantissa of `x` is even. `shortest` gives digits `d` and a power of ten `k`
  such that d · 10^k lies in that interval, no shorter decimal does, and none of the same
  length is nearer to `x`.
-/

import TagAudit.Decimal.Binary64

namespace TagAudit.Decimal

/-- The interval of reals that round to a number, in units of a common denominator. -/
structure Interval where
  low : Nat
  value : Nat
  high : Nat
  denominator : Nat
  closed : Bool

namespace Interval

/-- All three points are multiples of a quarter of the last binary place. -/
def around (x : Binary64) : Interval :=
  let m := 4 * x.mantissa
  let low := if x.mantissa = pow2 52 ∧ x.exponent ≠ Binary64.leastExponent then m - 1 else m - 2
  let e := x.exponent - 2
  let up := if 0 ≤ e then pow2 e.toNat else 1
  { low := low * up, value := m * up, high := (m + 2) * up
    denominator := if 0 ≤ e then 1 else pow2 (-e).toNat
    closed := x.mantissa % 2 = 0 }

def holds (i : Interval) (d : Nat) (k : Int) : Bool :=
  let (p, q) := if 0 ≤ k then (d * pow10 k.toNat * i.denominator, 1) else (d * i.denominator, pow10 (-k).toNat)
  if i.closed then i.low * q ≤ p && p ≤ i.high * q else i.low * q < p && p < i.high * q

/-- The multiples of `10^k` next to the value: the one not above it, and whether the one above
    is nearer (an exact tie goes to the even multiple). -/
def neighbour (i : Interval) (k : Int) : Nat × Bool :=
  let (num, den) :=
    if 0 ≤ k then (i.value, i.denominator * pow10 k.toNat) else (i.value * pow10 (-k).toNat, i.denominator)
  let d := num / den
  let r := num % den
  (d, den < 2 * r || (den = 2 * r && d % 2 = 1))

/-- The best multiple of `10^k` in the interval. -/
def best? (i : Interval) (k : Int) : Option Nat :=
  let (d, up) := i.neighbour k
  let (first, second) := if up then (d + 1, d) else (d, d + 1)
  if i.holds first k then some first else if i.holds second k then some second else none

/-- Looks for a grid with a hit, from the power `k` down. -/
def search (i : Interval) : Nat → Int → Nat × Int
  | 0, k => (i.neighbour k |>.1, k)
  | fuel + 1, k =>
    match i.best? k with
    | some d => (d, k)
    | none => i.search fuel (k - 1)

end Interval

/-- Digits less their trailing zeros, and the power of ten that goes with them. -/
def dropZeros : Nat → Nat → Int → Nat × Int
  | 0, d, k => (d, k)
  | fuel + 1, d, k => if d ≠ 0 ∧ d % 10 = 0 then dropZeros fuel (d / 10) (k + 1) else (d, k)

/-- The shortest decimal `(d, k)`, meaning d · 10^k, that reads back as `x`. -/
def shortest (x : Binary64) : Nat × Int :=
  if x.mantissa = 0 then (0, 0)
  else
    let (num, den) := x.quotient
    -- a power of ten above the value
    let k : Int := (((num.log2 : Int) - den.log2 + 1) * 30103).fdiv 100000 + 2
    let (d, k) := (Interval.around x).search 25 k
    dropZeros 25 d k

/-- How a number is laid out: the least and greatest power of ten of the first digit at which
    it is written without exponent, and the sign written before an exponent that is not
    negative. -/
structure Layout where
  leastPlain : Int
  greatestPlain : Int
  exponentPlus : Bool

def digits (n : Nat) : List Char := Nat.toDigits 10 n

/-- The text of a number in a layout; a whole number gets a fraction of `.0`. -/
def Layout.text (l : Layout) (x : Binary64) : String :=
  let sign := if x.negative then "-" else ""
  let (d, k) := shortest x
  if d = 0 then sign ++ "0.0"
  else
    let ds := digits d
    let first : Int := k + ds.length - 1
    let body :=
      if l.leastPlain ≤ first ∧ first ≤ l.greatestPlain then
        if 0 ≤ k then ds ++ List.replicate k.toNat '0' ++ ['.', '0']
        else if 0 ≤ first then ds.take (first.toNat + 1) ++ '.' :: ds.drop (first.toNat + 1)
        else '0' :: '.' :: List.replicate ((-first).toNat - 1) '0' ++ ds
      else
        let fraction := ds.drop 1
        let mantissa := ds.take 1 ++ if fraction.isEmpty then [] else '.' :: fraction
        let mark := if first < 0 then ['e', '-'] else if l.exponentPlus then ['e', '+'] else ['e']
        mantissa ++ mark ++ digits first.natAbs
    sign ++ String.ofList body

/-- Numbers shown to people: powers of ten from -5 to 15 are written out, an exponent has no
    plus sign. -/
def Layout.display : Layout := ⟨-5, 15, false⟩

/-- Numbers in JSON: as `display`, with a plus sign before an exponent. -/
def Layout.json : Layout := ⟨-5, 15, true⟩

end TagAudit.Decimal
