/-
  TagAudit.Unicode.CodeSet — sets and shifts of code points, written as runs.

  A set is a list of runs `low, low + step, …, high`; as text a run is `41-5a`, `100-12e/2`
  or a single `aa`, in hexadecimal digits. A shift maps the members of a run by one distance,
  as text `41-5a+32` or `1e9e~7615`.
-/

namespace TagAudit.Unicode

/-- The code points from `low` to `high` at distances of `step`. -/
structure Run where
  low : Nat
  high : Nat
  step : Nat
  deriving DecidableEq, Repr

def Run.contains (r : Run) (n : Nat) : Bool := r.low ≤ n && n ≤ r.high && (n - r.low) % r.step == 0

abbrev CodeSet := List Run

namespace CodeSet

def contains (s : CodeSet) (n : Nat) : Bool := s.any (·.contains n)

/-- Adds a hexadecimal digit to a number. -/
def pushHex (n : Nat) (c : Char) : Nat :=
  n * 16 + if c.toNat < 58 then c.toNat - 48 else c.toNat - 87

def hex (cs : List Char) : Nat := cs.foldl pushHex 0

/-- What precedes the first `mark`, and what follows it. -/
def cut (mark : Char) (cs : List Char) : List Char × List Char :=
  (cs.takeWhile (· != mark), (cs.dropWhile (· != mark)).drop 1)

def run (cs : List Char) : Run :=
  let (range, step) := cut '/' cs
  let (low, high) := cut '-' range
  ⟨hex low, if high.isEmpty then hex low else hex high, if step.isEmpty then 1 else hex step⟩

def parts (cs : List Char) : List (List Char) :=
  let (part, ps) := cs.foldl
    (fun (part, ps) c => if c = ' ' then ([], part.reverse :: ps) else (c :: part, ps)) ([], [])
  (part.reverse :: ps).reverse

def ofText (text : String) : CodeSet := ((parts text.toList).filter (!·.isEmpty)).map run

end CodeSet

structure Shift where
  run : Run
  distance : Int
  deriving DecidableEq, Repr

namespace Shift

def ofText (text : String) : List Shift :=
  ((CodeSet.parts text.toList).filter (!·.isEmpty)).map fun cs =>
    let (up, distance) := CodeSet.cut '+' cs
    let (down, back) := CodeSet.cut '~' cs
    let decimal (cs : List Char) : Int := cs.foldl (fun n c => n * 10 + ((c.toNat - 48 : Nat) : Int)) 0
    (if back.isEmpty then ⟨CodeSet.run up, decimal distance⟩ else ⟨CodeSet.run down, -(decimal back)⟩ : Shift)

def apply (ss : List Shift) (n : Nat) : Nat :=
  match ss.find? (·.run.contains n) with
  | some s => ((n : Int) + s.distance).toNat
  | none => n

/-- The code points that are shifted to `n`. -/
def sources (ss : List Shift) (n : Nat) : List Nat :=
  ss.filterMap fun s =>
    let m := ((n : Int) - s.distance).toNat
    if s.run.contains m ∧ (m : Int) + s.distance = n then some m else none

end Shift
end TagAudit.Unicode
