/-
  TagAudit.Regex.Basic — regular expressions, and where they match in a text.

  `ends r text starts` are the positions at which a match of `r` can end that begins at one of
  the positions `starts`. Positions are kept in ascending order, each once, so repetitions stop
  as soon as nothing changes any more: a match need never be tried twice.
-/

import TagAudit.Unicode.CaseMap
import TagAudit.Unicode.Word

namespace TagAudit

inductive CharClass where
  | runs (s : Unicode.CodeSet)
  | complement (a : CharClass)
  | union (a b : CharClass)
  | intersection (a b : CharClass)
  | difference (a b : CharClass)
  /-- Characters that differ at most in case from one in the class; only in the case of Latin
      letters unless `unicode` is set. -/
  | folded (unicode : Bool) (a : CharClass)
  deriving DecidableEq, Repr, Inhabited

namespace CharClass

def none : CharClass := .runs []

def any : CharClass := .complement none

def between (low high : Nat) : CharClass := .runs [⟨low, high, 1⟩]

def single (c : Char) : CharClass := between c.toNat c.toNat

/-- The code points that differ from `n` at most in the case of a Latin letter. -/
def latinCases (n : Nat) : List Nat :=
  if 65 ≤ n ∧ n ≤ 90 then [n, n + 32] else if 97 ≤ n ∧ n ≤ 122 then [n, n - 32] else [n]

def contains : CharClass → Nat → Bool
  | .runs s, n => s.contains n
  | .complement a, n => !a.contains n
  | .union a b, n => a.contains n || b.contains n
  | .intersection a b, n => a.contains n && b.contains n
  | .difference a b, n => a.contains n && !b.contains n
  | .folded unicode a, n => (if unicode then Unicode.foldClass n else latinCases n).any a.contains

end CharClass

/-- A condition on a position in a text. Words consist of Unicode characters or, without
    `unicode`, of ASCII ones. -/
inductive Assertion where
  | textStart
  | textEnd
  | lineStart (returns : Bool)
  | lineEnd (returns : Bool)
  | wordBoundary (unicode : Bool)
  | noWordBoundary (unicode : Bool)
  | wordStart (unicode : Bool)
  | wordEnd (unicode : Bool)
  | noWordBefore (unicode : Bool)
  | noWordAfter (unicode : Bool)
  deriving DecidableEq, Repr, Inhabited

inductive Regex where
  | empty
  | set (c : CharClass)
  | assertion (a : Assertion)
  | concat (rs : List Regex)
  | alternatives (rs : List Regex)
  | repetition (r : Regex) (least : Nat) (most : Option Nat)
  | group (r : Regex)
  deriving Inhabited

namespace Regex

abbrev Subject := Array Char

/-! ## Conditions -/

def isWord (unicode : Bool) (c : Char) : Bool :=
  if unicode then Unicode.isWordChar c else c.isAlphanum || c == '_'

def wordBefore (unicode : Bool) (text : Subject) (i : Nat) : Bool :=
  match i with
  | 0 => false
  | i + 1 => (text[i]?.map (isWord unicode)).getD false

def wordAfter (unicode : Bool) (text : Subject) (i : Nat) : Bool := (text[i]?.map (isWord unicode)).getD false

def charBefore? (text : Subject) (i : Nat) : Option Char :=
  match i with
  | 0 => none
  | i + 1 => text[i]?

/-- Whether a condition holds at a position. With `returns` a carriage return ends a line too,
    but not between it and a line feed. -/
def Assertion.holds (text : Subject) (i : Nat) : Assertion → Bool
  | .textStart => i == 0
  | .textEnd => i == text.size
  | .lineStart false => i == 0 || charBefore? text i == some '\n'
  | .lineEnd false => i == text.size || text[i]? == some '\n'
  | .lineStart true =>
    i == 0 || charBefore? text i == some '\n' || (charBefore? text i == some '\r' && text[i]? != some '\n')
  | .lineEnd true =>
    i == text.size || text[i]? == some '\r' || (text[i]? == some '\n' && charBefore? text i != some '\r')
  | .wordBoundary u => wordBefore u text i != wordAfter u text i
  | .noWordBoundary u => wordBefore u text i == wordAfter u text i
  | .wordStart u => !wordBefore u text i && wordAfter u text i
  | .wordEnd u => wordBefore u text i && !wordAfter u text i
  | .noWordBefore u => !wordBefore u text i
  | .noWordAfter u => !wordAfter u text i

/-! ## Positions -/

/-- The positions in either of two ascending lists, each once. -/
def merge : List Nat → List Nat → List Nat
  | [], bs => bs
  | a :: as, bs => insert a (merge as bs)
where
  insert (a : Nat) : List Nat → List Nat
    | [] => [a]
    | b :: bs => if a < b then a :: b :: bs else if a = b then b :: bs else b :: insert a bs

/-- `n` steps, or fewer where nothing changes any more. -/
def iterate (step : List Nat → List Nat) : Nat → List Nat → List Nat
  | 0, s => s
  | n + 1, s =>
    let t := step s
    if t = s then s else iterate step n t

/-- All that at most `n` steps lead to. -/
def closure (step : List Nat → List Nat) : Nat → List Nat → List Nat
  | 0, s => s
  | n + 1, s =>
    let t := merge s (step s)
    if t = s then s else closure step n t

mutual
/-- Where matches can end that begin at one of the positions `starts`. -/
def ends (text : Subject) : Regex → List Nat → List Nat
  | .empty, starts => starts
  | .set c, starts =>
    starts.filterMap fun i => if (text[i]?.map fun x => c.contains x.toNat).getD false then some (i + 1) else none
  | .assertion a, starts => starts.filter fun i => Assertion.holds text i a
  | .concat rs, starts => endsInTurn text rs starts
  | .alternatives rs, starts => endsOfAny text rs starts
  | .repetition r least most, starts =>
    closure (ends text r) ((most.map (· - least)).getD (text.size + 1)) (iterate (ends text r) least starts)
  | .group r, starts => ends text r starts
def endsInTurn (text : Subject) : List Regex → List Nat → List Nat
  | [], starts => starts
  | r :: rs, starts => endsInTurn text rs (ends text r starts)
def endsOfAny (text : Subject) : List Regex → List Nat → List Nat
  | [], _ => []
  | r :: rs, starts => merge (ends text r starts) (endsOfAny text rs starts)
end

/-- Whether the expression matches anywhere in a text. -/
def matchesIn (r : Regex) (text : String) : Bool :=
  let subject := text.toList.toArray
  !(ends subject r (List.range (subject.size + 1))).isEmpty

end Regex
end TagAudit
