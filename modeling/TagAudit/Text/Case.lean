/-
  TagAudit.Text.Case — lower case, and comparing without regard to case.

  `lowercase` maps every character to its lower case form. A capital sigma becomes a final
  sigma at the end of a word: when a letter comes before it and none after it, characters such
  as apostrophes and accents between them aside. `sameLetters` compares two texts without
  regard to the case of the 26 Latin letters, and of no others.
-/

import TagAudit.Unicode.CaseMap
import TagAudit.Unicode.Property

namespace TagAudit.Text

def isCased (c : Char) : Bool := Unicode.cased.contains c.toNat

def isCaseIgnorable (c : Char) : Bool := Unicode.caseIgnorable.contains c.toNat

/-- Whether the first character that is not passed over is a letter with case. -/
def meetsCased (cs : List Char) : Bool :=
  match cs.dropWhile isCaseIgnorable with
  | c :: _ => isCased c
  | [] => false

/-- The lower case form of `c` between the characters `before` it (nearest first) and `after`. -/
def lowercaseChar (before : List Char) (c : Char) (after : List Char) : List Char :=
  match c with
  | 'Σ' => if meetsCased before && !meetsCased after then ['ς'] else ['σ']
  | 'İ' => ['i', '\u0307']
  | c => [Char.ofNat (Unicode.lowercaseCode c.toNat)]

def lowercaseFrom (before : List Char) : List Char → List Char
  | [] => []
  | c :: cs => lowercaseChar before c cs ++ lowercaseFrom (c :: before) cs

def lowercase (s : String) : String := String.ofList (lowercaseFrom [] s.toList)

/-- A Latin capital letter in lower case, any other character as it is. -/
def lowerLatin (c : Char) : Char := if 'A' ≤ c ∧ c ≤ 'Z' then Char.ofNat (c.toNat + 32) else c

/-- Whether two strings differ at most in the case of Latin letters. -/
def sameLetters (s t : String) : Bool := s.toList.map lowerLatin = t.toList.map lowerLatin

theorem sameLetters_iff {s t : String} : sameLetters s t ↔ s.toList.map lowerLatin = t.toList.map lowerLatin :=
  decide_eq_true_iff

theorem sameLetters_refl (s : String) : sameLetters s s := sameLetters_iff.mpr rfl

theorem sameLetters_symm {s t : String} (h : sameLetters s t) : sameLetters t s :=
  sameLetters_iff.mpr (sameLetters_iff.mp h).symm

theorem sameLetters_trans {s t u : String} (h : sameLetters s t) (h' : sameLetters t u) : sameLetters s u :=
  sameLetters_iff.mpr ((sameLetters_iff.mp h).trans (sameLetters_iff.mp h'))

end TagAudit.Text
