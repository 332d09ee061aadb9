/-
  TagAudit.Proofs.Compliance.Globs — patterns for types of resources, written as expressions.

  In the expression that a pattern is written as, `.*` stands for `*`, and a backslash before every
  other character that means something in expressions. Each character is read back as what it
  matches (`readAlternatives_element`).

  Proved: `read?_written`: what a pattern is written as can always be read, and it is the expression
  for the pattern.
-/

import TagAudit.Compliance.Glob
import TagAudit.Proofs.Regex.Enclosed

namespace TagAudit

namespace Glob

/-- The characters that mean something in expressions. -/
def isMeta (c : Char) : Bool := "\\.+*?()|[]\x7b\x7d^$#&-~".toList.contains c

/-- How a character of a pattern is written in an expression. -/
def writtenElement (c : Char) : List Char :=
  if c = '*' then ['.', '*'] else if isMeta c then ['\\', c] else [c]

def written (pattern : String) : String :=
  String.ofList ('^' :: (pattern.toList.flatMap writtenElement ++ ['$']))

end Glob

namespace Regex

open Glob (isMeta element writtenElement written)

theorem isMeta_iff {c : Char} : isMeta c ↔ c ∈ ['\\', '.', '+', '*', '?', '(', ')', '|', '[', ']', '\x7b', '\x7d', '^', '$',
    '#', '&', '-', '~'] := by
  rw [isMeta, List.contains_iff_mem]
  rfl

theorem readAlternatives_escaped [Package] {c : Char} (hc : isMeta c) (n : Nat) (items : Items) (cs : List Char) :
    readAlternatives (n + 1) [] items (.initial ('\\' :: c :: cs)) =
      readAlternatives n [] (some (.set (.single c)) :: items) (.initial cs) := by
  simp only [isMeta_iff, List.mem_cons, List.not_mem_nil, or_false] at hc
  rcases hc with rfl | rfl | rfl | rfl | rfl | rfl | rfl | rfl | rfl | rfl | rfl | rfl | rfl | rfl | rfl | rfl | rfl | rfl
  all_goals rfl

theorem readAlternatives_plain [Package] {c : Char} (hc : ¬isMeta c) (n : Nat) (items : Items) (cs : List Char) :
    readAlternatives (n + 1) [] items (.initial (c :: cs)) =
      readAlternatives n [] (some (.set (.single c)) :: items) (.initial cs) := by
  have hspace : space (.initial (c :: cs)) = some ((), .initial (c :: cs)) := rfl
  simp only [isMeta_iff, List.mem_cons, List.not_mem_nil, or_false, not_or] at hc
  obtain ⟨_, _, _, _, _, _, _, _, _, _, _, _, _, _, _⟩ := hc
  rw [readAlternatives, run_bind, hspace, Option.bind, rest_bind]
  simp only [State.initial]
  rfl

theorem readAlternatives_dot [Package] (n : Nat) (items : Items) (cs : List Char) :
    readAlternatives (n + 1) [] items (.initial ('.' :: cs)) =
      readAlternatives n [] (some (.set (.complement (.single '\n'))) :: items) (.initial cs) := rfl

/-- After an asterisk a question mark would mean something. -/
theorem accept_question {cs : List Char} (hcs : cs.head? ≠ some '?') :
    accept "?" (.initial cs) = some (false, .initial cs) := by
  have hmark : Text.afterMark? "?".toList cs = none := by
    show Text.afterMark? ['?'] cs = none
    cases cs with
    | nil => rfl
    | cons c cs =>
      have hc : '?' ≠ c := fun h => hcs (by rw [← h]; rfl)
      rw [Text.afterMark?, if_neg hc]
  rw [accept, rest_bind, State.initial, hmark]
  rfl

theorem readAlternatives_asterisk [Package] {cs : List Char} (hcs : cs.head? ≠ some '?') (n : Nat) (r : Regex) (items : Items) :
    readAlternatives (n + 1) [] (some r :: items) (.initial ('*' :: cs)) =
      readAlternatives n [] (some (.repetition r 0 none) :: items) (.initial cs) := by
  show ((accept "?" (.initial cs)).bind fun p => some (some (.repetition r 0 none) :: items, p.2)).bind
    (fun p => readAlternatives n [] p.1 p.2) = _
  rw [accept_question hcs]
  rfl

theorem head?_writtenElements (cs : List Char) : (cs.flatMap writtenElement ++ ['$']).head? ≠ some '?' := by
  cases cs with
  | nil => decide
  | cons c cs =>
    have hquestion : isMeta '?' := by decide
    rw [List.flatMap_cons, writtenElement]
    split
    · simp
    · split
      · simp
      · rename_i hc
        simp only [List.cons_append, List.nil_append, List.head?_cons, ne_eq, Option.some.injEq]
        rintro rfl
        exact hc hquestion

/-- What a character of a pattern is written as is read as what it matches, in a step for each character at most. -/
theorem readAlternatives_element [Package] (c : Char) {cs : List Char} (hcs : cs.head? ≠ some '?') (n : Nat) (items : Items) :
    ∃ k, n ≤ k ∧ readAlternatives (n + (writtenElement c).length) [] items (.initial (writtenElement c ++ cs)) =
      readAlternatives k [] (some (element c) :: items) (.initial cs) := by
  unfold writtenElement element
  by_cases hstar : c = '*'
  · refine ⟨n, Nat.le_refl n, ?_⟩
    rw [if_pos hstar, if_pos hstar]
    exact (readAlternatives_dot (n + 1) items ('*' :: cs)).trans (readAlternatives_asterisk hcs n _ items)
  · rw [if_neg hstar, if_neg hstar]
    by_cases hmeta : isMeta c
    · rw [if_pos hmeta]
      exact ⟨n + 1, Nat.le_succ n, readAlternatives_escaped hmeta (n + 1) items cs⟩
    · rw [if_neg hmeta]
      exact ⟨n, Nat.le_refl n, readAlternatives_plain hmeta n items cs⟩

/-- A written pattern is read one character after the other. -/
theorem readAlternatives_written [Package] (cs : List Char) {n : Nat} (hn : (cs.flatMap writtenElement).length + 2 ≤ n)
    (items : Items) : readAlternatives n [] items (.initial (cs.flatMap writtenElement ++ ['$'])) =
      some (ofItems (some (.assertion .textEnd) :: ((cs.map fun c => some (element c)).reverse ++ items)),
        .initial []) := by
  induction cs generalizing n items with
  | nil =>
    obtain ⟨n, rfl⟩ : ∃ k, n = k + 2 := ⟨n - 2, by rw [List.flatMap_nil, List.length_nil] at hn; omega⟩
    exact readAlternatives_dollar n items []
  | cons c cs ih =>
    rw [List.flatMap_cons, List.length_append] at hn
    obtain ⟨n, rfl⟩ : ∃ k, n = k + (writtenElement c).length := ⟨n - (writtenElement c).length, by omega⟩
    obtain ⟨k, hk, hstep⟩ := readAlternatives_element c (head?_writtenElements cs) n items
    rw [List.flatMap_cons, List.append_assoc, hstep, ih (by omega), List.map_cons, List.reverse_cons, List.append_assoc]
    rfl

theorem readAlternatives_pattern [Package] (pattern : String) :
    readAlternatives ((written pattern).toList.length + 1) [] [] (.initial (written pattern).toList) =
      some (Glob.regex pattern, .initial []) := by
  have hitems : ofItems (some (.assertion .textEnd) ::
      ((pattern.toList.map fun c => some (element c)).reverse ++ [some (.assertion .textStart)])) =
      Glob.regex pattern := by
    have hitems (cs : List Char) : (some (.assertion .textEnd) ::
        ((cs.map fun c => some (element c)).reverse ++ [some (.assertion .textStart)])).reverse.filterMap id =
          Regex.assertion .textStart :: (cs.map element ++ [.assertion .textEnd]) := by
      simp [List.filterMap_map]
    rw [ofItems, hitems, Glob.regex]
    cases pattern.toList <;> rfl
  rw [written, String.toList_ofList, List.length_cons, readAlternatives_caret,
    readAlternatives_written _ (by rw [List.length_append]; exact Nat.le_refl _), hitems]

/-- What a pattern is written as can be read, and only as the expression for the pattern. -/
theorem parse?_written [Package] (pattern : String) : parse? (written pattern) = some (Glob.regex pattern) :=
  parse?_eq_some.mpr ⟨.initial [], readAlternatives_pattern pattern, rfl⟩

theorem read?_written_eq_some [Package] {pattern : String} {r : Regex} :
    read? (written pattern) = some r ↔ Package.admits (written pattern) ∧ r = Glob.regex pattern := by
  rw [read?_eq_some, parse?_written, Option.some.injEq, eq_comm (a := Glob.regex pattern)]

/-- What a pattern is written as can be read within the limits, and it is the expression for the
    pattern. -/
theorem read?_written [Package] {pattern : String} (hadmits : Package.admits (written pattern)) :
    read? (written pattern) = some (Glob.regex pattern) :=
  read?_written_eq_some.mpr ⟨hadmits, rfl⟩

end Regex
end TagAudit
