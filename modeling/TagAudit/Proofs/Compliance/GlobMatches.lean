/-
  TagAudit.Proofs.Compliance.GlobMatches — which types a pattern matches.

  `Matches` says it without expressions: character after character, where `*` stands for a sequence
  without line feeds. The expression for a pattern reads one such part after the other
  (`mem_ends_element`, `mem_endsInTurn_elements`), from the first position to the last one.

  A pattern is written as an expression by escaping its parts between asterisks and joining them
  (`assembled`), which is the same as writing character after character (`assembled_eq`).

  Proved: `isMatch_iff_matches`.
-/

import TagAudit.Proofs.Compliance.Globs
import TagAudit.Proofs.Regex.Positions

namespace TagAudit

namespace Glob

inductive Matches : List Char → List Char → Prop
  | nil : Matches [] []
  | literal {c : Char} {pattern text : List Char} : c ≠ '*' → Matches pattern text → Matches (c :: pattern) (c :: text)
  | star {pattern any text : List Char} : '\n' ∉ any → Matches pattern text → Matches ('*' :: pattern) (any ++ text)

variable {c : Char} {pattern s : List Char}

@[simp] theorem matches_nil : Matches [] s ↔ s = [] := by
  constructor
  · rintro ⟨⟩
    rfl
  · rintro rfl
    exact .nil

theorem matches_literal (hc : c ≠ '*') : Matches [c] s ↔ s = [c] := by
  constructor
  · rintro (_ | ⟨-, hrest⟩ | ⟨-, -⟩)
    · rw [matches_nil.mp hrest]
    · contradiction
  · rintro rfl
    exact .literal hc .nil

@[simp] theorem matches_star : Matches ['*'] s ↔ '\n' ∉ s := by
  constructor
  · rintro (_ | ⟨hc, -⟩ | ⟨hany, hrest⟩)
    · contradiction
    · rwa [matches_nil.mp hrest, List.append_nil]
  · intro hs
    rw [← List.append_nil s]
    exact .star hs .nil

/-- A text is split where the first character of the pattern ends. -/
theorem matches_cons : Matches (c :: pattern) s ↔
    ∃ first rest, s = first ++ rest ∧ Matches [c] first ∧ Matches pattern rest := by
  constructor
  · rintro (_ | ⟨hc, hrest⟩ | ⟨hany, hrest⟩)
    · exact ⟨[c], _, rfl, .literal hc .nil, hrest⟩
    · exact ⟨_, _, rfl, matches_star.mpr hany, hrest⟩
  · rintro ⟨first, rest, rfl, hfirst, hrest⟩
    by_cases hc : c = '*'
    · subst hc
      exact .star (matches_star.mp hfirst) hrest
    · rw [(matches_literal hc).mp hfirst]
      exact .literal hc hrest

end Glob

namespace Regex

open Glob

variable {c : Char} {pattern cs s t : List Char} {starts : List Nat} {i j : Nat}

@[simp] theorem contains_single {x : Char} : (CharClass.single c).contains x.toNat = true ↔ x = c := by
  have hnat : (CharClass.single c).contains x.toNat = true ↔ x.toNat = c.toNat := by
    simp only [CharClass.single, CharClass.between, CharClass.contains, Unicode.CodeSet.contains, List.any_cons,
      List.any_nil, Unicode.Run.contains, Nat.mod_one, Bool.or_false, Bool.and_eq_true, decide_eq_true_eq,
      beq_self_eq_true, and_true]
    omega
  rw [hnat, Char.toNat_inj]

theorem allIn_notLineFeed : AllIn (.complement (.single '\n')) s ↔ '\n' ∉ s := by
  have hclass (x : Char) : (CharClass.complement (.single '\n')).contains x.toNat = true ↔ x ≠ '\n' := by
    rw [CharClass.contains, Bool.not_eq_true', ← Bool.not_eq_true, contains_single]
  unfold AllIn
  simp only [hclass]
  constructor
  · intro h hmem
    exact h '\n' hmem rfl
  · rintro h x hx rfl
    exact h hx

/-- The element for a character reads what the character matches. -/
theorem mem_ends_element : j ∈ ends cs.toArray (element c) starts ↔
    ∃ i ∈ starts, ∃ s, s <+: cs.drop i ∧ Matches [c] s ∧ j = i + s.length := by
  unfold element
  split
  · rename_i hc
    subst hc
    simp only [mem_ends_repeated, allIn_notLineFeed, matches_star]
  · rename_i hc
    simp only [mem_ends_set, contains_single, matches_literal hc]
    refine exists_congr fun i => and_congr_right fun _ => ?_
    have hfirst : [c] <+: cs.drop i ↔ cs[i]? = some c := by
      rw [cons_prefix_drop, and_iff_left List.nil_prefix]
    constructor
    · rintro ⟨_, hx, rfl, rfl⟩
      exact ⟨_, hfirst.mpr hx, rfl, rfl⟩
    · rintro ⟨_, hs, rfl, rfl⟩
      exact ⟨c, hfirst.mp hs, rfl, rfl⟩

theorem append_prefix_drop : s ++ t <+: cs.drop i ↔ s <+: cs.drop i ∧ t <+: cs.drop (i + s.length) := by
  rw [← List.drop_drop]
  constructor
  · rintro ⟨rest, hrest⟩
    rw [← hrest, List.append_assoc, List.drop_left]
    exact ⟨List.prefix_append _ _, List.prefix_append _ _⟩
  · rintro ⟨⟨rest, hrest⟩, ht⟩
    rw [← hrest, List.drop_left] at ht
    rw [← hrest]
    exact List.prefix_append_right_inj s |>.mpr ht

/-- The elements for a pattern read what the pattern matches. -/
theorem mem_endsInTurn_elements : j ∈ endsInTurn cs.toArray (pattern.map element) starts ↔
    ∃ i ∈ starts, ∃ s, s <+: cs.drop i ∧ Matches pattern s ∧ j = i + s.length := by
  induction pattern generalizing starts with
  | nil =>
    rw [List.map_nil, endsInTurn]
    constructor
    · intro hj
      exact ⟨j, hj, [], List.nil_prefix, .nil, rfl⟩
    · rintro ⟨i, hi, s, -, hs, rfl⟩
      rwa [matches_nil.mp hs]
  | cons c pattern ih =>
    rw [List.map_cons, endsInTurn, ih]
    constructor
    · rintro ⟨k, hk, rest, hrest, hmatch, rfl⟩
      obtain ⟨i, hi, first, hfirst, hchar, rfl⟩ := mem_ends_element.mp hk
      refine ⟨i, hi, first ++ rest, append_prefix_drop.mpr ⟨hfirst, hrest⟩, ?_, ?_⟩
      · exact matches_cons.mpr ⟨first, rest, rfl, hchar, hmatch⟩
      · rw [List.length_append, Nat.add_assoc]
    · rintro ⟨i, hi, s, hs, hmatch, rfl⟩
      obtain ⟨first, rest, rfl, hchar, hmatch⟩ := matches_cons.mp hmatch
      obtain ⟨hfirst, hrest⟩ := append_prefix_drop.mp hs
      refine ⟨i + first.length, mem_ends_element.mpr ⟨i, hi, first, hfirst, hchar, rfl⟩, rest, hrest, hmatch, ?_⟩
      rw [List.length_append, Nat.add_assoc]

@[simp] theorem endsInTurn_append (text : Subject) (rs rs' : List Regex) (starts : List Nat) :
    endsInTurn text (rs ++ rs') starts = endsInTurn text rs' (endsInTurn text rs starts) := by
  induction rs generalizing starts with
  | nil => rfl
  | cons r rs ih => rw [List.cons_append, endsInTurn, endsInTurn, ih]

/-- The expression for a pattern reads from the first position to the last one. -/
theorem mem_ends_regex {p : String} : j ∈ ends cs.toArray (Glob.regex p) (List.range (cs.length + 1)) ↔
    j = cs.length ∧ Matches p.toList cs := by
  rw [Glob.regex, ends, endsInTurn, ends, endsInTurn_append, endsInTurn, endsInTurn, ends, List.mem_filter,
    mem_endsInTurn_elements]
  constructor
  · rintro ⟨⟨i, hi, s, hs, hmatch, rfl⟩, hend⟩
    obtain rfl : i = 0 := eq_of_beq (List.mem_filter.mp hi).2
    have hlength : 0 + s.length = cs.length := eq_of_beq hend
    rw [Nat.zero_add] at hlength
    obtain rfl := hs.eq_of_length hlength
    exact ⟨Nat.zero_add _, hmatch⟩
  · rintro ⟨rfl, hmatch⟩
    have hfirst : 0 ∈ (List.range (cs.length + 1)).filter fun i => Assertion.holds cs.toArray i .textStart :=
      List.mem_filter.mpr ⟨List.mem_range.mpr (Nat.succ_pos _), rfl⟩
    exact ⟨⟨0, hfirst, cs, List.prefix_rfl, hmatch, (Nat.zero_add _).symm⟩, beq_self_eq_true _⟩

theorem matchesIn_regex {pattern type : String} :
    (Glob.regex pattern).matchesIn type = true ↔ Matches pattern.toList type.toList := by
  rw [matchesIn, Bool.not_eq_true', List.isEmpty_eq_false_iff_exists_mem]
  simp only [List.size_toArray, mem_ends_regex, exists_eq_left]

end Regex

namespace Glob

/-! ## Patterns as expressions -/

/-- A text as an expression that matches it alone. -/
def escaped (cs : List Char) : List Char := cs.flatMap fun c => if isMeta c then ['\\', c] else [c]

/-- A pattern as an expression: its parts between asterisks, escaped and joined. -/
def assembled (pattern : String) : String :=
  String.ofList ('^' :: (['.', '*'].intercalate ((pattern.toList.splitOn '*').map escaped) ++ ['$']))

theorem intercalate_append_cons (sep first part : List Char) (parts : List (List Char)) :
    sep.intercalate ((first ++ part) :: parts) = first ++ sep.intercalate (part :: parts) := by
  cases parts with
  | nil => rw [List.intercalate_singleton, List.intercalate_singleton]
  | cons next parts => simp only [List.intercalate_cons_cons, List.append_assoc]

theorem intercalate_escaped (cs : List Char) :
    ['.', '*'].intercalate ((cs.splitOn '*').map escaped) = cs.flatMap writtenElement := by
  induction cs with
  | nil => rfl
  | cons c cs ih =>
    obtain ⟨part, parts, hparts⟩ := List.exists_cons_of_ne_nil (List.splitOn_ne_nil '*' cs)
    rw [hparts] at ih
    rw [List.splitOn_cons_eq_if_modifyHead, hparts, List.flatMap_cons, ← ih, writtenElement]
    by_cases hc : c = '*'
    · rw [if_pos (beq_iff_eq.mpr hc), if_pos hc, List.map_cons, List.map_cons, List.intercalate_cons_cons]
      rfl
    · have hescaped : escaped (c :: part) = (if isMeta c then ['\\', c] else [c]) ++ escaped part := rfl
      rw [if_neg (mt beq_iff_eq.mp hc), if_neg hc, List.modifyHead_cons, List.map_cons, List.map_cons, hescaped,
        intercalate_append_cons]

theorem assembled_eq (pattern : String) : assembled pattern = written pattern := by
  rw [assembled, written, intercalate_escaped]

/-- A type matches a pattern where each character of the pattern but `*` stands for itself and each
    `*` for any sequence of characters without a line feed. This is also what is matched by all that
    the parts of the pattern, escaped and joined, can be read as, and they can be read within the
    limits of the reader. -/
theorem isMatch_iff_matches [Regex.Package] (pattern type : String) :
    (isMatch pattern type = true ↔ Matches pattern.toList type.toList) ∧
    (∀ r, Regex.read? (assembled pattern) = some r → (r.matchesIn type = true ↔ Matches pattern.toList type.toList)) ∧
    (Regex.Package.admits (assembled pattern) → ∃ r, Regex.read? (assembled pattern) = some r) := by
  refine ⟨Regex.matchesIn_regex, ?_, ?_⟩
  · intro r hr
    rw [assembled_eq] at hr
    obtain ⟨-, rfl⟩ := Regex.read?_written_eq_some.mp hr
    exact Regex.matchesIn_regex
  · intro hadmits
    rw [assembled_eq] at hadmits ⊢
    exact ⟨_, Regex.read?_written hadmits⟩

/-- A point stands for itself, and the type has an asterisk of its own. -/
theorem isMatch_iff_matches_point :
    isMatch "*.b*" "a*.bc" = true ∧ isMatch "*.b*" "axbc" = false ∧
    ∃ r, Regex.read? (assembled "*.b*") = some r ∧ r.matchesIn "a*.bc" = true := by
  have hrest : Matches ".b*".toList (".b".toList ++ ['c'] ++ []) :=
    .literal (by decide) (.literal (by decide) (.star (by decide) .nil))
  have hmatch : Matches "*.b*".toList (['a', '*'] ++ ".bc".toList) := .star (by decide) hrest
  obtain ⟨hmatches, hread, hexists⟩ := isMatch_iff_matches "*.b*" "a*.bc"
  obtain ⟨r, hr⟩ := hexists rfl
  exact ⟨hmatches.mpr hmatch, by decide +kernel, r, hr, (hread r hr).mpr hmatch⟩

end Glob
end TagAudit
