/-
  TagAudit.Proofs.Gloss.Candidates — the expressions of a line that are looked up.

  The three kinds of expressions that are searched for begin with different characters, and each
  search goes from left to right, so that no two candidates of a line start at one position
  (`pairwise_candidates`). No candidate starts or ends with a blank (`startsWith_of_mem_candidates`),
  so that an expression is resolved as it is written (`trimmed_textOf`), and none starts in what is
  taken for quoted text (`start_of_mem_candidates`).
-/

import TagAudit.Gloss
import TagAudit.Proofs.Hcl.Identifiers
import TagAudit.Proofs.Sorting

namespace TagAudit.Gloss

/-! ## Covered positions -/

@[simp] theorem covered_cons (r : Range) (rs : List Range) (n : Nat) :
    covered (r :: rs) n = (r.contains n || covered rs n) := rfl

@[simp] theorem covered_append (rs rs' : List Range) (n : Nat) : covered (rs ++ rs') n = (covered rs n || covered rs' n) :=
  List.any_append

/-! ## Ends of expressions -/

/-- The first `n` characters are there, and the last of them is not blank. -/
structure EndsAt (cs : List Char) (n : Nat) : Prop where
  pos : 0 < n
  last : ∃ c, cs[n - 1]? = some c ∧ Text.isBlank c = false

section
variable {c : Char} {cs : List Char} {k n : Nat}

theorem EndsAt.drop (h : EndsAt (cs.drop k) n) : EndsAt cs (k + n) := by
  obtain ⟨hpos, c, hc, hblank⟩ := h
  rw [List.getElem?_drop] at hc
  exact ⟨by omega, c, by rwa [Nat.add_sub_assoc hpos], hblank⟩

theorem endsAt_cons (h : EndsAt cs n) : EndsAt (c :: cs) (n + 1) := by
  rw [Nat.add_comm]
  exact EndsAt.drop (k := 1) h

theorem endsAt_head (h : Text.isBlank c = false) : EndsAt (c :: cs) 1 := ⟨Nat.one_pos, c, rfl, h⟩

theorem isBlank_of_isNameChar (h : isNameChar c = true) : Text.isBlank c = false := Hcl.isBlank_of_isIdentChar h

theorem isBlank_of_isNameStart (h : isNameStart c = true) : Text.isBlank c = false :=
  Hcl.isBlank_of_isIdentChar (Hcl.isIdentChar_of_start h)

theorem endsAt_takeWhile {p : Char → Bool} (hp : ∀ d, p d = true → Text.isBlank d = false)
    (hc : Text.isBlank c = false) (cs : List Char) : EndsAt (c :: cs) ((cs.takeWhile p).length + 1) := by
  induction cs generalizing c with
  | nil => exact endsAt_head hc
  | cons d cs ih =>
    rw [List.takeWhile_cons]
    split
    · rename_i hd
      exact endsAt_cons (ih (hp d hd))
    · exact endsAt_head hc

/-- After what precedes the first closing mark comes the mark. -/
theorem endsAt_closing {d : Char} (hd : Text.isBlank d = false)
    (h : (cs.takeWhile (· != d)).length ≠ cs.length) : EndsAt cs ((cs.takeWhile (· != d)).length + 1) := by
  induction cs with
  | nil => contradiction
  | cons c cs ih =>
    rw [List.takeWhile_cons] at h ⊢
    split
    · rename_i hc
      rw [if_pos hc] at h
      exact endsAt_cons (ih (by simpa using h))
    · rename_i hc
      have hcd : c = d := by simpa using hc
      subst hcd
      exact endsAt_head hd

theorem endsAt_name (h : nameLength? cs = some n) : EndsAt cs n := by
  unfold nameLength? at h
  split at h
  · cases h
  · split at h
    · rename_i hstart
      cases h
      exact endsAt_takeWhile (fun _ => isBlank_of_isNameChar) (isBlank_of_isNameStart hstart) _
    · cases h

theorem endsAt_step (h : stepLength? cs = some n) : EndsAt cs n := by
  unfold stepLength? at h
  split at h
  · obtain ⟨m, hname, rfl⟩ := Option.map_eq_some_iff.mp h
    exact endsAt_cons (endsAt_name hname)
  · dsimp only at h
    split at h
    · cases h
    · rename_i hclosed
      cases h
      rw [Bool.or_eq_true, not_or, decide_eq_true_eq] at hclosed
      exact endsAt_cons (endsAt_closing (by decide) hclosed.2)
  · cases h

theorem endsAt_path (fuel : Nat) (cs : List Char) : pathLength fuel cs = 0 ∨ EndsAt cs (pathLength fuel cs) := by
  induction fuel generalizing cs with
  | zero => exact .inl rfl
  | succ fuel ih =>
    rw [pathLength]
    split
    · exact .inl rfl
    · rename_i n hstep
      right
      rcases ih (cs.drop n) with hzero | hends
      · rw [hzero, Nat.add_zero]
        exact endsAt_step hstep
      · exact hends.drop

theorem endsAt_interpolation (h : interpolationLength? cs = some n) : EndsAt cs n := by
  unfold interpolationLength? at h
  split at h
  · dsimp only at h
    split at h
    · cases h
    · rename_i hclosed
      cases h
      rw [Bool.or_eq_true, not_or, decide_eq_true_eq] at hclosed
      exact endsAt_cons (endsAt_cons (endsAt_closing (by decide) hclosed.2))
  · cases h

/-- A reference is one of two words with a point, a name and the steps after it. -/
theorem of_referenceLength? (h : referenceLength? cs = some n) :
    ∃ mark ∈ ["var.".toList, "local.".toList], ∃ rest m, Text.afterMark? mark cs = some rest ∧
      nameLength? rest = some m ∧ n = mark.length + m + pathLength rest.length (rest.drop m) := by
  unfold referenceLength? at h
  dsimp only at h
  split at h
  · rename_i k hvar
    cases h
    obtain ⟨rest, hmark, hrest⟩ := Option.bind_eq_some_iff.mp hvar
    obtain ⟨m, hname, hlength⟩ := Option.bind_eq_some_iff.mp hrest
    exact ⟨_, List.mem_cons_self, rest, m, hmark, hname, (Option.some.inj hlength).symm⟩
  · obtain ⟨rest, hmark, hrest⟩ := Option.bind_eq_some_iff.mp h
    obtain ⟨m, hname, hlength⟩ := Option.bind_eq_some_iff.mp hrest
    exact ⟨_, List.mem_cons_of_mem _ List.mem_cons_self, rest, m, hmark, hname, (Option.some.inj hlength).symm⟩

theorem endsAt_reference (h : referenceLength? cs = some n) : EndsAt cs n := by
  obtain ⟨mark, -, rest, m, hmark, hname, rfl⟩ := of_referenceLength? h
  have hpath : EndsAt rest (m + pathLength rest.length (rest.drop m)) := by
    rcases endsAt_path rest.length (rest.drop m) with hzero | hends
    · rw [hzero, Nat.add_zero]
      exact endsAt_name hname
    · exact hends.drop
  obtain rfl := Text.afterMark?_eq_some.mp hmark
  rw [Nat.add_assoc]
  apply EndsAt.drop
  rwa [List.drop_left]

theorem endsAt_close {depth : Nat} {quoted escaped : Bool} (h : lengthToClose? depth quoted escaped cs = some n) :
    EndsAt cs n := by
  induction cs generalizing depth quoted escaped n with
  | nil => cases h
  | cons c cs ih =>
    have hlater {depth : Nat} {quoted escaped : Bool}
        (h : (lengthToClose? depth quoted escaped cs).map (· + 1) = some n) : EndsAt (c :: cs) n := by
      obtain ⟨m, hm, rfl⟩ := Option.map_eq_some_iff.mp h
      exact endsAt_cons (ih hm)
    unfold lengthToClose? at h
    dsimp only at h
    split at h
    · split at h
      · exact hlater h
      · split at h <;> exact hlater h
    · split at h
      · exact hlater h
      · exact hlater h
      · split at h
        · cases h
          exact endsAt_head (by decide)
        · exact hlater h
      · exact hlater h

end

/-! ## Candidates -/

/-- A candidate that starts with one of some characters and does not end with a blank. -/
structure StartsWith (line : List Char) (marks : List Char) (r : Range) : Prop where
  first : ∃ c ∈ marks, (line.drop r.start).head? = some c
  ends : EndsAt (line.drop r.start) (r.stop - r.start)

theorem mem_find {length? : Option Char → List Char → Option Nat} {at_ skip : Nat} {before : Option Char}
    {cs : List Char} {r : Range} (h : r ∈ find length? at_ before skip cs) :
    ∃ k b c ds n, cs.drop k = c :: ds ∧ length? b (c :: ds) = some n ∧ r = ⟨at_ + k, at_ + k + n⟩ := by
  induction cs generalizing at_ before skip with
  | nil => contradiction
  | cons c cs ih =>
    have hlater {skip : Nat} (h : r ∈ find length? (at_ + 1) (some c) skip cs) :
        ∃ k b d ds n, (c :: cs).drop k = d :: ds ∧ length? b (d :: ds) = some n ∧ r = ⟨at_ + k, at_ + k + n⟩ := by
      obtain ⟨k, b, d, ds, n, hdrop, hlength, rfl⟩ := ih h
      exact ⟨k + 1, b, d, ds, n, hdrop, hlength, by rw [Nat.add_assoc, Nat.add_comm 1 k]⟩
    unfold find at h
    split at h
    · exact hlater h
    · split at h
      · rename_i n hlength
        obtain rfl | h := List.mem_cons.mp h
        · exact ⟨0, before, c, cs, n, rfl, hlength, rfl⟩
        · exact hlater h
      · exact hlater h

section
variable {line : List Char} {r : Range}

theorem mem_findAll {length? : Option Char → List Char → Option Nat} (h : r ∈ findAll length? line) :
    ∃ b c ds, line.drop r.start = c :: ds ∧ length? b (c :: ds) = some (r.stop - r.start) := by
  obtain ⟨k, b, c, ds, n, hdrop, hlength, rfl⟩ := mem_find h
  refine ⟨b, c, ds, ?_⟩
  simp only [Nat.zero_add, Nat.add_sub_cancel_left]
  exact ⟨hdrop, hlength⟩

theorem first_of_afterMark? {m c : Char} {mark ds rest : List Char}
    (h : Text.afterMark? (m :: mark) (c :: ds) = some rest) : c = m :=
  (List.cons.inj (Text.afterMark?_eq_some.mp h)).1

theorem mem_mergeCalls {line : List Char} {taken rs : List Range} {call : Range} (h : call ∈ mergeCalls line taken rs) :
    covered taken call.start = false ∧ ∃ r ∈ rs, closeCall? line r = some call := by
  induction rs generalizing taken with
  | nil => contradiction
  | cons r rs ih =>
    have hlater (more : List Range) (h : call ∈ mergeCalls line (more ++ taken) rs) :
        covered taken call.start = false ∧ ∃ r' ∈ r :: rs, closeCall? line r' = some call := by
      obtain ⟨hfree, r', hr', hclose⟩ := ih h
      rw [covered_append, Bool.or_eq_false_iff] at hfree
      exact ⟨hfree.2, r', List.mem_cons_of_mem r hr', hclose⟩
    unfold mergeCalls at h
    split at h
    · exact hlater [] h
    · rename_i hfree
      split at h
      · rename_i call' hclose
        obtain rfl | h := List.mem_cons.mp h
        · have hstart : call.start = r.start := by
            obtain ⟨n, -, rfl⟩ := Option.map_eq_some_iff.mp hclose
            rfl
          rw [hstart]
          exact ⟨eq_false_of_ne_true hfree, r, List.mem_cons_self, hclose⟩
        · exact hlater [call'] h
      · exact hlater [] h

theorem mem_uncovered {taken rs : List Range} {r : Range} (h : r ∈ uncovered taken rs) :
    covered taken r.start = false ∧ r ∈ rs := by
  induction rs generalizing taken with
  | nil => contradiction
  | cons r' rs ih =>
    unfold uncovered at h
    split at h
    · exact ⟨(ih h).1, List.mem_cons_of_mem r' (ih h).2⟩
    · rename_i hfree
      obtain rfl | h := List.mem_cons.mp h
      · exact ⟨eq_false_of_ne_true hfree, List.mem_cons_self⟩
      · obtain ⟨hfree', hr⟩ := ih h
        rw [covered_cons, Bool.or_eq_false_iff] at hfree'
        exact ⟨hfree'.2, List.mem_cons_of_mem r' hr⟩

theorem startsWith_of_mem_mergeCalls {taken : List Range} (h : r ∈ mergeCalls line taken (mergeStarts line)) :
    StartsWith line ['m'] r := by
  obtain ⟨-, r', hr', hclose⟩ := mem_mergeCalls h
  obtain ⟨b, c, ds, hdrop, hlength⟩ := mem_findAll hr'
  split at hlength
  · rename_i hmerge
    obtain ⟨rest, hmark⟩ := Option.isSome_iff_exists.mp (Bool.and_eq_true_iff.mp hmerge).2
    have hc : c = 'm' := first_of_afterMark? hmark
    have hstop : r'.stop = r'.start + mergeMark.length := by
      have hsize := Option.some.inj hlength
      have hpos : 0 < mergeMark.length := by decide
      omega
    obtain ⟨n, hn, rfl⟩ := Option.map_eq_some_iff.mp hclose
    refine ⟨⟨c, List.mem_singleton.mpr hc, congrArg List.head? hdrop⟩, ?_⟩
    dsimp only
    rw [hstop] at hn ⊢
    rw [Nat.add_assoc, Nat.add_sub_cancel_left]
    apply EndsAt.drop
    rw [List.drop_drop]
    exact endsAt_close hn
  · cases hlength

theorem startsWith_of_mem_interpolations (h : r ∈ interpolations line) : StartsWith line ['$'] r := by
  obtain ⟨b, c, ds, hdrop, hlength⟩ := mem_findAll h
  refine ⟨⟨c, ?_, congrArg List.head? hdrop⟩, ?_⟩
  · unfold interpolationLength? at hlength
    split at hlength
    · rename_i heq
      exact List.mem_singleton.mpr (List.cons.inj heq).1
    · cases hlength
  · rw [hdrop]
    exact endsAt_interpolation hlength

theorem startsWith_of_mem_referenceRanges (h : r ∈ referenceRanges line) : StartsWith line ['v', 'l'] r := by
  obtain ⟨b, c, ds, hdrop, hlength⟩ := mem_findAll h
  split at hlength
  · cases hlength
  · refine ⟨⟨c, ?_, congrArg List.head? hdrop⟩, ?_⟩
    · obtain ⟨mark, hword, rest, m, hmark, -⟩ := of_referenceLength? hlength
      rcases List.mem_cons.mp hword with rfl | hword
      · have hc : c = 'v' := first_of_afterMark? hmark
        exact List.mem_cons.mpr (.inl hc)
      · rw [List.mem_singleton.mp hword] at hmark
        have hc : c = 'l' := first_of_afterMark? hmark
        exact List.mem_cons_of_mem _ (List.mem_singleton.mpr hc)
    · rw [hdrop]
      exact endsAt_reference hlength

/-! ## From left to right -/

theorem pairwise_find (length? : Option Char → List Char → Option Nat) (at_ : Nat) (before : Option Char) (skip : Nat)
    (cs : List Char) :
    (∀ r ∈ find length? at_ before skip cs, at_ ≤ r.start) ∧
      (find length? at_ before skip cs).Pairwise fun a b => a.start < b.start := by
  induction cs generalizing at_ before skip with
  | nil => exact ⟨by simp [find], List.Pairwise.nil⟩
  | cons c cs ih =>
    have hlater (skip : Nat) : ∀ r ∈ find length? (at_ + 1) (some c) skip cs, at_ ≤ r.start := by
      intro r hr
      have hle := (ih (at_ + 1) (some c) skip).1 r hr
      omega
    unfold find
    split
    · exact ⟨hlater _, (ih ..).2⟩
    · split
      · refine ⟨?_, List.pairwise_cons.mpr ⟨?_, (ih ..).2⟩⟩
        · intro r hr
          rcases List.mem_cons.mp hr with rfl | hr
          · exact Nat.le_refl at_
          · exact hlater _ r hr
        · intro r hr
          exact (ih (at_ + 1) (some c) _).1 r hr
      · exact ⟨hlater _, (ih ..).2⟩

theorem nodup_findAll (length? : Option Char → List Char → Option Nat) (line : List Char) :
    ((findAll length? line).map (·.start)).Nodup :=
  List.pairwise_map.mpr ((pairwise_find length? 0 none 0 line).2.imp Nat.ne_of_lt)

theorem sublist_mergeCalls (line : List Char) (taken rs : List Range) :
    ((mergeCalls line taken rs).map (·.start)).Sublist (rs.map (·.start)) := by
  induction rs generalizing taken with
  | nil => exact List.Sublist.refl _
  | cons r rs ih =>
    unfold mergeCalls
    split
    · exact (ih taken).cons _
    · split
      · rename_i call hclose
        obtain ⟨n, -, rfl⟩ := Option.map_eq_some_iff.mp hclose
        exact (ih _).cons_cons _
      · exact (ih taken).cons _

theorem sublist_uncovered (taken rs : List Range) : (uncovered taken rs).Sublist rs := by
  induction rs generalizing taken with
  | nil => exact List.Sublist.refl _
  | cons r rs ih =>
    unfold uncovered
    split
    · exact (ih taken).cons r
    · exact (ih _).cons_cons r

theorem StartsWith.start_ne {marks marks' : List Char} {r' : Range} (h : StartsWith line marks r)
    (h' : StartsWith line marks' r') (hne : ∀ c ∈ marks, c ∉ marks') : r.start ≠ r'.start := by
  intro heq
  obtain ⟨c, hc, hstart⟩ := h.first
  obtain ⟨c', hc', hstart'⟩ := h'.first
  rw [heq, hstart'] at hstart
  cases hstart
  exact hne c hc hc'

end

/-! ## The candidates of a line -/

section
variable (line : List Char)

def calls : List Range := mergeCalls line (quotedRanges line) (mergeStarts line)

def inner : List Range := uncovered (quotedRanges line ++ calls line) (interpolations line)

def names : List Range :=
  (referenceRanges line).filter fun r => !covered (quotedRanges line ++ calls line ++ inner line) r.start

theorem candidates_eq :
    candidates line = (calls line ++ inner line ++ names line).mergeSort fun a b => decide (a.start ≤ b.start) := rfl

variable {line} {r : Range}

theorem startsWith_of_mem_inner (h : r ∈ inner line) : StartsWith line ['$'] r :=
  startsWith_of_mem_interpolations (mem_uncovered h).2

theorem startsWith_of_mem_names (h : r ∈ names line) : StartsWith line ['v', 'l'] r :=
  startsWith_of_mem_referenceRanges (List.mem_filter.mp h).1

theorem StartsWith.mono {marks marks' : List Char} (h : StartsWith line marks r) (hsub : marks ⊆ marks') :
    StartsWith line marks' r := by
  obtain ⟨c, hc, hstart⟩ := h.first
  exact ⟨⟨c, hsub hc, hstart⟩, h.ends⟩

theorem startsWith_of_mem_candidates (h : r ∈ candidates line) : StartsWith line ['m', '$', 'v', 'l'] r := by
  rw [candidates_eq, List.mem_mergeSort, List.mem_append, List.mem_append] at h
  rcases h with (h | h) | h
  · exact (startsWith_of_mem_mergeCalls h).mono (by simp)
  · exact (startsWith_of_mem_inner h).mono (by simp)
  · exact (startsWith_of_mem_names h).mono (by simp)

/-- A candidate starts at a character that is not blank and not covered. -/
theorem start_of_mem_candidates {cs : List Char} (h : r ∈ candidates cs) :
    covered (quotedRanges cs) r.start = false ∧ ∃ c, cs[r.start]? = some c ∧ Text.isBlank c = false := by
  refine ⟨?_, ?_⟩
  · rw [candidates_eq, List.mem_mergeSort, List.mem_append, List.mem_append] at h
    rcases h with (h | h) | h
    · exact (mem_mergeCalls h).1
    · have hfree := (mem_uncovered h).1
      rw [covered_append, Bool.or_eq_false_iff] at hfree
      exact hfree.1
    · have hfree := (List.mem_filter.mp h).2
      rw [covered_append, covered_append, Bool.not_eq_true', Bool.or_eq_false_iff, Bool.or_eq_false_iff] at hfree
      exact hfree.1.1
  · obtain ⟨c, hc, hstart⟩ := (startsWith_of_mem_candidates h).first
    have hmarks : ∀ c ∈ ['m', '$', 'v', 'l'], Text.isBlank c = false := by simp [Text.isBlank]
    rw [List.head?_drop] at hstart
    exact ⟨c, hstart, hmarks c hc⟩

variable (line)

/-- No two expressions that are found start at one position. -/
theorem nodup_starts : ((calls line ++ inner line ++ names line).map (·.start)).Nodup := by
  rw [List.map_append, List.map_append]
  refine List.nodup_append.mpr ⟨List.nodup_append.mpr ⟨?_, ?_, ?_⟩, ?_, ?_⟩
  · exact (nodup_findAll _ line).sublist (sublist_mergeCalls _ _ _)
  · exact (nodup_findAll _ line).sublist ((sublist_uncovered _ _).map _)
  · intro start hstart start' hstart'
    obtain ⟨r, hr, rfl⟩ := List.mem_map.mp hstart
    obtain ⟨r', hr', rfl⟩ := List.mem_map.mp hstart'
    exact (startsWith_of_mem_mergeCalls hr).start_ne (startsWith_of_mem_inner hr') (by simp)
  · exact (nodup_findAll _ line).sublist (List.filter_sublist.map _)
  · intro start hstart start' hstart'
    rw [← List.map_append] at hstart
    obtain ⟨r, hr, rfl⟩ := List.mem_map.mp hstart
    obtain ⟨r', hr', rfl⟩ := List.mem_map.mp hstart'
    rcases List.mem_append.mp hr with hr | hr
    · exact (startsWith_of_mem_mergeCalls hr).start_ne (startsWith_of_mem_names hr') (by simp)
    · exact (startsWith_of_mem_inner hr).start_ne (startsWith_of_mem_names hr') (by simp)

theorem pairwise_candidates : (candidates line).Pairwise fun a b => a.start < b.start := by
  have hsorted : (candidates line).Pairwise fun a b => a.start ≤ b.start := pairwise_mergeSort_key Range.start _
  have hnodup : ((candidates line).map (·.start)).Nodup :=
    (((List.mergeSort_perm _ _).map _).nodup_iff).mpr (nodup_starts line)
  refine (hsorted.and (List.pairwise_map.mp hnodup)).imp ?_
  intro a b hab
  exact Nat.lt_of_le_of_ne hab.1 hab.2

end

/-! ## Their texts -/

section
variable {line : List Char} {r : Range}

@[simp] theorem toList_textOf (line : List Char) (r : Range) :
    (textOf line r).toList = (line.drop r.start).take (r.stop - r.start) := String.toList_ofList

/-- Nothing is cut off a candidate: neither its first nor its last character is a blank. -/
theorem trimmed_textOf (h : r ∈ candidates line) : Text.trimmed (textOf line r) = textOf line r := by
  obtain ⟨-, c, hstart, hfirst⟩ := start_of_mem_candidates h
  obtain ⟨-, hpos, d, hlast, hblank⟩ := startsWith_of_mem_candidates h
  have hlength : r.stop - r.start ≤ (line.drop r.start).length := by
    have hlt := (List.getElem?_eq_some_iff.mp hlast).1
    omega
  apply Text.trimmed_of_ends
  · intro c' hc'
    rw [toList_textOf, List.head?_take, if_neg (by omega), List.head?_drop, hstart] at hc'
    cases hc'
    exact hfirst
  · intro c' hc'
    rw [toList_textOf, List.getLast?_eq_getElem?, List.length_take, Nat.min_eq_left hlength,
      List.getElem?_take_of_lt (by omega), hlast] at hc'
    cases hc'
    exact hblank

theorem textOf_beginning (line : List Char) (r : Range) : (textOf line r).toList <+: line.drop r.start := by
  rw [toList_textOf]
  exact List.take_prefix _ _

end

end TagAudit.Gloss
