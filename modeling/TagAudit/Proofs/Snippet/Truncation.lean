/-
  TagAudit.Proofs.Snippet.Truncation — where a long snippet is cut.

  A snippet of more than `maxBytes` bytes keeps its longest beginning of at most that many bytes
  that a line feed follows. A line feed right after `maxBytes` bytes counts, so what is kept may be
  as long as the cap, and with the mark after it longer; the mark holds no line feed but its first
  character, so that a second cut is at the same place.

  Proved: `truncated_after_whole_lines`.
  - `wholeLines?_eq_some_iff` and `wholeLines?_eq_none_iff` say what the search finds;
  - `lastBreak_iff`: a search of the bytes for the last line feed finds the same place;
  - `splitOn_truncate`: the lines kept are the first ones of the snippet, each of them whole.
-/

import TagAudit.Proofs.Text.Utf8
import TagAudit.Snippet

namespace TagAudit.Snippet

open Text

/-- A beginning of a text in at most `room` bytes that ends where a line does. -/
structure WholeLines (room : Nat) (cs p : List Char) : Prop where
  fits : byteSize p ≤ room
  ended : p ++ ['\n'] <+: cs

/-- The longest such beginning. -/
structure Longest (room : Nat) (cs p : List Char) : Prop extends WholeLines room cs p where
  longest : ∀ q, WholeLines room cs q → q <+: p

/-- The position of the last line feed among the first `room + 1` bytes. -/
structure LastBreak (room : Nat) (bs : List UInt8) (n : Nat) : Prop where
  fits : n ≤ room
  lineFeed : bs[n]? = some 10
  last : ∀ m ≤ room, bs[m]? = some 10 → m ≤ n

variable {room : Nat} {c d : Char} {cs p q : List Char}

/-! ## The search -/

theorem not_wholeLines_nil : ¬WholeLines room [] p := fun h => by
  have hnil := List.prefix_nil.mp h.ended
  simp at hnil

theorem wholeLines_empty : WholeLines room (c :: cs) [] ↔ c = '\n' := by
  constructor
  · intro h
    exact (List.cons_prefix_cons.mp h.ended).1.symm
  · rintro rfl
    exact ⟨Nat.zero_le _, cs, rfl⟩

theorem wholeLines_cons :
    WholeLines room (c :: cs) (d :: p) ↔ d = c ∧ c.utf8Size ≤ room ∧ WholeLines (room - c.utf8Size) cs p := by
  constructor
  · intro h
    obtain ⟨rfl, hrest⟩ := List.cons_prefix_cons.mp h.ended
    have hfits := h.fits
    rw [byteSize_cons] at hfits
    exact ⟨rfl, by omega, by omega, hrest⟩
  · rintro ⟨rfl, hroom, hp⟩
    have hfits := hp.fits
    refine ⟨?_, List.cons_prefix_cons.mpr ⟨rfl, hp.ended⟩⟩
    rw [byteSize_cons]
    omega

theorem Longest.unique (hp : Longest room cs p) (hq : Longest room cs q) : p = q :=
  (hq.longest p hp.toWholeLines).eq_of_length_le (hp.longest q hq.toWholeLines).length_le

/-- The search fails only where there is nothing to find. -/
theorem not_wholeLines_of_none (h : wholeLines? room cs = none) (p : List Char) : ¬WholeLines room cs p := by
  induction cs generalizing room p with
  | nil => exact not_wholeLines_nil
  | cons c cs ih =>
    intro hp
    rw [wholeLines?] at h
    split at h
    · cases h
    · rename_i hmore
      cases p with
      | nil =>
        rw [if_pos (wholeLines_empty.mp hp)] at h
        cases h
      | cons d p =>
        obtain ⟨-, hroom, hrest⟩ := wholeLines_cons.mp hp
        rw [if_pos hroom, Option.map_eq_none_iff] at hmore
        exact ih hmore p hrest

theorem longest_of_some (h : wholeLines? room cs = some p) : Longest room cs p := by
  induction cs generalizing room p with
  | nil => cases h
  | cons c cs ih =>
    rw [wholeLines?] at h
    split at h
    · rename_i p' hmore
      cases h
      split at hmore
      · rename_i hroom
        obtain ⟨p, hp, rfl⟩ := Option.map_eq_some_iff.mp hmore
        have hlongest := ih hp
        refine ⟨wholeLines_cons.mpr ⟨rfl, hroom, hlongest.toWholeLines⟩, ?_⟩
        intro q hq
        cases q with
        | nil => exact List.nil_prefix
        | cons d q =>
          obtain ⟨rfl, -, hrest⟩ := wholeLines_cons.mp hq
          exact List.cons_prefix_cons.mpr ⟨rfl, hlongest.longest q hrest⟩
      · cases hmore
    · rename_i hmore
      split at h
      · rename_i hc
        cases h
        refine ⟨wholeLines_empty.mpr hc, ?_⟩
        intro q hq
        cases q with
        | nil => exact List.nil_prefix
        | cons d q =>
          obtain ⟨-, hroom, hrest⟩ := wholeLines_cons.mp hq
          rw [if_pos hroom, Option.map_eq_none_iff] at hmore
          exact absurd hrest (not_wholeLines_of_none hmore q)
      · cases h

theorem wholeLines?_eq_some_iff : wholeLines? room cs = some p ↔ Longest room cs p := by
  constructor
  · exact longest_of_some
  · intro hp
    cases hfound : wholeLines? room cs with
    | none => exact absurd hp.toWholeLines (not_wholeLines_of_none hfound p)
    | some q => rw [(longest_of_some hfound).unique hp]

theorem wholeLines?_eq_none_iff : wholeLines? room cs = none ↔ ¬∃ p, WholeLines room cs p := by
  constructor
  · rintro h ⟨p, hp⟩
    exact not_wholeLines_of_none h p hp
  · intro h
    cases hfound : wholeLines? room cs with
    | none => rfl
    | some p => exact absurd ⟨p, (longest_of_some hfound).toWholeLines⟩ h

/-! ## Bytes -/

/-- A search of the bytes finds the end of the longest beginning of whole lines. -/
theorem lastBreak_iff {n : Nat} : LastBreak room (utf8 cs) n ↔ ∃ p, Longest room cs p ∧ byteSize p = n := by
  constructor
  · intro h
    obtain ⟨p, hp, rfl⟩ := getElem?_utf8_eq_lineFeed.mp h.lineFeed
    refine ⟨p, ⟨⟨h.fits, hp⟩, fun q hq => ?_⟩, rfl⟩
    have hsize : byteSize q ≤ byteSize p := h.last _ hq.fits (getElem?_utf8_eq_lineFeed.mpr ⟨q, hq.ended, rfl⟩)
    exact prefix_of_byteSize_le ((List.prefix_append _ _).trans hp) ((List.prefix_append _ _).trans hq.ended) hsize
  · rintro ⟨p, hp, rfl⟩
    refine ⟨hp.fits, getElem?_utf8_eq_lineFeed.mpr ⟨p, hp.ended, rfl⟩, fun m hm hbyte => ?_⟩
    obtain ⟨q, hq, rfl⟩ := getElem?_utf8_eq_lineFeed.mp hbyte
    obtain ⟨rest, rfl⟩ := hp.longest q ⟨hm, hq⟩
    simp

/-- Cutting the bytes there is cutting between characters. -/
theorem take_utf8_beginning (h : p <+: cs) : (utf8 cs).take (byteSize p) = utf8 p := by
  obtain ⟨rest, rfl⟩ := h
  rw [utf8_append, ← length_utf8, List.take_left]

/-! ## The cut -/

theorem Longest.beginning (h : Longest room cs p) : p <+: cs := (List.prefix_append _ _).trans h.ended

theorem truncate_of_le (h : byteSize cs ≤ maxBytes) : truncate cs = cs := if_pos h

theorem truncate_of_longest (h : maxBytes < byteSize cs) (hp : Longest maxBytes cs p) :
    truncate cs = p ++ truncationMark := by
  rw [truncate, if_neg (by omega), wholeLines?_eq_some_iff.mpr hp]

theorem truncate_of_not_exists (h : maxBytes < byteSize cs) (hnone : ¬∃ p, WholeLines maxBytes cs p) :
    truncate cs = truncationMark.drop 1 := by
  rw [truncate, if_neg (by omega), wholeLines?_eq_none_iff.mpr hnone]
  rfl

/-- A long snippet is cut after its longest beginning of whole lines; without one only the mark is
    left. -/
theorem truncate_cases (h : maxBytes < byteSize cs) :
    (∃ p, Longest maxBytes cs p ∧ truncate cs = p ++ truncationMark) ∨
      (¬∃ p, WholeLines maxBytes cs p) ∧ truncate cs = truncationMark.drop 1 := by
  cases hfound : wholeLines? maxBytes cs with
  | some p =>
    left
    have hp := longest_of_some hfound
    exact ⟨p, hp, truncate_of_longest h hp⟩
  | none =>
    right
    have hnone := wholeLines?_eq_none_iff.mp hfound
    exact ⟨hnone, truncate_of_not_exists h hnone⟩

/-! ## The mark -/

theorem truncationMark_eq : truncationMark = '\n' :: truncationMark.drop 1 := rfl

theorem lineFeed_notMem_mark : '\n' ∉ truncationMark.drop 1 := by decide

theorem byteSize_mark_le : byteSize (truncationMark.drop 1) ≤ maxBytes := by decide

/-- A line feed in a text with no line feed after `p` but the one that follows it. -/
theorem prefix_of_lineFeed (hd : d ∉ cs) (h : q ++ [d] <+: p ++ d :: cs) : q <+: p := by
  induction p generalizing q with
  | nil =>
    cases q with
    | nil => exact List.nil_prefix
    | cons c q =>
      obtain ⟨-, hrest⟩ := List.cons_prefix_cons.mp h
      exact absurd (hrest.subset (List.mem_append_right q (List.mem_singleton_self d))) hd
  | cons c p ih =>
    cases q with
    | nil => exact List.nil_prefix
    | cons c' q =>
      obtain ⟨rfl, hrest⟩ := List.cons_prefix_cons.mp h
      exact List.cons_prefix_cons.mpr ⟨rfl, ih hrest⟩

/-- A snippet that was cut would be cut at the same place. -/
theorem Longest.append_mark (h : Longest room cs p) : Longest room (p ++ truncationMark) p := by
  refine ⟨⟨h.fits, ?_⟩, ?_⟩
  · rw [truncationMark_eq]
    exact ⟨truncationMark.drop 1, by rw [List.append_assoc]; rfl⟩
  · intro q hq
    have hended := hq.ended
    rw [truncationMark_eq] at hended
    exact prefix_of_lineFeed lineFeed_notMem_mark hended

theorem truncate_truncate (cs : List Char) : truncate (truncate cs) = truncate cs := by
  by_cases h : byteSize cs ≤ maxBytes
  · rw [truncate_of_le h, truncate_of_le h]
  have hlong : maxBytes < byteSize cs := by omega
  rcases truncate_cases hlong with ⟨p, hp, hcut⟩ | ⟨-, hcut⟩
  · rw [hcut]
    by_cases hshort : byteSize (p ++ truncationMark) ≤ maxBytes
    · exact truncate_of_le hshort
    · exact truncate_of_longest (by omega) hp.append_mark
  · rw [hcut]
    exact truncate_of_le byteSize_mark_le

theorem byteSize_truncate_le (cs : List Char) : byteSize (truncate cs) ≤ maxBytes + byteSize truncationMark := by
  by_cases h : byteSize cs ≤ maxBytes
  · rw [truncate_of_le h]
    omega
  have hlong : maxBytes < byteSize cs := by omega
  rcases truncate_cases hlong with ⟨p, hp, hcut⟩ | ⟨-, hcut⟩
  · have hfits := hp.fits
    rw [hcut, byteSize_append]
    omega
  · have hmark := byteSize_mark_le
    rw [hcut]
    omega

/-- The lines that are kept are the first ones, each of them whole, before the line of the mark. -/
theorem splitOn_truncate (h : maxBytes < byteSize cs) :
    ∃ kept, kept <+: cs.splitOn '\n' ∧ (truncate cs).splitOn '\n' = kept ++ [truncationMark.drop 1] := by
  have hmark : (truncationMark.drop 1).splitOn '\n' = [truncationMark.drop 1] :=
    List.splitOn_eq_singleton lineFeed_notMem_mark
  rcases truncate_cases h with ⟨p, hp, hcut⟩ | ⟨-, hcut⟩
  · refine ⟨p.splitOn '\n', ?_, ?_⟩
    · obtain ⟨rest, hrest⟩ := hp.ended
      rw [List.append_assoc] at hrest
      rw [← hrest, List.singleton_append, List.splitOn_append_cons_self]
      exact List.prefix_append _ _
    · rw [hcut, truncationMark_eq, List.splitOn_append_cons_self, ← truncationMark_eq, hmark]
  · exact ⟨[], List.nil_prefix, by rw [hcut, hmark, List.nil_append]⟩

/-- A snippet of at most `maxBytes` bytes stays. A longer one is cut after its longest beginning of
    at most `maxBytes` bytes that a line feed follows, and the mark is put there; without such a
    beginning the mark is left without its line feed. What is kept are whole lines, and the bytes
    kept are those before the last line feed among the first `maxBytes + 1`. -/
theorem truncated_after_whole_lines (cs : List Char) :
    (byteSize cs ≤ maxBytes → truncate cs = cs) ∧
    (maxBytes < byteSize cs →
      ((∃ p, Longest maxBytes cs p ∧ truncate cs = p ++ truncationMark) ∨
        (¬∃ p, WholeLines maxBytes cs p) ∧ truncate cs = truncationMark.drop 1) ∧
      (∃ kept, kept <+: cs.splitOn '\n' ∧ (truncate cs).splitOn '\n' = kept ++ [truncationMark.drop 1]) ∧
      ∀ n, LastBreak maxBytes (utf8 cs) n → utf8 (truncate cs) = (utf8 cs).take n ++ utf8 truncationMark) ∧
    byteSize (truncate cs) ≤ maxBytes + byteSize truncationMark ∧
    truncate (truncate cs) = truncate cs := by
  refine ⟨truncate_of_le, fun h => ⟨truncate_cases h, splitOn_truncate h, ?_⟩, byteSize_truncate_le cs,
    truncate_truncate cs⟩
  intro n hn
  obtain ⟨p, hp, rfl⟩ := lastBreak_iff.mp hn
  rw [truncate_of_longest h hp, utf8_append, take_utf8_beginning hp.beginning]

/-- A line of `maxBytes` bytes and the beginning of another one. -/
def fullLine : List Char := List.replicate maxBytes 'x' ++ ['\n', 'y']

theorem byteSize_replicate (n : Nat) : byteSize (List.replicate n 'x') = n := by
  induction n with
  | zero => rfl
  | succ n ih =>
    rw [List.replicate_succ, byteSize_cons, ih, Nat.add_comm]
    rfl

/-- The line is kept whole, though with the mark it is longer than the cap. -/
theorem truncated_after_whole_lines_fullLine :
    maxBytes < byteSize fullLine ∧ truncate fullLine = List.replicate maxBytes 'x' ++ truncationMark := by
  have hlong : maxBytes < byteSize fullLine := by
    rw [fullLine, byteSize_append, byteSize_replicate]
    exact Nat.lt_add_of_pos_right (by decide)
  have hline : WholeLines maxBytes fullLine (List.replicate maxBytes 'x') := by
    refine ⟨Nat.le_of_eq (byteSize_replicate _), ['y'], ?_⟩
    rw [fullLine, List.append_assoc]
    rfl
  refine ⟨hlong, ?_⟩
  rcases ((truncated_after_whole_lines fullLine).2.1 hlong).1 with ⟨p, hp, hcut⟩ | ⟨hnone, -⟩
  · have hkept : p = List.replicate maxBytes 'x' := by
      refine (prefix_of_byteSize_le ?_ hp.beginning ?_).eq_of_length_le (hp.longest _ hline).length_le
      · exact List.prefix_append _ _
      · rw [byteSize_replicate]
        exact hp.fits
    rw [hcut, hkept]
  · exact absurd ⟨_, hline⟩ hnone

end TagAudit.Snippet
