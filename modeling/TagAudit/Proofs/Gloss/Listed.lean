/-
  TagAudit.Proofs.Gloss.Listed — what is listed for a snippet, and in which order.

  The candidates of a line start one after the other, and their texts are resolved as they are
  written. Of candidates with one text the first is kept, and of those the ones that are resolved;
  lines come in their order, so that what is listed for a line is together (`filter_collect`).

  Proved: `glosses_placed`.
-/

import TagAudit.Proofs.Gloss.Parts
import TagAudit.Proofs.Symbols.Reports

namespace TagAudit.Gloss

/-! ## Lines -/

/-- A gloss is for what its expression resolves to, and all of that is resolved. -/
structure Resolved (t : Symbols.Table) (g : Gloss) : Prop where
  resolveText : t.resolveText g.written = ⟨g.written, g.value, g.origin, none⟩
  value : ∀ raw, ¬(Value.unresolved raw).Within g.value

/-- Glosses of expressions in a line: each starts after the one before it and outside of quoted text. -/
def Placed (line : List Char) (gs : List Gloss) : Prop :=
  ∃ starts : List Nat, starts.Pairwise (· < ·) ∧
    List.Forall₂ (fun g start => g.written.toList <+: line.drop start ∧ covered (quotedRanges line) start = false)
      gs starts

section
variable {t : Symbols.Table} {number : Nat} {line : List Char} {g : Gloss}

def gloss? (t : Symbols.Table) (number : Nat) (s : String) : Option Gloss :=
  let r := t.resolveText s
  if r.resolved then some ⟨number, r.written, r.value, r.origin⟩ else none

theorem ofLine_eq (t : Symbols.Table) (number : Nat) (line : List Char) :
    ofLine t number line =
      if isIdle line then [] else (Symbols.distinct ((candidates line).map (textOf line))).filterMap (gloss? t number) :=
  rfl

theorem eq_of_resolved {r : Symbols.Resolution} (h : r.resolved = true) : r = ⟨r.written, r.value, r.origin, none⟩ := by
  obtain ⟨written, value, origin, doubt⟩ := r
  cases doubt with
  | none => rfl
  | some doubt => cases h

theorem resolved_of_gloss? {s : String} (hs : Text.trimmed s = s) (h : gloss? t number s = some g) :
    g.written = s ∧ Resolved t g := by
  have hwritten := (written_resolveText t s).trans hs
  have hcandid := Symbols.candid_resolveText t s
  unfold gloss? at h
  dsimp only at h
  generalize hr : t.resolveText s = r at h hwritten hcandid
  split at h
  · rename_i hresolved
    obtain rfl := Option.some.inj h
    refine ⟨hwritten, ?_, hcandid.resolved.mp hresolved⟩
    dsimp only
    rw [hwritten, hr, ← hwritten]
    exact eq_of_resolved hresolved
  · cases h

theorem written_of_gloss? (t : Symbols.Table) (number : Nat) {ss : List String} (hss : ∀ s ∈ ss, Text.trimmed s = s) :
    ((ss.filterMap (gloss? t number)).map (·.written)).Sublist ss := by
  induction ss with
  | nil => exact List.Sublist.refl _
  | cons s ss ih =>
    have hrest := ih fun s hs => hss s (List.mem_cons_of_mem _ hs)
    cases hg : gloss? t number s with
    | none =>
      rw [List.filterMap_cons_none hg]
      exact hrest.cons s
    | some g =>
      rw [List.filterMap_cons_some hg, List.map_cons, (resolved_of_gloss? (hss s List.mem_cons_self) hg).1]
      exact hrest.cons_cons s

/-- What is listed for a line are texts of candidates, from left to right, each once. -/
theorem written_ofLine (t : Symbols.Table) (number : Nat) (line : List Char) :
    ((ofLine t number line).map (·.written)).Nodup ∧
      ∃ rs : List Range, rs.Sublist (candidates line) ∧ (ofLine t number line).map (·.written) = rs.map (textOf line) := by
  rw [ofLine_eq]
  split
  · exact ⟨List.nodup_nil, [], List.nil_sublist _, rfl⟩
  · obtain ⟨hsublist, hnodup⟩ := Symbols.distinct_spec ((candidates line).map (textOf line))
    have htrimmed : ∀ s ∈ Symbols.distinct ((candidates line).map (textOf line)), Text.trimmed s = s := by
      intro s hs
      obtain ⟨r, hr, rfl⟩ := List.mem_map.mp (Symbols.mem_distinct.mp hs)
      exact trimmed_textOf hr
    have hwritten := written_of_gloss? t number htrimmed
    exact ⟨hnodup.sublist hwritten, List.sublist_map_iff.mp (hwritten.trans hsublist)⟩

theorem placed_of_written {gs : List Gloss} {rs : List Range} (hrs : rs.Sublist (candidates line))
    (h : gs.map (·.written) = rs.map (textOf line)) : Placed line gs := by
  refine ⟨rs.map (·.start), List.pairwise_map.mpr ((pairwise_candidates line).sublist hrs), ?_⟩
  rw [List.forall₂_map_right_iff]
  have hmem := hrs.subset
  clear hrs
  induction rs generalizing gs with
  | nil =>
    obtain rfl : gs = [] := List.map_eq_nil_iff.mp h
    exact List.Forall₂.nil
  | cons r rs ih =>
    obtain ⟨g, gs, rfl, hg, hgs⟩ := List.map_eq_cons_iff.mp h
    refine List.Forall₂.cons ⟨?_, ?_⟩ (ih hgs fun r hr => hmem (List.mem_cons_of_mem _ hr))
    · rw [hg]
      exact textOf_beginning line r
    · exact (start_of_mem_candidates (hmem List.mem_cons_self)).1

theorem resolved_of_mem_ofLine (h : g ∈ ofLine t number line) : g.line = number ∧ Resolved t g := by
  obtain ⟨hline, -, r, hr, hwritten⟩ := of_mem_ofLine h
  rw [ofLine_eq] at h
  split at h
  · contradiction
  · obtain ⟨s, hs, hgloss⟩ := List.mem_filterMap.mp h
    obtain ⟨r, hr, rfl⟩ := List.mem_map.mp (Symbols.mem_distinct.mp hs)
    exact ⟨hline, (resolved_of_gloss? (trimmed_textOf hr) hgloss).2⟩

end

/-! ## Snippets -/

section
variable {t : Symbols.Table} {number : Nat} {line : List Char}

theorem filter_ofLine (t : Symbols.Table) (line : List Char) (m number : Nat) :
    (ofLine t m line).filter (·.line == number) = if m = number then ofLine t m line else [] := by
  split
  · rename_i h
    rw [List.filter_eq_self]
    intro g hg
    rw [(resolved_of_mem_ofLine hg).1, h, beq_self_eq_true]
  · rename_i h
    rw [List.filter_eq_nil_iff]
    intro g hg
    rw [(resolved_of_mem_ofLine hg).1, beq_iff_eq]
    exact h

/-- What is listed for lines, from a line number on. -/
def ofLines (t : Symbols.Table) : Nat → List (List Char) → List Gloss
  | _, [] => []
  | number, l :: ls => ofLine t number l ++ ofLines t (number + 1) ls

theorem flatten_mapIdx (t : Symbols.Table) (number : Nat) (ls : List (List Char)) :
    (ls.mapIdx fun i l => ofLine t (i + number) l).flatten = ofLines t number ls := by
  induction ls generalizing number with
  | nil => rfl
  | cons l ls ih =>
    rw [List.mapIdx_cons, List.flatten_cons, ofLines, ← ih (number + 1), Nat.zero_add]
    simp only [Nat.add_assoc, Nat.add_comm 1]

theorem collect_eq (t : Symbols.Table) (snippet : String) :
    collect t snippet = ofLines t 1 (Text.lines snippet.toList) := flatten_mapIdx t 1 _

theorem le_line_of_mem_ofLines {ls : List (List Char)} (h : g ∈ ofLines t number ls) : number ≤ g.line := by
  induction ls generalizing number with
  | nil => contradiction
  | cons l ls ih =>
    rcases List.mem_append.mp h with h | h
    · rw [(resolved_of_mem_ofLine h).1]
    · have hle := ih h
      omega

theorem pairwise_ofLines (t : Symbols.Table) (number : Nat) (ls : List (List Char)) :
    (ofLines t number ls).Pairwise fun a b => a.line ≤ b.line := by
  induction ls generalizing number with
  | nil => exact List.Pairwise.nil
  | cons l ls ih =>
    refine List.pairwise_append.mpr ⟨?_, ih (number + 1), ?_⟩
    · refine List.pairwise_of_forall_mem_list ?_
      intro a ha b hb
      rw [(resolved_of_mem_ofLine ha).1, (resolved_of_mem_ofLine hb).1]
    · intro a ha b hb
      have hle := le_line_of_mem_ofLines hb
      rw [(resolved_of_mem_ofLine ha).1]
      omega

theorem filter_ofLines {ls : List (List Char)} {i n : Nat} (h : ls[i]? = some line) (hn : n = number + i) :
    (ofLines t number ls).filter (·.line == n) = ofLine t n line := by
  induction ls generalizing number i with
  | nil => cases h
  | cons l ls ih =>
    rw [ofLines, List.filter_append, filter_ofLine]
    cases i with
    | zero =>
      obtain rfl := Option.some.inj h
      have hrest : (ofLines t (number + 1) ls).filter (·.line == n) = [] := by
        rw [List.filter_eq_nil_iff]
        intro g hg hline
        have hle := le_line_of_mem_ofLines hg
        have heq := eq_of_beq hline
        omega
      rw [if_pos (by omega), hrest, List.append_nil, hn, Nat.add_zero]
    | succ i =>
      rw [if_neg (by omega), List.nil_append]
      exact ih h (by omega)

theorem filter_collect {snippet : String} (h : (Text.lines snippet.toList)[number]? = some line) :
    (collect t snippet).filter (·.line == number + 1) = ofLine t (number + 1) line := by
  rw [collect_eq]
  exact filter_ofLines h (Nat.add_comm number 1)

theorem exists_gloss? {s : String} (number : Nat) (h : (t.resolveText s).resolved = true) :
    ∃ g, gloss? t number s = some g := by
  unfold gloss?
  generalize t.resolveText s = r at h ⊢
  exact ⟨_, if_pos h⟩

/-- A candidate that resolves is listed, though maybe as it stands earlier on its line. -/
theorem exists_mem_ofLine (number : Nat) (hidle : isIdle line = false) {r : Range} (hr : r ∈ candidates line)
    (hresolved : (t.resolveText (textOf line r)).resolved = true) :
    ∃ g ∈ ofLine t number line, g.written = textOf line r := by
  obtain ⟨g, hg⟩ := exists_gloss? number hresolved
  refine ⟨g, ?_, (resolved_of_gloss? (trimmed_textOf hr) hg).1⟩
  rw [ofLine_eq, if_neg (by simp [hidle])]
  exact List.mem_filterMap.mpr ⟨_, Symbols.mem_distinct.mpr (List.mem_map_of_mem hr), hg⟩

end

/-- All that is listed for a snippet is the text of an expression in one of its lines, with what that
    resolves to. It is in order of lines; on a line the expressions start one after the other outside
    of quoted text, and none is listed twice. No candidate that resolves is left out. -/
theorem glosses_placed (t : Symbols.Table) (snippet : String) :
    (∀ g ∈ collect t snippet, Resolved t g ∧ ∃ number line, g.line = number + 1 ∧
      (Text.lines snippet.toList)[number]? = some line ∧ g.written.toList <:+: line) ∧
    (collect t snippet).Pairwise (fun a b => a.line ≤ b.line) ∧
    ∀ number line, (Text.lines snippet.toList)[number]? = some line →
      Placed line ((collect t snippet).filter (·.line == number + 1)) ∧
      (((collect t snippet).filter (·.line == number + 1)).map (·.written)).Nodup ∧
      (isIdle line = false → ∀ r ∈ candidates line, (t.resolveText (textOf line r)).resolved →
        ∃ g ∈ collect t snippet, g.line = number + 1 ∧ g.written = textOf line r) := by
  refine ⟨?_, ?_, ?_⟩
  · intro g hg
    obtain ⟨number, line, hline, hmem⟩ := of_mem_collect hg
    obtain ⟨hnumber, -, r, hr, hwritten⟩ := of_mem_ofLine hmem
    refine ⟨(resolved_of_mem_ofLine hmem).2, number, line, hnumber, hline, ?_⟩
    rw [hwritten, trimmed_textOf hr]
    exact (textOf_beginning line r).isInfix.trans (List.drop_suffix _ _).isInfix
  · rw [collect_eq]
    exact pairwise_ofLines t 1 _
  · intro number line hline
    rw [filter_collect hline]
    obtain ⟨hnodup, rs, hrs, hwritten⟩ := written_ofLine t (number + 1) line
    refine ⟨placed_of_written hrs hwritten, hnodup, ?_⟩
    intro hidle r hr hresolved
    obtain ⟨g, hg, hgr⟩ := exists_mem_ofLine (number + 1) hidle hr hresolved
    rw [← filter_collect hline] at hg
    exact ⟨g, (List.mem_filter.mp hg).1, eq_of_beq (List.mem_filter.mp hg).2, hgr⟩

/-- The second line has a reference, and the same once more in a string. -/
def twoLines : String := "a = var.env\nb = [var.env, \"var.env\"]"

theorem glosses_placed_twoLines :
    ((collect envTable twoLines).map fun g => (g.line, g.written)) = [(1, "var.env"), (2, "var.env")] ∧
    (∀ g ∈ collect envTable twoLines, Resolved envTable g) ∧
    Placed "b = [var.env, \"var.env\"]".toList ((collect envTable twoLines).filter (·.line == 2)) := by
  obtain ⟨hlisted, -, hlines⟩ := glosses_placed envTable twoLines
  have hline : (Text.lines twoLines.toList)[1]? = some "b = [var.env, \"var.env\"]".toList := by decide +kernel
  exact ⟨by decide +kernel, fun g hg => (hlisted g hg).1, (hlines 1 _ hline).1⟩

end TagAudit.Gloss
