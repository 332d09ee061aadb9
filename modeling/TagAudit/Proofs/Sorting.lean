/-
  TagAudit.Proofs.Sorting — lists in order of a key, and sorted lists without repetitions.
-/

namespace TagAudit

section
variable {α β : Type} [LE β] [DecidableLE β] [Std.IsLinearPreorder β]

theorem pairwise_mergeSort_key (key : α → β) (l : List α) :
    (l.mergeSort fun a b => decide (key a ≤ key b)).Pairwise fun a b => key a ≤ key b := by
  refine (List.pairwise_mergeSort ?_ ?_ l).imp of_decide_eq_true
  · intro a b c hab hbc
    exact decide_eq_true (Std.le_trans (of_decide_eq_true hab) (of_decide_eq_true hbc))
  · intro a b
    rw [Bool.or_eq_true, decide_eq_true_eq, decide_eq_true_eq]
    exact Std.le_total

end

/-- Elements that sort alike stay in the order in which they stand. -/
theorem pairwise_mergeSort_stable {α : Type} {R : α → α → Prop} {le : α → α → Bool}
    (trans : ∀ a b c, le a b = true → le b c = true → le a c = true) (total : ∀ a b, (le a b || le b a) = true)
    {l : List α} (h : l.Pairwise R) :
    (l.mergeSort le).Pairwise fun a b => le a b = true ∧ (le b a = true → R a b) := by
  -- sorted with its positions, equal ones ascend
  have hsorted := List.pairwise_mergeSort (List.zipIdxLE_trans trans) (List.zipIdxLE_total total) l.zipIdx
  have hperm : (l.zipIdx.mergeSort (List.zipIdxLE le)).Perm l.zipIdx := List.mergeSort_perm _ _
  have hpositions : (l.zipIdx.mergeSort (List.zipIdxLE le)).Pairwise fun a b => a.2 ≠ b.2 := by
    refine hperm.symm.pairwise (List.pairwise_map.mp ?_) Ne.symm
    rw [List.zipIdx_map_snd]
    exact List.nodup_range'
  rw [← List.mergeSort_zipIdx, List.pairwise_map]
  refine (hsorted.and hpositions).imp_of_mem ?_
  rintro ⟨a, i⟩ ⟨b, j⟩ ha hb ⟨hle, hne⟩
  have ha := List.mk_mem_zipIdx_iff_getElem?.mp (hperm.mem_iff.mp ha)
  have hb := List.mk_mem_zipIdx_iff_getElem?.mp (hperm.mem_iff.mp hb)
  rw [List.zipIdxLE] at hle
  split at hle
  · rename_i hab
    refine ⟨hab, fun hba => ?_⟩
    rw [if_pos hba, decide_eq_true_eq] at hle
    obtain ⟨hi, rfl⟩ := List.getElem?_eq_some_iff.mp ha
    obtain ⟨hj, rfl⟩ := List.getElem?_eq_some_iff.mp hb
    exact List.pairwise_iff_getElem.mp h i j hi hj (Nat.lt_of_le_of_ne hle hne)
  · cases hle

/-! ## Repeated elements -/

theorem eraseRepsBy_loop {α : Type} (r : α → α → Bool) (a : α) (as acc : List α) :
    List.eraseRepsBy.loop r a as acc = acc.reverse ++ List.eraseRepsBy.loop r a as [] := by
  induction as generalizing a acc with
  | nil => simp [List.eraseRepsBy.loop]
  | cons b as ih =>
    simp only [List.eraseRepsBy.loop]
    split
    · exact ih a acc
    · rw [ih b (a :: acc), ih b [a], List.reverse_cons, List.append_assoc]
      rfl

theorem eraseReps_cons_cons {α : Type} [BEq α] (a b : α) (as : List α) :
    (a :: b :: as).eraseReps = if a == b then (a :: as).eraseReps else a :: (b :: as).eraseReps := by
  simp only [List.eraseReps, List.eraseRepsBy, List.eraseRepsBy.loop]
  split
  · rename_i h
    rw [if_pos h]
  · rename_i h
    rw [eraseRepsBy_loop, if_neg (by simp [h])]
    rfl

section
variable {α : Type} [BEq α] [LawfulBEq α]

theorem mem_eraseReps {a : α} {as : List α} : a ∈ as.eraseReps ↔ a ∈ as := by
  induction as with
  | nil => exact Iff.rfl
  | cons b as ih =>
    cases as with
    | nil => exact Iff.rfl
    | cons c as =>
      rw [eraseReps_cons_cons]
      by_cases h : b = c
      · subst h
        simp [ih]
      · rw [if_neg (by simp [h]), List.mem_cons, ih, List.mem_cons (a := a) (b := b)]

theorem pairwise_eraseReps [LE α] [LT α] [Std.IsPartialOrder α] [Std.LawfulOrderLT α] {as : List α}
    (h : as.Pairwise (· ≤ ·)) : as.eraseReps.Pairwise (· < ·) := by
  induction as with
  | nil => exact List.Pairwise.nil
  | cons a as ih =>
    cases as with
    | nil => exact List.pairwise_singleton _ a
    | cons b as =>
      have hab : a ≤ b := List.rel_of_pairwise_cons h List.mem_cons_self
      have hsorted := List.Pairwise.of_cons h
      rw [eraseReps_cons_cons]
      by_cases heq : a = b
      · subst heq
        rw [if_pos (beq_self_eq_true a)]
        exact ih hsorted
      · rw [if_neg (by simp [heq])]
        refine List.pairwise_cons.mpr ⟨?_, ih hsorted⟩
        intro c hc
        have hlt : a < b := Std.lt_of_le_of_ne hab heq
        rcases List.mem_cons.mp (mem_eraseReps.mp hc) with rfl | hc
        · exact hlt
        · exact Std.lt_of_lt_of_le hlt (List.rel_of_pairwise_cons hsorted hc)

end

end TagAudit
