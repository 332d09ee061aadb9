/-
  TagAudit.Proofs.Tabulation — tables of elements by a key.

  A table has an entry for each key that an element has, in ascending order of keys (`Tabulates`). It
  is built by changing one entry for each element (`amend`), in whatever order they come: of the same
  elements there is one table (`Tabulates.unique`, `Tabulates.of_perm`).

  Proved:
  - `Tabulates.amend`: one more element, and `Tabulates.foldl_amend`: a pass over many.
  - `sum_amend`: what one more element adds to a sum over all entries.
  - `Tabulates.ranked`: a table of counts, sorted by them.
-/

import Mathlib.Algebra.Ring.Nat
import TagAudit.Compliance.Report
import TagAudit.Proofs.Sorting

namespace TagAudit

section
variable {α β γ δ : Type} [DecidableEq α] [LT δ]

/-- A table of elements: an entry for each key that one of them has, in ascending order of keys, with
    what `value` makes of the elements that have it. -/
structure Tabulates (rank : α → δ) (key : γ → α) (value : List γ → β) (cs : List γ) (table : List (α × β)) : Prop where
  entries : ∀ a b, (a, b) ∈ table ↔ (∃ c ∈ cs, key c = a) ∧ b = value (cs.filter (key · == a))
  ascending : table.Pairwise fun e e' => rank e.1 < rank e'.1

/-- Elements by how often they occur: most often first, and those that occur equally often in
    ascending order. -/
structure Ranked (rank : α → δ) (as : List α) (counts : List (α × Nat)) : Prop where
  once : (counts.map (·.1)).Nodup
  counted : ∀ a n, (a, n) ∈ counts ↔ a ∈ as ∧ n = as.count a
  descending : counts.Pairwise fun e e' => e'.2 < e.2 ∨ e.2 = e'.2 ∧ rank e.1 < rank e'.1

/-- Changes the value for a key. One without an entry gets it where it stands in ascending order. -/
def amend [DecidableLT δ] (rank : α → δ) (f : β → β) (fresh : β) (a : α) : List (α × β) → List (α × β)
  | [] => [(a, f fresh)]
  | e :: table =>
    if e.1 = a then (a, f e.2) :: table
    else if rank a < rank e.1 then (a, f fresh) :: e :: table
    else e :: amend rank f fresh a table

variable {rank : α → δ} {key : γ → α} {value : List γ → β} {cs cs' : List γ} {table table' : List (α × β)}

/-- A sum over all entries grows by what the change of one adds to its part. -/
theorem sum_amend [DecidableLT δ] (g : β → Nat) {f : β → β} {fresh : β} {n : Nat} (hfresh : g fresh = 0)
    (hf : ∀ b, g (f b) = g b + n) (a : α) (table : List (α × β)) :
    ((amend rank f fresh a table).map fun e => g e.2).sum = (table.map fun e => g e.2).sum + n := by
  induction table with
  | nil => simp [amend, hf, hfresh]
  | cons e table ih =>
    rw [amend]
    split
    · simp only [List.map_cons, List.sum_cons, hf]
      omega
    · split
      · simp only [List.map_cons, List.sum_cons, hf, hfresh]
        omega
      · simp only [List.map_cons, List.sum_cons, ih]
        omega

/-- A table may be made up key by key. -/
theorem Tabulates.of_keys {keys : List α} (hkeys : keys.Pairwise fun a a' => rank a < rank a')
    (hmem : ∀ a, a ∈ keys ↔ ∃ c ∈ cs, key c = a) :
    Tabulates rank key value cs (keys.map fun a => (a, value (cs.filter (key · == a)))) := by
  refine ⟨fun a b => ?_, List.pairwise_map.mpr hkeys⟩
  rw [← hmem, List.mem_map]
  constructor
  · rintro ⟨a', ha', heq⟩
    obtain ⟨rfl, rfl⟩ := Prod.mk.inj heq
    exact ⟨ha', rfl⟩
  · rintro ⟨ha, rfl⟩
    exact ⟨a, ha, rfl⟩

theorem Tabulates.of_perm (hvalue : ∀ {gs gs' : List γ}, gs.Perm gs' → value gs = value gs') (hperm : cs.Perm cs')
    (h : Tabulates rank key value cs table) : Tabulates rank key value cs' table := by
  refine ⟨fun a b => ?_, h.ascending⟩
  rw [h.entries, hvalue (hperm.filter _)]
  simp only [hperm.mem_iff]

end

section
variable {α β δ : Type} [LE δ] [LT δ] [Std.LawfulOrderLT δ] {rank : α → δ} {a a' : α}

theorem ne_of_rank_lt [Std.IsPreorder δ] (h : rank a < rank a') : a ≠ a' := by
  rintro rfl
  exact Std.lt_irrefl h

theorem notMem_of_rank_lt [Std.IsPreorder δ] {table : List (α × β)} (h : ∀ e ∈ table, rank a < rank e.1) (b : β) :
    (a, b) ∉ table :=
  fun hmem => Std.lt_irrefl (h _ hmem)

end

section
variable {α β γ δ : Type} [DecidableEq α] [LE δ] [LT δ] [Std.IsLinearOrder δ] [Std.LawfulOrderLT δ]
variable {rank : α → δ} {key : γ → α} {value : List γ → β} {cs : List γ} {table table' : List (α × β)}

namespace Tabulates

theorem nodup_keys (h : Tabulates rank key value cs table) : (table.map (·.1)).Nodup :=
  List.pairwise_map.mpr (h.ascending.imp ne_of_rank_lt)

theorem unique (h : Tabulates rank key value cs table) (h' : Tabulates rank key value cs table') : table = table' := by
  have hnodup {t : List (α × β)} (ht : t.Pairwise fun e e' => rank e.1 < rank e'.1) : t.Nodup :=
    ht.imp fun hlt heq => ne_of_rank_lt hlt (congrArg Prod.fst heq)
  have hperm : table.Perm table' := by
    rw [List.perm_ext_iff_of_nodup (hnodup h.ascending) (hnodup h'.ascending)]
    rintro ⟨a, b⟩
    rw [h.entries, h'.entries]
  refine hperm.eq_of_pairwise ?_ h.ascending h'.ascending
  intro e e' _ _ hlt hgt
  exact absurd (Std.lt_trans hlt hgt) Std.lt_irrefl

end Tabulates

/-! ## One more element -/

variable [DecidableLT δ] {f : β → β} {fresh : β} {a a' : α} {b b' : β}

theorem mem_amend (h : table.Pairwise fun e e' => rank e.1 < rank e'.1) :
    (a', b') ∈ amend rank f fresh a table ↔ a' ≠ a ∧ (a', b') ∈ table ∨
      a' = a ∧ ((∃ b, (a, b) ∈ table ∧ b' = f b) ∨ (∀ b, (a, b) ∉ table) ∧ b' = f fresh) := by
  induction table with
  | nil => simp [amend]
  | cons e table ih =>
    obtain ⟨k, v⟩ := e
    obtain ⟨hfirst, hrest⟩ := List.pairwise_cons.mp h
    rw [amend]
    split
    · rename_i hk
      obtain rfl : k = a := hk
      have hnone := notMem_of_rank_lt hfirst
      by_cases ha : a' = k
      · subst ha
        simp [hnone]
      · simp [ha]
    · rename_i hk
      split
      · rename_i hlt
        have hnone : ∀ b, (a, b) ∉ (k, v) :: table := notMem_of_rank_lt (List.forall_mem_cons.mpr
          ⟨hlt, fun e he => Std.lt_trans hlt (hfirst e he)⟩)
        by_cases ha : a' = a
        · subst ha
          simp [hnone]
        · simp [ha]
      · have hk : a ≠ k := Ne.symm hk
        by_cases ha : a' = a
        · subst ha
          simp [ih hrest, hk]
        · simp [ih hrest, ha]

theorem ascending_amend (hrank : ∀ {a a' : α}, rank a = rank a' → a = a') (f : β → β) (fresh : β) (a : α)
    (h : table.Pairwise fun e e' => rank e.1 < rank e'.1) :
    (amend rank f fresh a table).Pairwise fun e e' => rank e.1 < rank e'.1 := by
  induction table with
  | nil => exact List.pairwise_singleton _ _
  | cons e table ih =>
    obtain ⟨hfirst, hrest⟩ := List.pairwise_cons.mp h
    rw [amend]
    split
    · rename_i hk
      subst hk
      exact List.pairwise_cons.mpr ⟨hfirst, hrest⟩
    · rename_i hk
      split
      · rename_i hlt
        exact List.pairwise_cons.mpr ⟨List.forall_mem_cons.mpr ⟨hlt, fun e' he' => Std.lt_trans hlt (hfirst e' he')⟩, h⟩
      · rename_i hle
        refine List.pairwise_cons.mpr ⟨?_, ih hrest⟩
        rintro ⟨a', b'⟩ hmem
        rcases (mem_amend hrest).mp hmem with ⟨-, hmem⟩ | ⟨rfl, -⟩
        · exact hfirst _ hmem
        · exact Std.lt_of_le_of_ne (Std.not_lt.mp hle) fun heq => hk (hrank heq)

namespace Tabulates

/-- The key of one more element has an entry or gets it. -/
theorem amend (hrank : ∀ {a a' : α}, rank a = rank a' → a = a') {c : γ}
    (hvalue : ∀ gs, value (gs ++ [c]) = f (value gs)) (h : Tabulates rank key value cs table) :
    Tabulates rank key value (cs ++ [c]) (amend rank f (value []) (key c) table) := by
  refine ⟨fun a b => ?_, ascending_amend hrank _ _ _ h.ascending⟩
  rw [mem_amend h.ascending, List.filter_append]
  by_cases ha : a = key c
  · subst ha
    have hlast : [c].filter (key · == key c) = [c] := by simp
    rw [hlast, hvalue]
    by_cases hmet : ∃ c' ∈ cs, key c' = key c
    · simp [h.entries, hmet]
    · have hnone : cs.filter (key · == key c) = [] := by
        simpa [List.filter_eq_nil_iff] using hmet
      simp [h.entries, hmet, hnone]
  · have hlast : [c].filter (key · == a) = [] := by simp [Ne.symm ha]
    simp [h.entries, hlast, ha, Ne.symm ha, or_and_right, exists_or]

/-- A pass over many elements. -/
theorem foldl_amend (hrank : ∀ {a a' : α}, rank a = rank a' → a = a') {f : γ → β → β}
    (hvalue : ∀ gs c, value (gs ++ [c]) = f c (value gs)) (h : Tabulates rank key value cs table) (cs' : List γ) :
    Tabulates rank key value (cs ++ cs')
      (cs'.foldl (fun table c => TagAudit.amend rank (f c) (value []) (key c) table) table) := by
  induction cs' generalizing cs table with
  | nil => rwa [List.append_nil]
  | cons c cs' ih =>
    rw [List.append_cons]
    exact ih (h.amend hrank fun gs => hvalue gs c)

end Tabulates
end

/-! ## Counts -/

section
variable {α δ : Type} [DecidableEq α] [LE δ] [LT δ] [Std.IsLinearOrder δ] [Std.LawfulOrderLT δ]
variable {rank : α → δ} {as : List α} {table : List (α × Nat)}

theorem Tabulates.ranked (h : Tabulates rank (fun a => a) List.length as table) :
    Ranked rank as (Report.byCount table) := by
  have hperm : (Report.byCount table).Perm table := List.mergeSort_perm _ _
  refine ⟨?_, fun a n => ?_, ?_⟩
  · exact (hperm.map _).nodup_iff.mpr h.nodup_keys
  · rw [hperm.mem_iff, h.entries, List.count_eq_length_filter]
    simp
  · refine (pairwise_mergeSort_stable ?_ ?_ h.ascending).imp ?_
    · simp only [decide_eq_true_eq]
      omega
    · intro e e'
      simp only [Bool.or_eq_true, decide_eq_true_eq]
      omega
    · simp only [decide_eq_true_eq]
      intro e e' ⟨hle, halike⟩
      by_cases hlt : e'.2 < e.2
      · exact .inl hlt
      · exact .inr ⟨by omega, halike (by omega)⟩

end
end TagAudit
