/-
  TagAudit.Proofs.Regex.Positions — the positions at which matches end.

  Positions are kept in lists, each once, and a repetition stops as soon as no new one is found. What
  counts is which positions are in a list: those of a repetition are the ones that some number of
  steps leads to, one after the other (`mem_closure`).

  Proved: `mem_closure`, and for classes of characters `mem_ends_set` and `mem_ends_repeated`.
-/

import TagAudit.Regex.Basic

namespace TagAudit.Regex

variable {step : List Nat → List Nat} {starts as bs : List Nat} {i j n k : Nat}

theorem mem_merge_insert {a : Nat} : j ∈ merge.insert a as ↔ j = a ∨ j ∈ as := by
  induction as with
  | nil => simp [merge.insert]
  | cons b bs ih =>
    rw [merge.insert]
    split
    · simp
    · split
      · simp [‹a = b›]
      · simp [ih, or_left_comm]

theorem mem_merge : j ∈ merge as bs ↔ j ∈ as ∨ j ∈ bs := by
  induction as with
  | nil => simp [merge]
  | cons a as ih => rw [merge, mem_merge_insert, ih, List.mem_cons, or_assoc]

/-- Where a number of steps lead that each start from a single position. -/
inductive Leads (step : List Nat → List Nat) : Nat → Nat → Nat → Prop
  | refl {i : Nat} : Leads step 0 i i
  | step {k i j l : Nat} : j ∈ step [i] → Leads step k j l → Leads step (k + 1) i l

/-- Steps from many positions lead where those from each of them do. -/
def Pointwise (step : List Nat → List Nat) : Prop := ∀ starts j, j ∈ step starts ↔ ∃ i ∈ starts, j ∈ step [i]

theorem Leads.mem (hstep : Pointwise step) (hclosed : ∀ j ∈ step starts, j ∈ starts) (h : Leads step k i j)
    (hi : i ∈ starts) : j ∈ starts := by
  induction h with
  | refl => exact hi
  | step hnext _ ih => exact ih (hclosed _ ((hstep _ _).mpr ⟨_, hi, hnext⟩))

/-- A repetition that stops when nothing changes any more misses no position. -/
theorem mem_closure (hstep : Pointwise step) :
    j ∈ closure step n starts ↔ ∃ i ∈ starts, ∃ k ≤ n, Leads step k i j := by
  induction n generalizing starts with
  | zero =>
    constructor
    · intro hj
      exact ⟨j, hj, 0, Nat.le_refl 0, .refl⟩
    · rintro ⟨i, hi, k, hk, hleads⟩
      obtain rfl := Nat.le_zero.mp hk
      cases hleads
      exact hi
  | succ n ih =>
    rw [closure]
    split
    · rename_i hsame
      have hclosed : ∀ j ∈ step starts, j ∈ starts := fun j hj => by
        rw [← hsame]
        exact mem_merge.mpr (.inr hj)
      constructor
      · intro hj
        exact ⟨j, hj, 0, Nat.zero_le _, .refl⟩
      · rintro ⟨i, hi, k, -, hleads⟩
        exact hleads.mem hstep hclosed hi
    · rw [ih]
      constructor
      · rintro ⟨i, hi, k, hk, hleads⟩
        rcases mem_merge.mp hi with hi | hi
        · exact ⟨i, hi, k, Nat.le_succ_of_le hk, hleads⟩
        · obtain ⟨i', hi', hnext⟩ := (hstep _ _).mp hi
          exact ⟨i', hi', k + 1, Nat.succ_le_succ hk, .step hnext hleads⟩
      · rintro ⟨i, hi, k, hk, hleads⟩
        cases hleads with
        | refl => exact ⟨_, mem_merge.mpr (.inl hi), 0, Nat.zero_le _, .refl⟩
        | step hnext hleads =>
          exact ⟨_, mem_merge.mpr (.inr ((hstep _ _).mpr ⟨i, hi, hnext⟩)), _, Nat.le_of_succ_le_succ hk, hleads⟩

/-! ## Classes of characters -/

variable {text : List Char} {c : CharClass} {s : List Char}

def AllIn (c : CharClass) (s : List Char) : Prop := ∀ x ∈ s, c.contains x.toNat = true

@[simp] theorem mem_ends_set : j ∈ ends text.toArray (.set c) starts ↔
    ∃ i ∈ starts, ∃ x, text[i]? = some x ∧ c.contains x.toNat = true ∧ j = i + 1 := by
  rw [ends, List.mem_filterMap]
  refine exists_congr fun i => and_congr_right fun _ => ?_
  rw [List.getElem?_toArray]
  cases text[i]? with
  | none => simp
  | some x =>
    rw [Option.map_some, Option.getD_some, Option.ite_none_right_eq_some]
    constructor
    · rintro ⟨hx, ⟨⟩⟩
      exact ⟨x, rfl, hx, rfl⟩
    · rintro ⟨_, ⟨⟩, hx, rfl⟩
      exact ⟨hx, rfl⟩

theorem pointwise_ends_set (text : List Char) (c : CharClass) : Pointwise (ends text.toArray (.set c)) := by
  intro starts j
  rw [mem_ends_set]
  refine exists_congr fun i => and_congr_right fun _ => ?_
  rw [mem_ends_set]
  simp only [List.mem_singleton, exists_eq_left]

theorem cons_prefix_drop {x : Char} : x :: s <+: text.drop i ↔ text[i]? = some x ∧ s <+: text.drop (i + 1) := by
  rw [← List.head?_drop, ← List.tail_drop]
  cases text.drop i with
  | nil => simp
  | cons y rest => simp [List.cons_prefix_cons, eq_comm]

/-- Each step reads one character of the class. -/
theorem leads_set : Leads (ends text.toArray (.set c)) k i j ↔
    ∃ s, s <+: text.drop i ∧ AllIn c s ∧ s.length = k ∧ j = i + k := by
  induction k generalizing i with
  | zero =>
    constructor
    · rintro ⟨⟩
      exact ⟨[], List.nil_prefix, nofun, rfl, rfl⟩
    · rintro ⟨s, -, -, -, rfl⟩
      exact .refl
  | succ k ih =>
    constructor
    · rintro (_ | ⟨hnext, hleads⟩)
      obtain ⟨_, hi, x, hx, hclass, rfl⟩ := mem_ends_set.mp hnext
      obtain rfl := List.mem_singleton.mp hi
      obtain ⟨s, hs, hall, hk, rfl⟩ := ih.mp hleads
      refine ⟨x :: s, cons_prefix_drop.mpr ⟨hx, hs⟩, List.forall_mem_cons.mpr ⟨hclass, hall⟩, congrArg (· + 1) hk, ?_⟩
      omega
    · rintro ⟨s, hs, hall, hk, rfl⟩
      cases s with
      | nil => cases hk
      | cons x s =>
        obtain ⟨hx, hs⟩ := cons_prefix_drop.mp hs
        obtain ⟨hclass, hall⟩ := List.forall_mem_cons.mp hall
        have hleads := ih.mpr ⟨s, hs, hall, Nat.succ.inj hk, show i + (k + 1) = i + 1 + k by omega⟩
        exact .step (mem_ends_set.mpr ⟨i, List.mem_singleton.mpr rfl, x, hx, hclass, rfl⟩) hleads

/-- A text of any length is read. -/
@[simp] theorem mem_ends_repeated : j ∈ ends text.toArray (.repetition (.set c) 0 none) starts ↔
    ∃ i ∈ starts, ∃ s, s <+: text.drop i ∧ AllIn c s ∧ j = i + s.length := by
  have hends : ends text.toArray (.repetition (.set c) 0 none) starts =
      closure (ends text.toArray (.set c)) (text.length + 1) starts := by
    rw [ends]
    rfl
  rw [hends, mem_closure (pointwise_ends_set text c)]
  refine exists_congr fun i => and_congr_right fun _ => ?_
  constructor
  · rintro ⟨k, -, hleads⟩
    obtain ⟨s, hs, hall, rfl, rfl⟩ := leads_set.mp hleads
    exact ⟨s, hs, hall, rfl⟩
  · rintro ⟨s, hs, hall, rfl⟩
    have hlength := hs.length_le
    rw [List.length_drop] at hlength
    exact ⟨s.length, by omega, leads_set.mpr ⟨s, hs, hall, rfl, rfl⟩⟩

end TagAudit.Regex
