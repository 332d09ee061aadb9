/-
  TagAudit.Proofs.FileTree.Walks — which files a walk lists, and in which order.

  A walk does not enter directories with a skipped name, whatever is in them; the name of the
  directory that it starts from does not count, nor do the names of files.
  - `Node.mem_files`: all other files are listed.
  - `Node.pairwise_files`: their lists of names ascend, one name after the other.
-/

import TagAudit.Proofs.FileTree.Trees
import TagAudit.Proofs.Sorting

namespace TagAudit.FileTree

/-! ## Entries in order -/

theorem inOrder_perm {α : Type} (entries : List (String × α)) : (inOrder entries).Perm entries :=
  List.mergeSort_perm _ _

/-- Entries with different names ascend strictly when they are in order. -/
theorem pairwise_inOrder {α : Type} {entries : List (String × α)} (h : (entries.map Prod.fst).Nodup) :
    (inOrder entries).Pairwise fun a b => a.1 < b.1 := by
  have hsorted : (inOrder entries).Pairwise fun a b => a.1 ≤ b.1 := pairwise_mergeSort_key Prod.fst entries
  have hnodup : ((inOrder entries).map Prod.fst).Nodup := (((inOrder_perm entries).map _).nodup_iff).mpr h
  refine (hsorted.and (List.pairwise_map.mp hnodup)).imp ?_
  intro a b hab
  exact Std.lt_of_le_of_ne hab.1 hab.2

namespace Node

variable {skipped : String → Bool} {n m : Node} {entries : List (String × Node)} {steps : List String}

/-! ## Files of entries -/

/-- The files at or below an entry, by the names that lead to them from its directory. -/
def filesOfEntry (skipped : String → Bool) (e : String × Node) : List (List String) :=
  if e.2.isDirectory && skipped e.1 then [] else (files skipped e.2).map (e.1 :: ·)

theorem filesOfEntries_eq_map (skipped : String → Bool) (entries : List (String × Node)) :
    filesOfEntries skipped entries = entries.map fun e => (e.1, filesOfEntry skipped e) := by
  induction entries with
  | nil => rfl
  | cons e entries ih =>
    rw [filesOfEntries, ih]
    rfl

theorem mem_filesOfEntry {e : String × Node} : steps ∈ filesOfEntry skipped e ↔
    (e.2.isDirectory = true → skipped e.1 = false) ∧ ∃ below ∈ files skipped e.2, steps = e.1 :: below := by
  unfold filesOfEntry
  cases e.2.isDirectory <;> cases skipped e.1 <;> simp [eq_comm]

theorem mem_inOrder_filesOfEntries {listed : String × List (List String)} :
    listed ∈ inOrder (filesOfEntries skipped entries) ↔ ∃ e ∈ entries, (e.1, filesOfEntry skipped e) = listed := by
  rw [(inOrder_perm _).mem_iff, filesOfEntries_eq_map, List.mem_map]

theorem mem_files_directory : steps ∈ (directory entries).files skipped ↔ ∃ e ∈ entries, steps ∈ filesOfEntry skipped e := by
  rw [files, List.mem_flatMap]
  constructor
  · rintro ⟨listed, hlisted, hsteps⟩
    obtain ⟨e, he, rfl⟩ := mem_inOrder_filesOfEntries.mp hlisted
    exact ⟨e, he, hsteps⟩
  · rintro ⟨e, he, hsteps⟩
    exact ⟨_, mem_inOrder_filesOfEntries.mpr ⟨e, he, rfl⟩, hsteps⟩

/-! ## What is listed -/

/-- A file that steps lead to, none of them but the last with a skipped name. -/
def Reaches (skipped : String → Bool) (n : Node) (steps : List String) : Prop :=
  (∃ contents, n.at? steps = some (.file contents)) ∧ ∀ name ∈ steps.dropLast, skipped name = false

theorem isDirectory_iff_of_at? {contents : Option String} (h : m.at? steps = some (.file contents)) :
    m.isDirectory = true ↔ steps ≠ [] := by
  cases m with
  | file _ => simp [isDirectory, at?_file h]
  | directory entries =>
    refine iff_of_true rfl ?_
    rintro rfl
    cases h

theorem forall_mem_dropLast_cons {p : String → Prop} {name : String} :
    (∀ name' ∈ (name :: steps).dropLast, p name') ↔ (steps ≠ [] → p name) ∧ ∀ name' ∈ steps.dropLast, p name' := by
  cases steps with
  | nil => simp
  | cons next steps => simp [List.dropLast_cons_cons]

theorem reaches_cons (hn : (directory entries).wellFormed = true) (name : String) :
    Reaches skipped (directory entries) (name :: steps) ↔
      ∃ m, (name, m) ∈ entries ∧ (m.isDirectory = true → skipped name = false) ∧ Reaches skipped m steps := by
  simp only [Reaches, at?_cons_eq_some hn, forall_mem_dropLast_cons]
  constructor
  · rintro ⟨⟨contents, m, hmem, hfile⟩, hname, hskipped⟩
    exact ⟨m, hmem, fun h => hname ((isDirectory_iff_of_at? hfile).mp h), ⟨contents, hfile⟩, hskipped⟩
  · rintro ⟨m, hmem, hname, ⟨contents, hfile⟩, hskipped⟩
    exact ⟨⟨contents, m, hmem, hfile⟩, fun h => hname ((isDirectory_iff_of_at? hfile).mpr h), hskipped⟩

/-- All files are listed that can be reached. -/
theorem mem_files (hn : n.wellFormed = true) : steps ∈ n.files skipped ↔ Reaches skipped n steps := by
  induction steps generalizing n with
  | nil =>
    cases n with
    | file contents => simp [files, Reaches, at?]
    | directory entries => simp [mem_files_directory, mem_filesOfEntry, Reaches, at?]
  | cons name steps ih =>
    cases n with
    | file contents =>
      have hnone (m : Node) : (file contents).at? (name :: steps) ≠ some m := fun h => List.cons_ne_nil _ _ (at?_file h)
      simp [files, Reaches, hnone]
    | directory entries =>
      have hentries := (wellFormed_directory.mp hn).2
      rw [mem_files_directory, reaches_cons hn]
      constructor
      · rintro ⟨⟨_, m⟩, he, hsteps⟩
        obtain ⟨hname, below, hbelow, heq⟩ := mem_filesOfEntry.mp hsteps
        obtain ⟨rfl, rfl⟩ := List.cons.inj heq
        exact ⟨m, he, hname, (ih (hentries _ he).2).mp hbelow⟩
      · rintro ⟨m, he, hname, hreaches⟩
        exact ⟨_, he, mem_filesOfEntry.mpr ⟨hname, steps, (ih (hentries _ he).2).mpr hreaches, rfl⟩⟩

/-! ## Order -/

theorem pairwise_filesOfEntry {e : String × Node} (h : (files skipped e.2).Pairwise (· < ·)) :
    (filesOfEntry skipped e).Pairwise (· < ·) := by
  unfold filesOfEntry
  split
  · exact List.Pairwise.nil
  · refine List.pairwise_map.mpr (h.imp ?_)
    intro a b hab
    exact List.cons_lt_cons_self.mpr hab

theorem filesOfEntry_lt {e e' : String × Node} {steps' : List String} (h : e.1 < e'.1)
    (hsteps : steps ∈ filesOfEntry skipped e) (hsteps' : steps' ∈ filesOfEntry skipped e') : steps < steps' := by
  obtain ⟨-, below, -, rfl⟩ := mem_filesOfEntry.mp hsteps
  obtain ⟨-, below', -, rfl⟩ := mem_filesOfEntry.mp hsteps'
  exact List.Lex.rel h

/-- Lists of names ascend: those of one entry go on below it, and the names of entries ascend. -/
theorem pairwise_files (hn : n.wellFormed = true) : (n.files skipped).Pairwise (· < ·) := by
  induction n using Node.induction with
  | file contents => exact List.pairwise_singleton _ _
  | directory entries ih =>
    obtain ⟨hnodup, hentries⟩ := wellFormed_directory.mp hn
    have hnames : ((filesOfEntries skipped entries).map Prod.fst).Nodup := by
      rw [map_fst_filesOfEntries]
      exact hnodup
    rw [files, List.pairwise_flatMap]
    refine ⟨?_, (pairwise_inOrder hnames).imp_of_mem ?_⟩
    · intro listed hlisted
      obtain ⟨e, he, rfl⟩ := mem_inOrder_filesOfEntries.mp hlisted
      exact pairwise_filesOfEntry (ih e he (hentries e he).2)
    · intro listed listed' hlisted hlisted' hlt steps hsteps steps' hsteps'
      obtain ⟨e, -, rfl⟩ := mem_inOrder_filesOfEntries.mp hlisted
      obtain ⟨e', -, rfl⟩ := mem_inOrder_filesOfEntries.mp hlisted'
      exact filesOfEntry_lt hlt hsteps hsteps'

end Node

end TagAudit.FileTree
