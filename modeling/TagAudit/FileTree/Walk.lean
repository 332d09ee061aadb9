/-
  TagAudit.FileTree.Walk — the files below a directory.

  `Node.files` lists them, each by the names that lead to it. The entries of a directory come
  in order of their names, and a directory that is entered comes at its place among them.
-/

import TagAudit.FileTree.Workspace

namespace TagAudit.FileTree

def inOrder {α : Type} (entries : List (String × α)) : List (String × α) :=
  entries.mergeSort fun a b => decide (a.1 ≤ b.1)

theorem inOrder_of_pairwise {α : Type} {entries : List (String × α)} (h : entries.Pairwise fun a b => a.1 ≤ b.1) :
    inOrder entries = entries :=
  List.mergeSort_of_pairwise (h.imp fun hab => decide_eq_true hab)

namespace Node

mutual

/-- The files at or below a node, without those in directories with a skipped name. -/
def files (skipped : String → Bool) : Node → List (List String)
  | .file _ => [[]]
  | .directory entries => (inOrder (filesOfEntries skipped entries)).flatMap (·.2)

def filesOfEntries (skipped : String → Bool) : List (String × Node) → List (String × List (List String))
  | [] => []
  | (name, n) :: entries =>
    let below := if n.isDirectory && skipped name then [] else (files skipped n).map (name :: ·)
    (name, below) :: filesOfEntries skipped entries

end

theorem map_fst_filesOfEntries (skipped : String → Bool) (entries : List (String × Node)) :
    (filesOfEntries skipped entries).map Prod.fst = entries.map Prod.fst := by
  induction entries with
  | nil => rfl
  | cons e entries ih => rw [filesOfEntries, List.map_cons, List.map_cons, ih]

/-- Entries in order of their names stay so. -/
theorem pairwise_filesOfEntries (skipped : String → Bool) {entries : List (String × Node)}
    (h : entries.Pairwise fun a b => a.1 ≤ b.1) :
    (filesOfEntries skipped entries).Pairwise fun a b => a.1 ≤ b.1 := by
  have hnames := List.pairwise_map.mpr h
  rw [← map_fst_filesOfEntries skipped entries] at hnames
  exact List.pairwise_map.mp hnames

end Node

/-- The path of a file that names lead to from a directory. -/
def joinAll (path : String) (names : List String) : String := names.foldl join path

end TagAudit.FileTree
