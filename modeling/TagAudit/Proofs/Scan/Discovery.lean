/-
  TagAudit.Proofs.Scan.Discovery — which files a search for a dialect finds, and in which order.

  Of the files that a walk lists those are found whose names end with a point and an extension of
  the dialect (`Dialect.accepts_iff`). A walk lists names in the order of their characters, which
  is that of their bytes (`bytesOf_lt`).

  Proved: `discovered_exactly`.
-/

import TagAudit.Scan.Sources
import TagAudit.Proofs.FileTree.Walks
import TagAudit.Proofs.Text.Utf8

namespace TagAudit

open FileTree

namespace Dialect

variable {d : Dialect} {name : String} {names : List String} {n : Node}

theorem plain_of_mem_extensions {ext : String} (h : ext ∈ d.extensions) : ext ≠ "" ∧ '.' ∉ ext.toList := by
  have hall : ∀ d ∈ all, ∀ ext ∈ d.extensions, ext ≠ "" ∧ '.' ∉ ext.toList := by decide +kernel
  cases d <;> exact hall _ (by simp [all]) ext h

theorem accepts_iff : d.accepts name = true ↔ ∃ stem ext, stem ≠ "" ∧ ext ∈ d.extensions ∧ name = stem ++ "." ++ ext := by
  unfold accepts
  rw [Option.any_eq_true]
  constructor
  · rintro ⟨ext, hext, hmem⟩
    obtain ⟨-, -, stem, hstem, rfl⟩ := nameExtension?_eq_some.mp hext
    exact ⟨stem, ext, hstem, List.contains_iff_mem.mp hmem, rfl⟩
  · rintro ⟨stem, ext, hstem, hmem, rfl⟩
    obtain ⟨hext, hpoint⟩ := plain_of_mem_extensions hmem
    refine ⟨ext, nameExtension?_eq_some.mpr ⟨?_, hpoint, stem, hstem, rfl⟩, List.contains_iff_mem.mpr hmem⟩
    intro hup
    obtain ⟨c, hc⟩ := List.exists_mem_of_ne_nil ext.toList (mt String.toList_eq_nil_iff.mp hext)
    have hmem : c ∈ "..".toList := by simp [← hup, hc]
    have hc' : c = '.' := by simpa using hmem
    exact hpoint (hc' ▸ hc)

/-- A file that a search for a dialect below a directory is for. -/
structure Seeks (d : Dialect) (n : Node) (names : List String) : Prop where
  file : ∃ contents, n.at? names = some (.file contents)
  extension : ∃ stem ext, stem ≠ "" ∧ ext ∈ d.extensions ∧ names.getLast? = some (stem ++ "." ++ ext)
  entered : ∀ name ∈ names.dropLast, name ∉ skippedDirectories

theorem mem_filesBelow (hn : n.wellFormed = true) : names ∈ d.filesBelow n ↔ d.Seeks n names := by
  unfold filesBelow
  rw [List.mem_filter, Node.mem_files hn]
  have hlast : (names.getLast?.map d.accepts).getD false = true ↔
      ∃ stem ext, stem ≠ "" ∧ ext ∈ d.extensions ∧ names.getLast? = some (stem ++ "." ++ ext) := by
    cases names.getLast? with
    | none => simp
    | some name => simp [accepts_iff]
  have hentered : (∀ name ∈ names.dropLast, skippedDirectories.contains name = false) ↔
      ∀ name ∈ names.dropLast, name ∉ skippedDirectories := by
    simp
  rw [hlast]
  constructor
  · rintro ⟨⟨hfile, hskipped⟩, hext⟩
    exact ⟨hfile, hext, hentered.mp hskipped⟩
  · rintro ⟨hfile, hext, hskipped⟩
    exact ⟨⟨hfile, hentered.mpr hskipped⟩, hext⟩

end Dialect

/-! ## Order -/

def bytesOf (names : List String) : List (List UInt8) := names.map fun name => name.toByteArray.data.toList

theorem bytesOf_lt {names names' : List String} (h : names < names') : bytesOf names < bytesOf names' := by
  refine List.map_lt ?_ h
  intro a b hab
  rw [← Text.utf8_toList, ← Text.utf8_toList]
  exact Text.utf8_lt hab

/-- What is found below a directory are the files of the dialect in it that are in no skipped directory,
    in the order of the bytes of their names, each once; the paths lead to them. -/
theorem discovered_exactly {w : Workspace} {root : String} {entries : List (String × Node)} (d : Dialect)
    (hw : w.root.wellFormed = true) (hroot : w.find? root = some (.directory entries)) :
    ∃ found : List (List String), discover w root d = .ok (found.map (joinAll root)) ∧
      (∀ names, names ∈ found ↔ d.Seeks (.directory entries) names) ∧
      found.Pairwise (fun a b => bytesOf a < bytesOf b) ∧
      (found.map (joinAll root)).Nodup ∧
      ∀ names ∈ found, w.find? (joinAll root names) = (Node.directory entries).at? names := by
  obtain ⟨hne, place, -, hplace, -⟩ := Workspace.find?_eq_some.mp hroot
  have hwell : (Node.directory entries).wellFormed = true := (Node.wellFormed_at? hw hplace).1
  have hsorted : (d.filesBelow (.directory entries)).Pairwise (· < ·) := (Node.pairwise_files hwell).filter _
  have hsteps : ∀ names ∈ d.filesBelow (.directory entries), ∀ name ∈ names, IsStep name := by
    intro names hnames
    obtain ⟨contents, hfile⟩ := ((Dialect.mem_filesBelow hwell).mp hnames).file
    exact (Node.wellFormed_at? hwell hfile).2
  refine ⟨d.filesBelow (.directory entries), ?_, fun names => Dialect.mem_filesBelow hwell, hsorted.imp bytesOf_lt, ?_, ?_⟩
  · rw [discover, hroot]
  · refine List.pairwise_map.mpr (hsorted.imp_of_mem ?_)
    intro a b ha hb hlt heq
    obtain rfl := joinAll_inj hne (hsteps a ha) (hsteps b hb) heq
    exact List.lt_irrefl _ hlt
  · intro names hnames
    obtain ⟨contents, hfile⟩ := ((Dialect.mem_filesBelow hwell).mp hnames).file
    rw [hfile]
    exact Workspace.find?_joinAll hroot (hsteps names hnames) hfile

/-- A directory with a name that is skipped below it, and one with such a name in it. -/
def nestedTree : List (String × Node) :=
  [("b.tf", .file none), ("a", .directory [(".git", .file none), ("main.tf", .file none)]),
    (".terraform", .directory [("c.tf", .file none)])]

theorem discovered_exactly_nestedTree : ∃ found : List (List String),
    discover ⟨.directory [(".git", .directory nestedTree)], []⟩ ".git" .terraform = .ok (found.map (joinAll ".git")) ∧
      ["b.tf"] ∈ found ∧ ["a", "main.tf"] ∈ found ∧ [".terraform", "c.tf"] ∉ found := by
  obtain ⟨found, hfound, hmem, -⟩ := discovered_exactly (w := ⟨.directory [(".git", .directory nestedTree)], []⟩)
    .terraform (by decide +kernel) (show Workspace.find? _ ".git" = some (.directory nestedTree) by rfl)
  refine ⟨found, hfound, ?_, ?_, ?_⟩
  · exact (hmem _).mpr ⟨⟨none, rfl⟩, ⟨"b", "tf", by decide, by decide, rfl⟩, nofun⟩
  · exact (hmem _).mpr ⟨⟨none, rfl⟩, ⟨"main", "tf", by decide, by decide, rfl⟩, by decide⟩
  · intro h
    exact absurd ((hmem _).mp h).entered (by decide)

end TagAudit
