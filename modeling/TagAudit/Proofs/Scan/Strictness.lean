/-
  TagAudit.Proofs.Scan.Strictness — strict and lenient scans of one configuration.

  A lenient scan warns of each trouble on its way and goes on; a strict one stops at the first.
  Both are set up alike and pass over the same types of resources, and whether tags are malformed
  does not depend on what symbols stand for. So both meet the same troubles in the same order,
  although their tables of symbols differ.

  Proved: `strict_stops_at_first_warning`: a strict scan fails in its course exactly if the
  lenient one has a warning, with an error about what the first warning is about; else it finds
  the same resources.
-/

import TagAudit.Proofs.Scan.Stages

namespace TagAudit

open FileTree (Workspace ReadFault)
open Hcl Symbols

def ScanError.isTrouble : ScanError → Bool
  | .load _ => true
  | .parse .. => true
  | .extract .. => true
  | _ => false

/-- An error and a warning that are about the same thing: a file that cannot be read, a file that
    cannot be parsed, or the malformed tags of one of some resources. -/
inductive ScanError.About (rs : List Resource) : ScanError → Warning → Prop
  | load (path : String) (fault : ReadFault) :
      About rs (.load (.unreadable path fault))
        ⟨path, .read, String.intercalate ": " (LoadError.messages (.unreadable path fault))⟩
  | parse (path complaint : String) : About rs (.parse path complaint) ⟨path, .parse, complaint⟩
  | extract {r : Resource} (attr : String) (failure : TagFailure) : r ∈ rs →
      About rs (.extract r.address attr failure) ⟨r.file, .extract, r.address ++ ": " ++ failure.message attr⟩

theorem Trouble.isTrouble_error (t : Trouble) : t.error.isTrouble := by
  cases t <;> rfl

namespace Scanner

variable {s : Scanner} {t : Trouble}

/-- What is met on the way of a scan is told alike by an error and a warning. -/
theorem about_of_mem_troublesAt {w : Workspace} {paths : List String} (ht : t ∈ s.troublesAt w paths) :
    t.error.About (w.locatedAt paths) t.warning := by
  rcases List.mem_append.mp ht with ht | ht
  · obtain ⟨path, -, hpath⟩ := List.mem_filterMap.mp ht
    cases hr : w.read path with
    | ok contents => simp [hr] at hpath
    | error fault =>
      simp only [hr, Option.some.injEq] at hpath
      subst hpath
      exact .load path fault
  · -- the file is told to be unparseable, or holds the resource
    obtain ⟨file, hfile, ht⟩ := List.mem_flatMap.mp ht
    unfold troublesIn at ht
    cases hb : Body.read file.contents.toList with
    | error rest =>
      simp only [hb, List.mem_singleton] at ht
      subst ht
      exact .parse file.path _
    | ok body =>
      simp only [hb] at ht
      obtain ⟨r, hr, htr⟩ := List.mem_filterMap.mp ht
      have hlocated : r ∈ w.locatedAt paths := by
        refine List.mem_flatMap.mpr ⟨file, hfile, ?_⟩
        unfold SourceFile.located Resource.locate? Body.read?
        rwa [hb]
      unfold trouble? at htr
      split at htr
      · obtain ⟨defect, -, rfl⟩ := Option.map_eq_some_iff.mp htr
        exact .extract _ _ hlocated
      · contradiction

end Scanner

/-- A strict scan fails in its course exactly if the lenient one has a warning, and then with an
    error about what the first warning is about; if there is none, it finds the same resources. -/
theorem strict_stops_at_first_warning {w : Workspace} {o : ScanOptions} {standard : Option Standard}
    {catalog : TagLookup} {out : ScanOutcome} (h : scan w { o with strict := false } standard catalog none = .ok out) :
    ((∃ e, scan w { o with strict := true } standard catalog none = .error e ∧ e.isTrouble) ↔ out.warnings ≠ []) ∧
      (∀ warning rest, out.warnings = warning :: rest → ∃ e paths, o.paths w = .ok paths ∧
        scan w { o with strict := true } standard catalog none = .error e ∧ e.About (w.locatedAt paths) warning) ∧
      (out.warnings = [] → ∃ out', scan w { o with strict := true } standard catalog none = .ok out' ∧
        out'.resources.map (·.resource) = out.resources.map (·.resource)) := by
  obtain ⟨s, paths, hs, -, rfl⟩ := scan_eq_ok_iff.mp h
  obtain ⟨s', hs'⟩ := hs.exists_strict true
  have htroubles : s'.troublesAt w paths = s.troublesAt w paths := hs.troublesAt_eq hs'
  have hwarnings : (s.outcomeAt w paths).warnings = (s.troublesAt w paths).map Trouble.warning := rfl
  rw [hwarnings]
  cases ht : s.troublesAt w paths with
  | nil =>
    have hgoes := hs'.scan_goes (.inr (htroubles.trans ht))
    refine ⟨⟨?_, fun hne => absurd rfl hne⟩, fun _ _ hcons => by contradiction, fun _ => ⟨_, hgoes, ?_⟩⟩
    · rintro ⟨e, he, -⟩
      rw [hgoes] at he
      contradiction
    · unfold Scanner.outcomeAt
      rw [s.map_resource_scanned, s'.map_resource_scanned, hs.catalog_eq hs', hs.isRelevant_eq hs']
  | cons t ts =>
    have hstops := hs'.scan_stops rfl (htroubles.trans ht)
    refine ⟨⟨fun _ => List.cons_ne_nil _ _, fun _ => ⟨_, hstops, t.isTrouble_error⟩⟩, ?_, fun hnil => by contradiction⟩
    intro warning rest hcons
    obtain ⟨rfl, -⟩ := List.cons.inj hcons
    exact ⟨_, paths, hs.found, hstops, Scanner.about_of_mem_troublesAt (ht ▸ List.mem_cons_self)⟩

/-! ## A tree with troubles of each kind -/

/-- One file that cannot be parsed, one with malformed tags, and one that is no text. -/
def troubledTree : Workspace :=
  ⟨.directory
    [("broken.tf", .file (some "resource")),
     ("buckets.tf", .file (some "resource \"aws_s3_bucket\" \"logs\" \x7b\n  tags = 1\n\x7d\n")),
     ("image.tf", .file none)], []⟩

def troubledPaths : List String := ["./broken.tf", "./buckets.tf", "./image.tf"]

def troubledScanner : Scanner :=
  ⟨wholeTree, Catalog.byName, ⟨none, none⟩, none, Table.ofFiles (troubledTree.sourcesAt troubledPaths) [] false⟩

theorem paths_troubledTree : wholeTree.paths troubledTree = .ok troubledPaths :=
  paths_wholeTree (by decide +kernel)

theorem strict_stops_at_first_warning_troubledTree :
    ∃ out e, scan troubledTree wholeTree none Catalog.byName none = .ok out ∧
      out.warnings.map (·.kind) = [.read, .parse, .extract] ∧
      scan troubledTree { wholeTree with strict := true } none Catalog.byName none = .error e ∧ e.isTrouble := by
  have hs : SetUp troubledTree wholeTree none Catalog.byName troubledScanner troubledPaths :=
    ⟨⟨rfl, rfl, rfl, rfl⟩, paths_troubledTree, rfl⟩
  have hgoes := hs.scan_goes (.inl rfl)
  have hkinds : (troubledScanner.outcomeAt troubledTree troubledPaths).warnings.map (·.kind) =
      [.read, .parse, .extract] := by
    decide +kernel
  have hne : (troubledScanner.outcomeAt troubledTree troubledPaths).warnings ≠ [] := by
    intro hnil
    rw [hnil] at hkinds
    contradiction
  obtain ⟨e, he, htrouble⟩ := (strict_stops_at_first_warning (o := wholeTree) hgoes).1.mpr hne
  exact ⟨_, e, hgoes, hkinds, he, htrouble⟩

end TagAudit
