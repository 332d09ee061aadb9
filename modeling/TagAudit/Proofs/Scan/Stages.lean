/-
  TagAudit.Proofs.Scan.Stages — a scan that is not stopped from outside.

  A scan is set up from its options, its standard and its catalog (`SetUp`), reads the files at
  the paths that it finds, and goes through them. The troubles on its way are those of the one
  stage and then those of the other (`Scanner.troublesAt`), and what it comes to is told by
  `Scanner.outcomeAt`.

  Proved:
  - `SetUp.scan_goes`, `SetUp.scan_stops`: a scan that has been set up has this outcome if it is
    lenient or meets no trouble; a strict one stops at the first trouble.
  - `scan_eq_ok_iff`: there is no other way to an outcome.
  - `SetUp.exists_strict`, `SetUp.troublesAt_eq`: strictness matters neither for the set-up nor
    for the troubles.
-/

import TagAudit.Proofs.Scan.Selection

namespace TagAudit

open FileTree (Workspace)
open Hcl Symbols

/-- The resources of the files at paths, as far as the files can be read and parsed. -/
def FileTree.Workspace.locatedAt (w : Workspace) (paths : List String) : List Resource :=
  (w.sourcesAt paths).flatMap SourceFile.located

namespace Scanner

/-- The troubles on the way of a scan of the files at paths. -/
def troublesAt (s : Scanner) (w : Workspace) (paths : List String) : List Trouble :=
  w.faultsAt paths ++ (w.sourcesAt paths).flatMap s.troublesIn

/-- What a scan of the files at paths comes to that no trouble stops. -/
def outcomeAt (s : Scanner) (w : Workspace) (paths : List String) : ScanOutcome :=
  { resources := (w.locatedAt paths).filterMap s.scanned?
    symbols := s.symbols
    warnings := (s.troublesAt w paths).map Trouble.warning
    filesScanned := (w.sourcesAt paths).length
    cancelled := false }

end Scanner

/-- A lenient scan from the directory that paths start from, without filters. -/
def wholeTree : ScanOptions := ⟨".", .terraform, none, none, false, false, [], none, false⟩

/-- Entries that are in order are gone through as they stand. -/
theorem paths_wholeTree {entries : List (String × FileTree.Node)} (h : entries.Pairwise fun a b => a.1 ≤ b.1) :
    wholeTree.paths ⟨.directory entries, []⟩ =
      .ok ((((FileTree.Node.filesOfEntries skippedDirectories.contains entries).flatMap (·.2)).filter fun names =>
        (names.getLast?.map Dialect.terraform.accepts).getD false).map (FileTree.joinAll ".")) := by
  have hfind : FileTree.Workspace.find? ⟨.directory entries, []⟩ wholeTree.root = some (.directory entries) := by rfl
  unfold ScanOptions.paths discover Dialect.filesBelow FileTree.Node.files
  rw [hfind]
  dsimp only
  rw [FileTree.inOrder_of_pairwise (FileTree.Node.pairwise_filesOfEntries _ h)]
  rfl

/-- A scanner that a scan sets up, and the paths of the files that it goes through. -/
structure SetUp (w : Workspace) (o : ScanOptions) (standard : Option Standard) (catalog : TagLookup) (s : Scanner)
    (paths : List String) : Prop extends s.For o standard catalog where
  found : o.paths w = .ok paths
  symbols : s.symbols = Table.ofFiles (w.sourcesAt paths) o.overrides o.strict

namespace SetUp

variable {w : Workspace} {o : ScanOptions} {standard : Option Standard} {catalog : TagLookup} {s : Scanner}
  {paths : List String}

theorem scan_goes (h : SetUp w o standard catalog s paths) (ht : o.strict = false ∨ s.troublesAt w paths = []) :
    scan w o standard catalog none = .ok (s.outcomeAt w paths) := by
  obtain ⟨⟨rfl, rfl, hfilter, hvalidator⟩, hfound, hsymbols⟩ := h
  have hread : s.options.strict = false ∨ w.faultsAt paths = [] :=
    ht.imp id fun h => (List.append_eq_nil_iff.mp h).1
  have hfind : s.options.strict = false ∨ (w.sourcesAt paths).flatMap s.troublesIn = [] :=
    ht.imp id fun h => (List.append_eq_nil_iff.mp h).2
  unfold ScanOptions.validator? at hvalidator
  unfold scan
  simp only [hfilter, hvalidator, hfound, bind, Except.bind, StopAfter.limit, StopAfter.cuts, StopAfter.less,
    Option.any_none, Option.map_none, Bool.false_eq_true, if_false]
  -- the files that were read are all of `sourcesAt`, so the table of the scan is that of `s`
  simp only [(readAll_meets w _ paths).goes hread, ← hsymbols, (s.findInAll_meets _).goes hfind]
  unfold Scanner.outcomeAt Scanner.troublesAt
  rw [List.map_append]
  rfl

theorem scan_stops (h : SetUp w o standard catalog s paths) (hs : o.strict = true) {t : Trouble} {rest : List Trouble}
    (ht : s.troublesAt w paths = t :: rest) : scan w o standard catalog none = .error t.error := by
  obtain ⟨⟨rfl, rfl, hfilter, hvalidator⟩, hfound, hsymbols⟩ := h
  unfold ScanOptions.validator? at hvalidator
  unfold scan
  simp only [hfilter, hvalidator, hfound, bind, Except.bind, StopAfter.limit, StopAfter.cuts, StopAfter.less,
    Option.any_none, Option.map_none, Bool.false_eq_true, if_false]
  unfold Scanner.troublesAt at ht
  cases hf : w.faultsAt paths with
  | cons t' ts =>
    -- the scan is over before it has a table of symbols
    rw [hf, List.cons_append] at ht
    obtain ⟨rfl, -⟩ := List.cons.inj ht
    rw [(readAll_meets w _ paths).stops t' ts hs hf]
  | nil =>
    rw [hf, List.nil_append] at ht
    simp only [(readAll_meets w _ paths).goes (.inr hf), ← hsymbols]
    rw [(s.findInAll_meets _).stops t rest hs ht]

/-- Strictness does not matter for what can be set up. -/
theorem exists_strict (h : SetUp w o standard catalog s paths) (strict : Bool) :
    ∃ s', SetUp w { o with strict } standard catalog s' paths := by
  obtain ⟨⟨-, -, hfilter, hvalidator⟩, hfound, -⟩ := h
  suffices hv : ∃ v?, ScanOptions.validator? { o with strict } standard = .ok v? by
    obtain ⟨v?, hv⟩ := hv
    exact ⟨⟨{ o with strict }, catalog, s.filter, v?, Table.ofFiles (w.sourcesAt paths) o.overrides strict⟩,
      ⟨rfl, rfl, hfilter, hv⟩, hfound, rfl⟩
  cases standard with
  | none => exact ⟨none, rfl⟩
  | some st =>
    obtain ⟨v, hv, -⟩ := ScanOptions.validator?_some hvalidator
    refine ⟨some { v with options := ⟨strict, o.ignoreOptional⟩ }, ?_⟩
    unfold ScanOptions.validator?
    rw [Option.mapM_some, (Validator.ofStandard_eq_ok hv ⟨strict, o.ignoreOptional⟩).2]
    rfl

theorem catalog_eq {strict : Bool} {s' : Scanner} (h : SetUp w o standard catalog s paths)
    (h' : SetUp w { o with strict } standard catalog s' paths) : s'.catalog = s.catalog :=
  h'.catalog.trans h.catalog.symm

/-- Set up strictly or not, scanners pass over the same types of resources. -/
theorem isRelevant_eq {strict : Bool} {s' : Scanner} (h : SetUp w o standard catalog s paths)
    (h' : SetUp w { o with strict } standard catalog s' paths) : s'.isRelevant = s.isRelevant := by
  funext type
  rw [Bool.eq_iff_iff, h.isRelevant_iff, h'.isRelevant_iff, looksAt_strict_iff]

theorem troublesAt_eq {strict : Bool} {s' : Scanner} (h : SetUp w o standard catalog s paths)
    (h' : SetUp w { o with strict } standard catalog s' paths) : s'.troublesAt w paths = s.troublesAt w paths := by
  unfold Scanner.troublesAt
  rw [Scanner.troublesIn_congr (h.catalog_eq h') (h.isRelevant_eq h')]

end SetUp

/-- A scan has an outcome if it can be set up and no trouble stops it, and in no other way. -/
theorem scan_eq_ok_iff {w : Workspace} {o : ScanOptions} {standard : Option Standard} {catalog : TagLookup}
    {out : ScanOutcome} : scan w o standard catalog none = .ok out ↔
      ∃ s paths, SetUp w o standard catalog s paths ∧ (o.strict = false ∨ s.troublesAt w paths = []) ∧
        out = s.outcomeAt w paths := by
  constructor
  · intro h
    have hrun := h
    obtain ⟨filter, hfilter, hrun⟩ := ok_of_do hrun
    obtain ⟨validator, hvalidator, hrun⟩ := ok_of_do hrun
    obtain ⟨paths, hfound, -⟩ := ok_of_do hrun
    let s : Scanner := ⟨o, catalog, filter, validator, Table.ofFiles (w.sourcesAt paths) o.overrides o.strict⟩
    have hs : SetUp w o standard catalog s paths := ⟨⟨rfl, rfl, hfilter, hvalidator⟩, hfound, rfl⟩
    have ht : o.strict = false ∨ s.troublesAt w paths = [] := by
      -- a strict scan with a trouble has no outcome
      by_contra! hstops
      obtain ⟨t, rest, ht⟩ := List.exists_cons_of_ne_nil hstops.2
      rw [hs.scan_stops (by simpa using hstops.1) ht] at h
      contradiction
    refine ⟨s, paths, hs, ht, ?_⟩
    rw [hs.scan_goes ht] at h
    exact (Except.ok.inj h).symm
  · rintro ⟨s, paths, hs, ht, rfl⟩
    exact hs.scan_goes ht

end TagAudit
