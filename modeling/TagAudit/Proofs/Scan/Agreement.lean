/-
  TagAudit.Proofs.Scan.Agreement — loading symbols and scanning treat a configuration alike.

  Both read the same files and make the same table of those that can be read. Loading symbols
  then goes through the files for those that cannot be parsed, where a scan meets them between
  the malformed tags of other files. So the troubles of the one are those of the other without
  the malformed tags, each about the same file (`subjects_troublesAt`); the messages differ.

  Proved: `loadSymbols_agrees`: whatever a scan can be set up for, a lenient scan has the table and
  the warnings about files that loading symbols has, and a strict scan fails if loading symbols
  does, for the same file if that cannot be read.
-/

import TagAudit.Proofs.Scan.Strictness

namespace TagAudit

open FileTree (Workspace)
open Hcl Symbols

def Warning.subject (warning : Warning) : String × WarningKind := (warning.file, warning.kind)

def Warning.isOfFile (warning : Warning) : Bool := warning.kind = .read ∨ warning.kind = .parse

/-- The trouble that loading symbols has with a file, if it cannot be parsed. -/
def SourceFile.parseTrouble? (file : SourceFile) : Option Trouble := file.complaint?.map (.unparseable file.path)

/-- The troubles on the way of loading the symbols of the files at paths. -/
def FileTree.Workspace.loadTroublesAt (w : Workspace) (paths : List String) : List Trouble :=
  w.faultsAt paths ++ (w.sourcesAt paths).filterMap SourceFile.parseTrouble?

/-! ## The course of loading symbols -/

theorem parseAll_meets (strict : Bool) (files : List SourceFile) :
    Meets strict (Scanning.parseAll strict files) (files.filterMap SourceFile.parseTrouble?) () := by
  induction files with
  | nil => exact .pure ()
  | cons file files ih =>
    unfold Scanning.parseAll
    rw [List.filterMap_cons]
    unfold SourceFile.parseTrouble? at ih ⊢
    cases file.complaint? with
    | none => exact ih
    | some complaint => exact Meets.bind (.meet _) ih

/-- Loading symbols is one computation over the files that are found. -/
theorem loadSymbols_eq {w : Workspace} {o : ScanOptions} {paths : List String} (h : o.paths w = .ok paths) :
    loadSymbols w o = (Scanning.readAll w o.strict paths >>= fun files =>
      Scanning.parseAll o.strict files >>= fun _ => pure (Table.ofFiles files o.overrides o.strict)).run [] := by
  unfold loadSymbols
  rw [h]
  rfl

/-- Loading symbols meets the files that cannot be read and then those that cannot be parsed. -/
theorem load_meets (w : Workspace) (o : ScanOptions) (paths : List String) :
    Meets o.strict
      (Scanning.readAll w o.strict paths >>= fun files =>
        Scanning.parseAll o.strict files >>= fun _ => pure (Table.ofFiles files o.overrides o.strict))
      (w.loadTroublesAt paths) (Table.ofFiles (w.sourcesAt paths) o.overrides o.strict) :=
  (readAll_meets w o.strict paths).bind
    ((parseAll_meets o.strict (w.sourcesAt paths)).map fun _ => Table.ofFiles (w.sourcesAt paths) o.overrides o.strict)

/-! ## The same troubles with files -/

namespace Scanner

variable (s : Scanner)

/-- Looking at a file that can be parsed has no trouble with the file itself. -/
theorem filter_troublesIn_of_parsed {file : SourceFile} {body : Body}
    (h : Body.read file.contents.toList = .ok body) :
    ((s.troublesIn file).map Trouble.warning).filter Warning.isOfFile = [] := by
  unfold troublesIn
  rw [h, List.filter_eq_nil_iff]
  intro warning hw
  obtain ⟨t, ht, rfl⟩ := List.mem_map.mp hw
  obtain ⟨r, -, hr⟩ := List.mem_filterMap.mp ht
  unfold trouble? at hr
  split at hr
  · obtain ⟨defect, -, rfl⟩ := Option.map_eq_some_iff.mp hr
    simp [Warning.isOfFile, Trouble.warning]
  · contradiction

/-- A file is told to be unparseable by both or by none. -/
theorem subjects_troublesIn (file : SourceFile) :
    (((s.troublesIn file).map Trouble.warning).filter Warning.isOfFile).map Warning.subject =
      file.parseTrouble?.toList.map (·.warning.subject) := by
  cases hb : Body.read file.contents.toList with
  | ok body =>
    rw [s.filter_troublesIn_of_parsed hb]
    unfold SourceFile.parseTrouble? SourceFile.complaint?
    rw [hb]
    rfl
  | error rest =>
    unfold troublesIn SourceFile.parseTrouble? SourceFile.complaint?
    rw [hb]
    rfl

/-- On the way of a scan, the troubles with files are those on the way of loading symbols. -/
theorem subjects_troublesAt (w : Workspace) (paths : List String) :
    (((s.troublesAt w paths).map Trouble.warning).filter Warning.isOfFile).map Warning.subject =
      (w.loadTroublesAt paths).map (·.warning.subject) := by
  have hread : ((w.faultsAt paths).map Trouble.warning).filter Warning.isOfFile =
      (w.faultsAt paths).map Trouble.warning := by
    rw [List.filter_eq_self]
    intro warning hw
    obtain ⟨t, ht, rfl⟩ := List.mem_map.mp hw
    obtain ⟨path, -, hpath⟩ := List.mem_filterMap.mp ht
    split at hpath
    · contradiction
    · obtain rfl := Option.some.inj hpath
      rfl
  unfold troublesAt Workspace.loadTroublesAt
  rw [List.map_append, List.filter_append, List.map_append, List.map_append, hread, List.map_map,
    List.filterMap_eq_flatMap_toList]
  refine congrArg (_ ++ ·) ?_
  induction w.sourcesAt paths with
  | nil => rfl
  | cons file files ih =>
    rw [List.flatMap_cons, List.flatMap_cons, List.map_append, List.filter_append, List.map_append, List.map_append,
      ih, s.subjects_troublesIn]

/-- A scan meets a trouble if loading symbols does. -/
theorem troublesAt_ne_nil {w : Workspace} {paths : List String} (h : w.loadTroublesAt paths ≠ []) :
    s.troublesAt w paths ≠ [] := by
  intro hnil
  have hsubjects := s.subjects_troublesAt w paths
  rw [hnil] at hsubjects
  exact h (List.map_eq_nil_iff.mp hsubjects.symm)

/-- If loading symbols first meets a file that cannot be read, so does a scan. -/
theorem troublesAt_of_unreadable {w : Workspace} {paths : List String} {t : Trouble} {rest : List Trouble}
    {cause : LoadError} (ht : w.loadTroublesAt paths = t :: rest) (hload : t.error = .load cause) :
    ∃ rest', s.troublesAt w paths = t :: rest' := by
  unfold Workspace.loadTroublesAt at ht
  unfold troublesAt
  cases hf : w.faultsAt paths with
  | cons t' ts =>
    rw [hf, List.cons_append] at ht
    obtain ⟨rfl, -⟩ := List.cons.inj ht
    exact ⟨_, List.cons_append⟩
  | nil =>
    -- the first trouble would be with a file that cannot be parsed
    rw [hf, List.nil_append] at ht
    have hmem : t ∈ (w.sourcesAt paths).filterMap SourceFile.parseTrouble? := ht ▸ List.mem_cons_self
    obtain ⟨file, -, hfile⟩ := List.mem_filterMap.mp hmem
    obtain ⟨complaint, -, rfl⟩ := Option.map_eq_some_iff.mp hfile
    contradiction

end Scanner

/-! ## Both entry points -/

/-- A scan can be set up where its root can be walked, its filters can be read and its standard
    makes sense. -/
theorem exists_setUp {w : Workspace} {o : ScanOptions} (standard : Option Standard) (catalog : TagLookup)
    {paths : List String} (hroot : o.paths w = .ok paths) (hfilter : ∃ filter, TypeFilter.ofOptions o = .ok filter)
    (hstandard : ∀ st, standard = some st → ∃ v, Validator.ofStandard st ⟨o.strict, o.ignoreOptional⟩ = .ok v) :
    ∃ s, SetUp w o standard catalog s paths := by
  obtain ⟨filter, hfilter⟩ := hfilter
  suffices hv : ∃ v?, o.validator? standard = .ok v? by
    obtain ⟨v?, hv⟩ := hv
    exact ⟨⟨o, catalog, filter, v?, Table.ofFiles (w.sourcesAt paths) o.overrides o.strict⟩,
      ⟨rfl, rfl, hfilter, hv⟩, hroot, rfl⟩
  cases standard with
  | none => exact ⟨none, rfl⟩
  | some st =>
    obtain ⟨v, hv⟩ := hstandard st rfl
    refine ⟨some v, ?_⟩
    unfold ScanOptions.validator?
    rw [Option.mapM_some, hv]
    rfl

/-- Loading symbols and scanning treat a configuration alike: without strictness both have the same
    table, and warn of the same files for the same reasons in the same order; a strict scan fails
    where loading symbols does, and with the same error if a file cannot be read. -/
theorem loadSymbols_agrees {w : Workspace} {o : ScanOptions} (standard : Option Standard) (catalog : TagLookup)
    (hroot : ∃ paths, o.paths w = .ok paths) (hfilter : ∃ filter, TypeFilter.ofOptions o = .ok filter)
    (hstandard : ∀ st, standard = some st → ∃ v, Validator.ofStandard st ⟨o.strict, o.ignoreOptional⟩ = .ok v) :
    (o.strict = false → ∃ out table warnings, scan w o standard catalog none = .ok out ∧
      loadSymbols w o = .ok (table, warnings) ∧ out.symbols = table ∧
        (out.warnings.filter Warning.isOfFile).map Warning.subject = warnings.map Warning.subject) ∧
      (o.strict = true → ∀ e, loadSymbols w o = .error e → ∃ e', scan w o standard catalog none = .error e' ∧
        ∀ cause, e = .load cause → e' = .load cause) := by
  obtain ⟨paths, hroot⟩ := hroot
  obtain ⟨s, hs⟩ := exists_setUp standard catalog hroot hfilter hstandard
  constructor
  · intro hlenient
    refine ⟨_, _, (w.loadTroublesAt paths).map Trouble.warning, hs.scan_goes (.inl hlenient), ?_, hs.symbols, ?_⟩
    · rw [loadSymbols_eq hroot, (load_meets w o paths).goes (.inl hlenient), List.nil_append]
    · rw [List.map_map]
      exact s.subjects_troublesAt w paths
  · intro hstrict e he
    rw [loadSymbols_eq hroot] at he
    cases ht : w.loadTroublesAt paths with
    | nil =>
      rw [(load_meets w o paths).goes (.inr ht)] at he
      contradiction
    | cons t rest =>
      rw [(load_meets w o paths).stops t rest hstrict ht] at he
      obtain rfl := Except.error.inj he
      obtain ⟨t', rest', ht'⟩ := List.exists_cons_of_ne_nil (s.troublesAt_ne_nil (ht ▸ List.cons_ne_nil t rest))
      refine ⟨t'.error, hs.scan_stops hstrict ht', fun cause hcause => ?_⟩
      obtain ⟨rest'', hload⟩ := s.troublesAt_of_unreadable ht hcause
      rw [ht'] at hload
      rw [(List.cons.inj hload).1, hcause]

/-- A lenient scan of a file that cannot be parsed, one with malformed tags and one that is no text
    warns of all three, loading symbols of two; strictly, both stop at the file that is no text. -/
theorem loadSymbols_agrees_troubledTree :
    (∃ out table warnings, scan troubledTree wholeTree none Catalog.byName none = .ok out ∧
      loadSymbols troubledTree wholeTree = .ok (table, warnings) ∧ out.symbols = table ∧
        (out.warnings.filter Warning.isOfFile).map Warning.subject = warnings.map Warning.subject) ∧
      ∃ cause, loadSymbols troubledTree { wholeTree with strict := true } = .error (.load cause) ∧
        scan troubledTree { wholeTree with strict := true } none Catalog.byName none = .error (.load cause) := by
  have hpaths : ScanOptions.paths { wholeTree with strict := true } troubledTree = .ok troubledPaths :=
    paths_troubledTree
  have hfilter : ∃ filter, TypeFilter.ofOptions wholeTree = .ok filter := ⟨⟨none, none⟩, rfl⟩
  have hlenient := loadSymbols_agrees none Catalog.byName ⟨_, paths_troubledTree⟩ hfilter nofun
  have hstrict := loadSymbols_agrees (o := { wholeTree with strict := true }) none Catalog.byName ⟨_, hpaths⟩ hfilter nofun
  have hfaults : troubledTree.faultsAt troubledPaths = [.unreadable "./image.tf" .notText] := by decide +kernel
  have hload : loadSymbols troubledTree { wholeTree with strict := true } =
      .error (.load (.unreadable "./image.tf" .notText)) := by
    rw [loadSymbols_eq hpaths]
    exact (load_meets _ _ _).stops _ _ rfl (congrArg (· ++ _) hfaults) []
  obtain ⟨e, he, hsame⟩ := hstrict.2 rfl _ hload
  refine ⟨hlenient.1 rfl, _, hload, ?_⟩
  rw [he, hsame _ rfl]

end TagAudit
