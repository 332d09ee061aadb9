/-
  TagAudit.Proofs.Scan.Completeness — a scan finds all resources that it looks at.

  What a scan finds is compared with the resources that are located in the files, in the order of
  the files and in each file of the declarations. A located resource that is looked at is either
  found, with its tags, or its tags are malformed and there is one warning of it.

  Proved: `scan_complete`: every outcome of a scan that is not stopped from outside is complete in
  this sense, its tags have the keys of the resolved ones, and it tells of the compliance of all
  resources with the standard, or of none if there is no standard.
-/

import TagAudit.Proofs.Scan.Stages

namespace TagAudit

open FileTree (Workspace)
open Hcl Symbols

def TagLookup.tagWarning? (catalog : TagLookup) (r : Resource) : Option Warning :=
  (catalog.tagDefect? r).map fun defect =>
    ⟨r.file, .extract, r.address ++ ": " ++ TagFailure.message (catalog.tagAttribute r.type) (.malformed defect)⟩

/-- An outcome tells of the resources in the files at paths, of each that is looked at in its place. -/
structure ScanOutcome.Complete (out : ScanOutcome) (w : Workspace) (o : ScanOptions) (standard : Option Standard)
    (catalog : TagLookup) (paths : List String) : Prop where
  resources : out.resources.map (·.resource) =
    (w.locatedAt paths).filter fun r => LooksAt o standard catalog r.type ∧ catalog.tagDefect? r = none
  malformed : out.warnings.filter (·.kind = .extract) =
    ((w.locatedAt paths).filter fun r => LooksAt o standard catalog r.type).filterMap catalog.tagWarning?
  keys : ∀ r ∈ out.resources, r.tags.keys = r.resolved.keys
  unchecked : standard = none → ∀ r ∈ out.resources, r.compliance = none
  checked : ∀ s, standard = some s → ∃ v, Validator.ofStandard s ⟨o.strict, o.ignoreOptional⟩ = .ok v ∧
    ∀ r ∈ out.resources, r.compliance =
      some (v.validate ⟨r.resource.type, r.resource.name, r.resource.file⟩ r.resolved)

namespace Scanner

variable (s : Scanner)

/-! ## What is found of a resource -/

theorem keys_evaluatedTags (e : Expr) : (s.evaluatedTags e).1.keys = (s.evaluatedTags e).2.keys := by
  unfold evaluatedTags
  split
  · simp
  · rfl

/-- Tags that are read one by one and tags of an evaluated map alike. -/
theorem keys_tags {r : Resource} {attr : String} {tags : OrderedMap String} {resolved : OrderedMap Value}
    (h : s.tags r attr = .ok (tags, resolved)) : tags.keys = resolved.keys := by
  unfold Scanner.tags at h
  split at h
  · obtain ⟨rfl, rfl⟩ := Prod.mk.inj (Except.ok.inj h)
    simp
  · obtain ⟨rfl, rfl⟩ := Prod.mk.inj (Except.ok.inj h)
    cases r.body.attribute? attr with
    | none => rfl
    | some e => exact s.keys_evaluatedTags e
  · contradiction

theorem mem_filterMap_scanned? {found : ScannedResource} {rs : List Resource} (h : found ∈ rs.filterMap s.scanned?) :
    ∃ r tags resolved, s.tags r (s.catalog.tagAttribute r.type) = .ok (tags, resolved) ∧
      found = s.describe r tags resolved := by
  obtain ⟨r, -, hr⟩ := List.mem_filterMap.mp h
  unfold scanned? at hr
  split at hr
  · cases ht : s.tags r (s.catalog.tagAttribute r.type) with
    | error failure => simp [ht, Except.toOption] at hr
    | ok found =>
      rw [ht] at hr
      exact ⟨r, found.1, found.2, ht, (Option.some.inj hr).symm⟩
  · contradiction

/-! ## Warnings of malformed tags -/

theorem warning_of_trouble? (r : Resource) :
    (s.trouble? r).map Trouble.warning = if s.isRelevant r.type then s.catalog.tagWarning? r else none := by
  unfold trouble? TagLookup.tagWarning?
  split
  · rw [Option.map_map]
    rfl
  · rfl

theorem extract_warnings_troublesIn (file : SourceFile) :
    ((s.troublesIn file).map Trouble.warning).filter (·.kind = .extract) =
      (file.located.filter (s.isRelevant ·.type)).filterMap s.catalog.tagWarning? := by
  unfold troublesIn SourceFile.located Resource.locate? Body.read?
  cases Body.read file.contents.toList with
  | error rest => rfl
  | ok body =>
    simp only [Except.toOption, Option.map_some, Option.getD_some]
    rw [List.map_filterMap, List.filterMap_filter, funext s.warning_of_trouble?, List.filter_eq_self]
    intro warning hw
    obtain ⟨r, -, hr⟩ := List.mem_filterMap.mp hw
    split at hr
    · obtain ⟨defect, -, rfl⟩ := Option.map_eq_some_iff.mp hr
      rfl
    · contradiction

/-- There is one warning of each resource that is looked at and has malformed tags. -/
theorem extract_warnings_troublesAt (w : Workspace) (paths : List String) :
    ((s.troublesAt w paths).map Trouble.warning).filter (·.kind = .extract) =
      ((w.locatedAt paths).filter (s.isRelevant ·.type)).filterMap s.catalog.tagWarning? := by
  have hread : ((w.faultsAt paths).map Trouble.warning).filter (·.kind = .extract) = [] := by
    rw [List.filter_eq_nil_iff]
    intro warning hw
    obtain ⟨t, ht, rfl⟩ := List.mem_map.mp hw
    obtain ⟨path, -, hpath⟩ := List.mem_filterMap.mp ht
    split at hpath
    · contradiction
    · obtain rfl := Option.some.inj hpath
      simp [Trouble.warning]
  unfold troublesAt Workspace.locatedAt
  rw [List.map_append, List.filter_append, hread, List.nil_append]
  induction w.sourcesAt paths with
  | nil => rfl
  | cons file files ih =>
    rw [List.flatMap_cons, List.flatMap_cons, List.map_append, List.filter_append, List.filter_append,
      List.filterMap_append, ih, s.extract_warnings_troublesIn]

end Scanner

/-! ## Whole scans -/

/-- Every outcome of a scan that is not stopped from outside tells of all resources. -/
theorem scan_complete {w : Workspace} {o : ScanOptions} {standard : Option Standard} {catalog : TagLookup}
    {out : ScanOutcome} (h : scan w o standard catalog none = .ok out) :
    ∃ paths, o.paths w = .ok paths ∧ out.Complete w o standard catalog paths := by
  obtain ⟨s, paths, hs, -, rfl⟩ := scan_eq_ok_iff.mp h
  have hrelevant (r : Resource) : s.isRelevant r.type = decide (LooksAt o standard catalog r.type) := by
    rw [Bool.eq_iff_iff, hs.isRelevant_iff, decide_eq_true_iff]
  refine ⟨paths, hs.found, ?_, ?_, ?_, ?_, ?_⟩
  · refine (s.map_resource_scanned _).trans (List.filter_congr fun r _ => ?_)
    rw [hrelevant, Bool.decide_and]
    rw [hs.catalog]
    cases catalog.tagDefect? r <;> rfl
  · exact (s.extract_warnings_troublesAt w paths).trans (by simp only [hrelevant, hs.catalog])
  · intro found hfound
    obtain ⟨r, tags, resolved, ht, rfl⟩ := s.mem_filterMap_scanned? hfound
    exact s.keys_tags ht
  · rintro rfl found hfound
    obtain ⟨r, tags, resolved, -, rfl⟩ := s.mem_filterMap_scanned? hfound
    have hv : s.validator = none := (Except.ok.inj hs.validator).symm
    unfold Scanner.describe
    rw [hv]
    rfl
  · rintro st rfl
    obtain ⟨v, hst, hv⟩ := ScanOptions.validator?_some hs.validator
    refine ⟨v, hst, fun found hfound => ?_⟩
    obtain ⟨r, tags, resolved, -, rfl⟩ := s.mem_filterMap_scanned? hfound
    unfold Scanner.describe
    rw [hv]
    rfl

/-! ## A tree with resources of several kinds -/

/-- Malformed tags, a queue, and tags that are written out. -/
def mixedTree : Workspace :=
  ⟨.directory
    [("ip.tf", .file (some "resource \"aws_eip\" \"nat\" \x7b\n  tags = 1\n\x7d\n")),
     ("jobs.tf", .file (some "resource \"aws_sqs_queue\" \"jobs\" \x7b\x7d\n")),
     ("vpc.tf", .file (some "resource \"aws_vpc\" \"main\" \x7b\n  tags = \x7b env = \"test\" \x7d\n\x7d\n"))], []⟩

def environmentStandard : Standard :=
  { version := 1
    metadata := ⟨"", "", "", none⟩
    provider := .aws
    requiredTags := [⟨"env", "", ["dev", "prod"], none, none, none, none, true, none, []⟩]
    optionalTags := []
    globalExcludes := ["aws_sqs_queue"]
    resourceRules := [] }

def environmentValidator : Validator :=
  ⟨environmentStandard, ⟨false, false⟩, environmentStandard.requiredTags.map (⟨·, none⟩), [], []⟩

def mixedPaths : List String := ["./ip.tf", "./jobs.tf", "./vpc.tf"]

def mixedScanner : Scanner :=
  ⟨wholeTree, Catalog.byName, ⟨none, none⟩, some environmentValidator, Table.ofFiles (mixedTree.sourcesAt mixedPaths) [] false⟩

theorem paths_mixedTree : wholeTree.paths mixedTree = .ok mixedPaths :=
  paths_wholeTree (by decide +kernel)

theorem scan_complete_mixedTree :
    ∃ out paths, scan mixedTree wholeTree (some environmentStandard) Catalog.byName none = .ok out ∧
      wholeTree.paths mixedTree = .ok paths ∧
      out.Complete mixedTree wholeTree (some environmentStandard) Catalog.byName paths ∧
      out.resources.map (fun r => (r.resource.address, r.compliance.map (·.compliant))) = [("aws_vpc.main", some false)] ∧
      out.warnings.map (·.message) = ["aws_eip.nat: malformed `tags`: expected a map of tags"] := by
  have hs : SetUp mixedTree wholeTree (some environmentStandard) Catalog.byName mixedScanner mixedPaths :=
    ⟨⟨rfl, rfl, rfl, rfl⟩, paths_mixedTree, rfl⟩
  have hgoes := hs.scan_goes (.inl rfl)
  obtain ⟨paths, hfound, hcomplete⟩ := scan_complete hgoes
  exact ⟨_, paths, hgoes, hfound, hcomplete, by decide +kernel⟩

end TagAudit
