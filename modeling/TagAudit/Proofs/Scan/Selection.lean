/-
  TagAudit.Proofs.Scan.Selection — which resources a scan looks at, and what comes of them.

  Whether a type of resource is looked at is decided by the options of a scan, its standard and
  its catalog (`LooksAt`), not by what a configuration declares, and not by strictness. Of a
  resource that is looked at comes a resource with tags, or a trouble if the tags are malformed.

  Proved:
  - `isRelevant_iff`: a scanner that was set up for options, standard and catalog passes over the
    types that `LooksAt` says.
  - `findInAll_meets`: going through files meets those that cannot be parsed and the malformed
    tags, each at its place, and comes to the other resources that are looked at.
-/

import Mathlib.Data.List.Basic
import TagAudit.Proofs.Hcl.Identifiers
import TagAudit.Proofs.Scan.Course

namespace TagAudit

open FileTree (Workspace)
open Hcl Symbols

/-! ## Types that are looked at -/

/-- The provider of a type of resource: that of the standard, else of the options, else the one
    that the type speaks for. -/
def ScanOptions.providerOf? (o : ScanOptions) (standard : Option Standard) (type : String) : Option Provider :=
  ((standard.map (·.provider)).or o.provider).or (Provider.ofType? type)

/-- A type of resource that both filters let pass, that carries tags with its provider, and that
    the standard does not leave alone. -/
structure LooksAt (o : ScanOptions) (standard : Option Standard) (catalog : TagLookup) (type : String) : Prop where
  included : ∀ source, o.includes = some source → ∃ r, Regex.read? source = some r ∧ r.matchesIn type
  notExcluded : ∀ source r, o.excludes = some source → Regex.read? source = some r → ¬ r.matchesIn type
  taggable : ∃ p, o.providerOf? standard type = some p ∧ catalog.isTaggable type p
  regulated : ∀ s, standard = some s → type ∉ s.globalExcludes

theorem looksAt_iff {o : ScanOptions} {standard : Option Standard} {catalog : TagLookup} {type : String} :
    LooksAt o standard catalog type ↔
      (o.includes.all fun source => (Regex.read? source).any (·.matchesIn type)) ∧
        (o.excludes.all fun source => !(Regex.read? source).any (·.matchesIn type)) ∧
          (o.providerOf? standard type).any (catalog.isTaggable type) ∧
            standard.all fun s => decide (type ∉ s.globalExcludes) := by
  constructor
  · rintro ⟨hi, he, ht, hs⟩
    refine ⟨?_, ?_, by simpa [Option.any_eq_true] using ht, ?_⟩
    · simpa [Option.all_eq_true, Option.any_eq_true] using hi
    · simpa [Option.all_eq_true, Option.any_eq_false] using fun source h r hr => he source r h hr
    · simpa [Option.all_eq_true] using hs
  · rintro ⟨hi, he, ht, hs⟩
    refine ⟨fun source h => ?_, fun source r h hr => ?_, by simpa [Option.any_eq_true] using ht, fun s h => ?_⟩
    · simpa [h, Option.any_eq_true] using hi
    · simpa [h, hr] using he
    · simpa [h] using hs

instance (o : ScanOptions) (standard : Option Standard) (catalog : TagLookup) (type : String) :
    Decidable (LooksAt o standard catalog type) :=
  decidable_of_iff _ looksAt_iff.symm

/-- Strictness does not decide what is looked at. -/
theorem looksAt_strict_iff {o : ScanOptions} {standard : Option Standard} {catalog : TagLookup} {type : String}
    (strict : Bool) : LooksAt { o with strict } standard catalog type ↔ LooksAt o standard catalog type := by
  constructor
  · rintro ⟨hi, he, ht, hs⟩
    exact ⟨hi, he, ht, hs⟩
  · rintro ⟨hi, he, ht, hs⟩
    exact ⟨hi, he, ht, hs⟩

def ScanOptions.validator? (o : ScanOptions) (standard : Option Standard) : Except ScanError (Option Validator) :=
  standard.mapM fun s => (Validator.ofStandard s ⟨o.strict, o.ignoreOptional⟩).mapError ScanError.standard

/-- A scanner that is set up for options, a standard and a catalog. -/
structure Scanner.For (s : Scanner) (o : ScanOptions) (standard : Option Standard) (catalog : TagLookup) : Prop where
  options : s.options = o
  catalog : s.catalog = catalog
  filter : TypeFilter.ofOptions o = .ok s.filter
  validator : o.validator? standard = .ok s.validator

/-! ## Setting up -/

theorem TypeFilter.compile_eq_ok {source? : Option String} {r? : Option Regex} (h : compile source? = .ok r?) :
    r? = source?.bind Regex.read? ∧ ∀ source, source? = some source → (Regex.read? source).isSome := by
  unfold compile at h
  cases source? with
  | none =>
    obtain rfl := Except.ok.inj h
    exact ⟨rfl, fun _ h => by contradiction⟩
  | some source =>
    cases hr : Regex.read? source with
    | none => simp [hr] at h
    | some r =>
      simp only [hr] at h
      obtain rfl := Except.ok.inj h
      refine ⟨by rw [Option.bind_some, hr], ?_⟩
      rintro _ ⟨⟩
      rw [hr]
      rfl

/-- A standard makes the same validator for any options, or none for any. -/
theorem Validator.ofStandard_eq_ok {s : Standard} {options : ValidationOptions} {v : Validator}
    (h : Validator.ofStandard s options = .ok v) (options' : ValidationOptions) :
    v.standard = s ∧ Validator.ofStandard s options' = .ok { v with options := options' } := by
  unfold Validator.ofStandard at h ⊢
  obtain ⟨⟨⟩, hcheck, h⟩ := ok_of_do h
  obtain ⟨required, hrequired, h⟩ := ok_of_do h
  obtain ⟨optional, hoptional, h⟩ := ok_of_do h
  obtain ⟨rules, hrules, h⟩ := ok_of_do h
  obtain rfl := Except.ok.inj h
  refine ⟨rfl, ?_⟩
  rw [hcheck, hrequired, hoptional, hrules]
  rfl

theorem ScanOptions.validator?_some {o : ScanOptions} {s : Standard} {v? : Option Validator}
    (h : o.validator? (some s) = .ok v?) :
    ∃ v, Validator.ofStandard s ⟨o.strict, o.ignoreOptional⟩ = .ok v ∧ v? = some v := by
  unfold validator? at h
  rw [Option.mapM_some] at h
  cases hv : Validator.ofStandard s ⟨o.strict, o.ignoreOptional⟩ with
  | error e => simp [hv, Except.mapError] at h
  | ok v =>
    rw [hv] at h
    exact ⟨v, rfl, (Except.ok.inj h).symm⟩

/-! ## What a scanner passes over -/

namespace Scanner.For

variable {s : Scanner} {o : ScanOptions} {standard : Option Standard} {catalog : TagLookup}

theorem standard_eq (h : s.For o standard catalog) : s.validator.map (·.standard) = standard := by
  have hv := h.validator
  cases standard with
  | none =>
    rw [← Except.ok.inj hv]
    rfl
  | some st =>
    obtain ⟨v, hst, hv⟩ := ScanOptions.validator?_some hv
    rw [hv, Option.map_some, (Validator.ofStandard_eq_ok hst ⟨false, false⟩).1]

theorem accepts_iff (h : s.For o standard catalog) (type : String) : s.filter.accepts type ↔
    (o.includes.all fun source => (Regex.read? source).any (·.matchesIn type)) ∧
      o.excludes.all fun source => !(Regex.read? source).any (·.matchesIn type) := by
  obtain ⟨includes, hincludes, hf⟩ := ok_of_do h.filter
  obtain ⟨excludes, hexcludes, hf⟩ := ok_of_do hf
  obtain ⟨hi, hir⟩ := TypeFilter.compile_eq_ok hincludes
  obtain ⟨he, -⟩ := TypeFilter.compile_eq_ok hexcludes
  rw [← Except.ok.inj hf]
  unfold TypeFilter.accepts
  rw [Bool.and_eq_true]
  refine and_congr ?_ ?_
  · rw [hi]
    cases ho : o.includes with
    | none => simp
    | some source =>
      obtain ⟨r, hr⟩ := Option.isSome_iff_exists.mp (hir source ho)
      simp [hr]
  · rw [he]
    cases o.excludes <;> simp

theorem provider_eq (h : s.For o standard catalog) (type : String) : s.provider? type = o.providerOf? standard type := by
  unfold Scanner.provider? ScanOptions.providerOf?
  rw [h.options, ← h.standard_eq, Option.map_map]
  rfl

theorem isExcluded_iff (h : s.For o standard catalog) (type : String) :
    s.validator.any (·.isExcluded type) = false ↔ standard.all fun st => decide (type ∉ st.globalExcludes) := by
  rw [← h.standard_eq]
  cases s.validator <;> simp [Validator.isExcluded]

/-- A scanner passes over all types but those that its options, standard and catalog look at. -/
theorem isRelevant_iff (h : s.For o standard catalog) (type : String) :
    s.isRelevant type ↔ LooksAt o standard catalog type := by
  unfold Scanner.isRelevant
  rw [Bool.and_eq_true, Bool.and_eq_true, Bool.not_eq_true', h.accepts_iff, h.isExcluded_iff, h.provider_eq, h.catalog,
    looksAt_iff, and_assoc, and_assoc]

end Scanner.For

def SourceFile.located (file : SourceFile) : List Resource := (Resource.locate? file).getD []

/-! ## What comes of a resource -/

/-- What is wrong with the tags of a resource, if they are malformed. -/
def TagLookup.tagDefect? (catalog : TagLookup) (r : Resource) : Option TagDefect :=
  match TagExpressions.ofBody r.body (catalog.tagAttribute r.type) with
  | .error (.malformed defect) => some defect
  | _ => none

namespace Scanner

variable (s : Scanner)

/-- The trouble with a resource that is looked at and has malformed tags. -/
def trouble? (r : Resource) : Option Trouble :=
  if s.isRelevant r.type then
    (s.catalog.tagDefect? r).map fun defect => .malformed r.file r.address (s.catalog.tagAttribute r.type) (.malformed defect)
  else none

/-- What a resource comes to that is looked at and has tags. -/
def scanned? (r : Resource) : Option ScannedResource :=
  if s.isRelevant r.type then
    (s.tags r (s.catalog.tagAttribute r.type)).toOption.map fun (tags, resolved) => s.describe r tags resolved
  else none

/-- Reading tags fails with their defect, whatever the symbols are. -/
theorem tags_eq_error_iff {r : Resource} {failure : TagFailure} :
    s.tags r (s.catalog.tagAttribute r.type) = .error failure ↔
      ∃ defect, s.catalog.tagDefect? r = some defect ∧ failure = .malformed defect := by
  unfold tags TagLookup.tagDefect?
  cases TagExpressions.ofBody r.body (s.catalog.tagAttribute r.type) with
  | ok es => simp
  | error f =>
    cases f with
    | complex => simp
    | malformed defect => simp [eq_comm]

theorem tagDefect_of_tags {r : Resource} {found : OrderedMap String × OrderedMap Value}
    (h : s.tags r (s.catalog.tagAttribute r.type) = .ok found) : s.catalog.tagDefect? r = none := by
  by_contra hd
  obtain ⟨defect, hd⟩ := Option.ne_none_iff_exists'.mp hd
  rw [s.tags_eq_error_iff.mpr ⟨defect, hd, rfl⟩] at h
  contradiction

theorem find_meets (r : Resource) : Meets s.options.strict (s.find r) (s.trouble? r).toList (s.scanned? r) := by
  unfold find trouble? scanned?
  by_cases hr : s.isRelevant r.type
  · simp only [hr, if_true]
    cases ht : s.tags r (s.catalog.tagAttribute r.type) with
    | ok found =>
      rw [s.tagDefect_of_tags ht]
      exact .pure _
    | error failure =>
      obtain ⟨defect, hd, rfl⟩ := s.tags_eq_error_iff.mp ht
      rw [hd]
      exact Meets.map (.meet _) fun _ => none
  · simp only [hr, Bool.false_eq_true, if_false]
    exact .pure _

/-- What comes of resources are those that are looked at and are not malformed. -/
theorem map_resource_scanned (rs : List Resource) : (rs.filterMap s.scanned?).map (·.resource) =
    rs.filter fun r => s.isRelevant r.type && (s.catalog.tagDefect? r).isNone := by
  have hone (r : Resource) : (s.scanned? r).map (·.resource) =
      Option.guard (fun r => s.isRelevant r.type && (s.catalog.tagDefect? r).isNone) r := by
    unfold scanned? Option.guard
    by_cases hr : s.isRelevant r.type
    · simp only [hr, if_true, Bool.true_and]
      cases ht : s.tags r (s.catalog.tagAttribute r.type) with
      | ok found => rw [s.tagDefect_of_tags ht]; rfl
      | error failure =>
        obtain ⟨defect, hd, -⟩ := s.tags_eq_error_iff.mp ht
        rw [hd]
        rfl
    · simp only [hr, Bool.false_and, if_false, Bool.false_eq_true, Option.map_none]
  rw [List.map_filterMap, ← List.filterMap_eq_filter]
  exact List.filterMap_congr fun r _ => hone r

theorem findAll_meets (rs : List Resource) :
    Meets s.options.strict (s.findAll rs) (rs.filterMap s.trouble?) (rs.filterMap s.scanned?) := by
  rw [List.filterMap_eq_flatMap_toList, List.filterMap_eq_flatMap_toList]
  induction rs with
  | nil => exact .pure []
  | cons r rs ih =>
    rw [List.flatMap_cons, List.flatMap_cons]
    exact (s.find_meets r).bind (ih.map fun rest => (s.scanned? r).toList ++ rest)

/-! ## Going through files -/

/-- The troubles with looking at a file: that it cannot be parsed, or those with its resources. -/
def troublesIn (file : SourceFile) : List Trouble :=
  match Body.read file.contents.toList with
  | .ok body => (Resource.ofBody file body).filterMap s.trouble?
  | .error rest =>
    [.unparseable file.path ("unable to parse " ++ file.path ++ ": " ++ complaint file.contents.toList rest)]

/-- The troubles with files depend on what a scanner passes over and where its catalog says that
    tags are, and on nothing else of it. -/
theorem troublesIn_congr {s s' : Scanner} (hcatalog : s'.catalog = s.catalog)
    (hrelevant : s'.isRelevant = s.isRelevant) : s'.troublesIn = s.troublesIn := by
  have ht : s'.trouble? = s.trouble? := by
    unfold trouble?
    rw [hcatalog, hrelevant]
  unfold troublesIn
  rw [ht]

theorem findIn_meets (file : SourceFile) :
    Meets s.options.strict (s.findIn file) (s.troublesIn file) (file.located.filterMap s.scanned?) := by
  unfold findIn troublesIn SourceFile.located Resource.locate? Body.read?
  cases Body.read file.contents.toList with
  | ok body => exact s.findAll_meets (Resource.ofBody file body)
  | error rest => exact (Meets.meet _).map fun _ => []

theorem findInAll_meets (files : List SourceFile) :
    Meets s.options.strict (s.findInAll files) (files.flatMap s.troublesIn)
      ((files.flatMap SourceFile.located).filterMap s.scanned?) := by
  induction files with
  | nil => exact .pure []
  | cons file files ih =>
    rw [List.flatMap_cons, List.flatMap_cons, List.filterMap_append]
    exact (s.findIn_meets file).bind (ih.map fun rest => file.located.filterMap s.scanned? ++ rest)

end Scanner

end TagAudit
