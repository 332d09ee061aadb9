/-
  TagAudit.Proofs.Compliance.ExampleValues — the examples in a standard comply with it.

  Examples are checked together with the standard, against the spec they stand in
  (`CompiledSpec.Vetted.accepts_example`). A tag is checked against the spec that is found for its
  key, and where no rule changes the specs that is the one the example stands in, for no other spec
  is for that key (`TagSpec.Apart`).

  Proved: `examples_comply`: a tag that has an example of a declared spec for its value has no
  violation and no fix, and nothing that the spec is for is missing or extra.
-/

import TagAudit.Proofs.Compliance.Unambiguous

namespace TagAudit

namespace Validator

variable {s : Standard} {options : ValidationOptions} {v : Validator} {type key : String} {spec : TagSpec}

/-- Without rules for a type, a tag is checked against the declared spec for its key. -/
theorem exists_specFor?_declared (h : Validator.ofStandard s options = .ok v) (hspec : spec ∈ s.specs)
    (hkey : spec.matchesKey key) : ∃ c, v.declared.specFor? key = some c ∧ c.spec = spec := by
  have hfound : s.findSpec? key = some spec :=
    TagSpec.Apart.find?_of_apart (Standard.pairwise_apart_of_check (check_of_ofStandard h)) hspec hkey
  rw [← (isFor_of_ofStandard h).map_specFor?_declared] at hfound
  exact Option.map_eq_some_iff.mp hfound

/-- What is found of a tag whose value its spec accepts. -/
theorem finding_of_accepts (hdeclared : v.requirements type = v.declared) {c : CompiledSpec}
    (hc : v.declared.specFor? key = some c) {value : String} (haccepts : c.Accepts value) :
    v.finding type key (.text value) = .violations [] [] := by
  rw [finding_of_declared hdeclared, hc, Option.elim_some, checkTag_eq_nil haccepts]
  exact ite_self _

end Validator

/-- A tag whose value is an example of a declared spec for its key complies: it has no violation and
    nothing is suggested for it, and no key of that spec is missing or extra. This is so with all
    options, for resources that the standard does not leave alone and that no rule is for. -/
theorem examples_comply {s : Standard} {options : ValidationOptions} {v : Validator}
    (h : Validator.ofStandard s options = .ok v) {spec : TagSpec} (hspec : spec ∈ s.specs) {value : String}
    (hvalue : value ∈ spec.examples) {resource : ResourceKey} (hregulated : resource.type ∉ s.globalExcludes)
    (hrules : ∀ rule ∈ s.resourceRules, rule.appliesTo resource.type = false) {tags : OrderedMap Value}
    (hn : tags.keys.Nodup) {key : String} (hkey : spec.matchesKey key) (hmem : (key, .text value) ∈ tags) :
    (v.validate resource tags).about key = ([], 0, []) ∧
      (∀ missing ∈ (v.validate resource tags).missing, ¬ spec.matchesKey missing) ∧
      ∀ extra ∈ (v.validate resource tags).extra, ¬ spec.matchesKey extra := by
  have hfor := Validator.isFor_of_ofStandard h
  have hexcluded := hfor.isExcluded_eq_false hregulated
  have hdeclared := hfor.requirements_eq_declared hrules
  refine ⟨?_, fun missing hmissing hown => ?_, fun extra hextra hown => ?_⟩
  · obtain ⟨c, hc, rfl⟩ := Validator.exists_specFor?_declared h hspec hkey
    have hvetted : c.Vetted :=
      Validator.vetted_of_ofStandard h c (Validator.mem_specsFor_of_specFor? (hdeclared.symm ▸ hc))
    rw [Validator.about_validate hexcluded hn hmem,
      Validator.finding_of_accepts hdeclared hc (hvetted.accepts_example hvalue)]
    rfl
  · -- the missing key would be that of this spec, which the tag has
    obtain ⟨c, hc, habsent, rfl⟩ := (Validator.mem_missing_iff hexcluded).mp hmissing
    rw [hdeclared] at hc
    have hdeclared : c.spec ∈ s.specs := List.mem_append_left _ (hfor.required ▸ List.mem_map_of_mem hc)
    obtain rfl : c.spec = spec :=
      TagSpec.Apart.eq_of_matchesKey (Standard.pairwise_apart_of_check (Validator.check_of_ofStandard h)) hdeclared hspec
        c.spec.matchesKey_self hown
    exact habsent key (List.mem_map_of_mem hmem) hkey
  · obtain ⟨c, hc, -⟩ := Validator.exists_specFor?_declared h hspec hown
    rw [Validator.extra_validate hexcluded] at hextra
    obtain ⟨e, he, rfl⟩ := List.mem_map.mp hextra
    have hisExtra := (List.mem_filter.mp he).2
    rw [Validator.finding_of_declared hdeclared, hc, Option.elim_some] at hisExtra
    split at hisExtra
    · contradiction
    · contradiction

/-! ## A standard with examples -/

def codeSpec : TagSpec :=
  { plainSpec "Code" with dataType := some .numeric, maxLength := some 3, examples := ["007", "42"] }

def codeStandard : Standard := { bucketStandard with requiredTags := [codeSpec, casedSpec "Env"] }

def codeValidator : Validator :=
  { casedValidator codeStandard with options := ⟨true, false⟩ }

def webServer : ResourceKey := ⟨"aws_instance", "web", "main.tf"⟩

/-- A code is an example, written with another letter case; the tag beside it is wanted in just one. -/
theorem examples_comply_codeStandard :
    Validator.ofStandard codeStandard ⟨true, false⟩ = .ok codeValidator ∧ codeSpec ∈ codeStandard.specs ∧
      "42" ∈ codeSpec.examples ∧ codeSpec.matchesKey "CODE" ∧
      (codeValidator.validate webServer [("CODE", .text "42"), ("ENV", .text "prod")]).about "CODE" = ([], 0, []) ∧
      (codeValidator.validate webServer [("CODE", .text "42"), ("ENV", .text "prod")]).missing = ["Env"] ∧
      (codeValidator.validate webServer [("CODE", .text "42"), ("ENV", .text "prod")]).extra = ["ENV"] ∧
      ¬ codeSpec.matchesKey "Env" ∧ ¬ codeSpec.matchesKey "ENV" := by
  have hv : Validator.ofStandard codeStandard ⟨true, false⟩ = .ok codeValidator := rfl
  have hspec : codeSpec ∈ codeStandard.specs := List.mem_cons_self
  have hvalue : "42" ∈ codeSpec.examples := by decide +kernel
  have hregulated : webServer.type ∉ codeStandard.globalExcludes := by decide +kernel
  have hrules : ∀ rule ∈ codeStandard.resourceRules, rule.appliesTo webServer.type = false := by decide +kernel
  have hkey : codeSpec.matchesKey "CODE" := by decide +kernel
  have hmem : ("CODE", Value.text "42") ∈ [("CODE", Value.text "42"), ("ENV", .text "prod")] := List.mem_cons_self
  obtain ⟨habout, hmissing, hextra⟩ :=
    examples_comply hv hspec hvalue hregulated hrules (by decide +kernel) hkey hmem
  exact ⟨hv, hspec, hvalue, hkey, habout, by decide +kernel, by decide +kernel, hmissing "Env" (by decide +kernel),
    hextra "ENV" (by decide +kernel)⟩

end TagAudit
