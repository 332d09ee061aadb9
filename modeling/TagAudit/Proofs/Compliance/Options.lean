/-
  TagAudit.Proofs.Compliance.Options — what the options of a check change.

  Missing and extra tags do not depend on the options: `strict` only decides whether extra tags
  count, and `ignoreOptional` only leaves out what is found of tags that nothing but an optional
  spec is for (`findTag_of_regulated`, `violationsOf_ignoring`).

  Proved: `options_confined`: of the four checks of a resource, the strict ones differ from the
  others in the verdict alone, and those that ignore optional tags report the violations of the
  others without those of such tags. A resource that complies with more asked of it complies with
  less.
-/

import TagAudit.Proofs.Compliance.Findings

namespace TagAudit

/-- Whether a spec in force excludes or requires a key; other tags are optional or unknown. -/
def Requirements.regulates (r : Requirements) (key : String) : Bool :=
  (r.excluded ++ r.required).any (·.matchesKey key)

namespace Validator

def withOptions (v : Validator) (options : ValidationOptions) : Validator := { v with options }

/-- A standard that can be used can be used with all options. -/
theorem ofStandard_withOptions {s : Standard} {options : ValidationOptions} {v : Validator}
    (h : Validator.ofStandard s options = .ok v) (other : ValidationOptions) :
    Validator.ofStandard s other = .ok (v.withOptions other) := by
  unfold ofStandard at h ⊢
  obtain ⟨⟨⟩, hcheck, h⟩ := Hcl.ok_of_do h
  obtain ⟨required, hrequired, h⟩ := Hcl.ok_of_do h
  obtain ⟨optional, hoptional, h⟩ := Hcl.ok_of_do h
  obtain ⟨rules, hrules, h⟩ := Hcl.ok_of_do h
  obtain rfl := Except.ok.inj h
  rw [hcheck, hrequired, hoptional, hrules]
  rfl

/-! ## One tag -/

section
variable {r : Requirements} {type key : String} {value : Value} (options other : ValidationOptions)

/-- What is found of a tag that is excluded or required does not depend on the options. -/
theorem findTag_of_regulated (h : r.regulates key) :
    findTag options r type key value = findTag other r type key value := by
  unfold Requirements.regulates at h
  rw [List.any_append, Bool.or_eq_true] at h
  unfold findTag
  by_cases hexcluded : r.excluded.any (·.matchesKey key)
  · rw [if_pos hexcluded, if_pos hexcluded]
  · have hrequired := h.resolve_left hexcluded
    rw [← List.isSome_find?] at hrequired
    obtain ⟨c, hc⟩ := Option.isSome_iff_exists.mp hrequired
    rw [if_neg hexcluded, if_neg hexcluded, hc]

theorem findTag_of_not_regulated (h : r.regulates key = false) : findTag options r type key value =
    match r.optional.find? (·.matchesKey key) with
    | some c =>
      if options.ignoreOptional then .violations [] []
      else .violations (checkTag c key value) ((checkTag c key value).filterMap (suggestFix? c.spec))
    | none => .extra := by
  unfold Requirements.regulates at h
  rw [List.any_append, Bool.or_eq_false_iff] at h
  obtain ⟨hexcluded, hrequired⟩ := h
  rw [← List.isSome_find?, Option.isSome_eq_false_iff, Option.isNone_iff_eq_none] at hrequired
  unfold findTag
  rw [hexcluded, if_neg Bool.false_ne_true, hrequired]
  cases r.optional.find? (·.matchesKey key) with
  | none => rfl
  | some c => rfl

/-- Whether a tag is extra does not depend on the options. -/
theorem isExtra_findTag :
    (findTag options r type key value).isExtra = (findTag other r type key value).isExtra := by
  cases h : r.regulates key with
  | true => rw [findTag_of_regulated options other h]
  | false =>
    rw [findTag_of_not_regulated options h, findTag_of_not_regulated other h]
    cases r.optional.find? (·.matchesKey key) with
    | none => rfl
    | some c =>
      dsimp only
      split <;> split <;> rfl

/-- Ignoring optional tags leaves out the violations of tags that are neither excluded nor required. -/
theorem violationsOf_ignoring (strict : Bool) :
    (findTag ⟨strict, true⟩ r type key value).violationsOf =
      if r.regulates key then (findTag ⟨strict, false⟩ r type key value).violationsOf else [] := by
  cases h : r.regulates key with
  | true => rw [findTag_of_regulated ⟨strict, true⟩ ⟨strict, false⟩ h, if_pos rfl]
  | false =>
    rw [findTag_of_not_regulated _ h, if_neg Bool.false_ne_true]
    cases r.optional.find? (·.matchesKey key) with
    | none => rfl
    | some c => rfl

end

/-! ## All tags -/

section
variable (v : Validator) (resource : ResourceKey) (tags : OrderedMap Value) (options other : ValidationOptions)

/-- The result for a type of resource that the standard leaves alone. -/
theorem validate_of_isExcluded (h : v.isExcluded resource.type) :
    (v.withOptions options).validate resource tags = ⟨resource, true, [], [], [], []⟩ := by
  unfold validate
  exact if_pos h

theorem missing_withOptions : ((v.withOptions options).validate resource tags).missing =
    ((v.withOptions other).validate resource tags).missing := by
  cases h : v.isExcluded resource.type with
  | true => rw [v.validate_of_isExcluded resource tags _ h, v.validate_of_isExcluded resource tags _ h]
  | false =>
    have hregulated (o : ValidationOptions) : (v.withOptions o).isExcluded resource.type = false := h
    unfold validate
    rw [hregulated, hregulated]
    rfl

theorem extra_withOptions : ((v.withOptions options).validate resource tags).extra =
    ((v.withOptions other).validate resource tags).extra := by
  cases h : v.isExcluded resource.type with
  | true => rw [v.validate_of_isExcluded resource tags _ h, v.validate_of_isExcluded resource tags _ h]
  | false =>
    rw [extra_validate (v := v.withOptions options) h, extra_validate (v := v.withOptions other) h]
    congr 2
    funext e
    exact isExtra_findTag options other

/-- A strict check differs from one that is not in the verdict alone. -/
theorem validate_strict (ignoreOptional : Bool) :
    (v.withOptions ⟨true, ignoreOptional⟩).validate resource tags =
      { (v.withOptions ⟨false, ignoreOptional⟩).validate resource tags with
        compliant := ((v.withOptions ⟨true, ignoreOptional⟩).validate resource tags).compliant } := by
  cases h : v.isExcluded resource.type with
  | true => rw [v.validate_of_isExcluded resource tags _ h, v.validate_of_isExcluded resource tags _ h]
  | false =>
    have hregulated (o : ValidationOptions) : (v.withOptions o).isExcluded resource.type = false := h
    unfold validate
    rw [hregulated, hregulated]
    rfl

/-- Ignoring optional tags leaves out violations and keeps the order of the others. -/
theorem violations_ignoring (strict : Bool) :
    ((v.withOptions ⟨strict, true⟩).validate resource tags).violations =
      ((v.withOptions ⟨strict, false⟩).validate resource tags).violations.filter
        fun violation => (v.requirements resource.type).regulates violation.key := by
  cases h : v.isExcluded resource.type with
  | true =>
    rw [v.validate_of_isExcluded resource tags _ h, v.validate_of_isExcluded resource tags _ h]
    rfl
  | false =>
    rw [violations_validate (v := v.withOptions ⟨strict, true⟩) h,
      violations_validate (v := v.withOptions ⟨strict, false⟩) h, List.filter_flatMap]
    refine List.flatMap_congr fun e _ => ?_
    -- a violation of the tag has its key, so all of them are kept or none
    have hkey : ∀ violation ∈ ((v.withOptions ⟨strict, false⟩).finding resource.type e.1 e.2).violationsOf,
        violation.key = e.1 := fun _ hmem => key_of_mem_violationsOf hmem
    have hfinding : (findTag ⟨strict, true⟩ (v.requirements resource.type) resource.type e.1 e.2).violationsOf =
        if (v.requirements resource.type).regulates e.1 then
          (findTag ⟨strict, false⟩ (v.requirements resource.type) resource.type e.1 e.2).violationsOf
        else [] := violationsOf_ignoring strict
    cases hregulates : (v.requirements resource.type).regulates e.1 with
    | true =>
      rw [hregulates, if_pos rfl] at hfinding
      rw [List.filter_eq_self.mpr fun violation hmem => by rw [hkey violation hmem, hregulates]]
      exact hfinding
    | false =>
      rw [hregulates, if_neg Bool.false_ne_true] at hfinding
      refine hfinding.trans (List.filter_eq_nil_iff.mpr fun violation hmem => ?_).symm
      rw [hkey violation hmem, hregulates]
      exact Bool.false_ne_true

/-- What complies goes on to comply with options that raise no violations and are not stricter. -/
theorem compliant_withOptions (h : ((v.withOptions options).validate resource tags).compliant)
    (hviolations : ((v.withOptions options).validate resource tags).violations = [] →
      ((v.withOptions other).validate resource tags).violations = [])
    (hstrict : other.strict → options.strict) : ((v.withOptions other).validate resource tags).compliant := by
  cases hx : v.isExcluded resource.type with
  | true => rw [v.validate_of_isExcluded resource tags _ hx]
  | false =>
    obtain ⟨hm, hv, he⟩ := (compliant_validate (v := v.withOptions options) hx tags).mp h
    refine (compliant_validate (v := v.withOptions other) hx tags).mpr ⟨?_, hviolations hv, fun hs => ?_⟩
    · rw [v.missing_withOptions resource tags other options, hm]
    · rw [v.extra_withOptions resource tags other options, he (hstrict hs)]

end
end Validator

/-- The options of a check change only what they are for. All checks find the same tags missing and
    extra. A strict check has all from the one that is not but the verdict, and one that ignores
    optional tags reports the violations of the one that does not without those of tags that no spec
    in force excludes or requires. What complies in a strict check, or in one that does not ignore
    optional tags, complies in the other, too. -/
theorem options_confined {s : Standard} {options : ValidationOptions} {v : Validator}
    (h : Validator.ofStandard s options = .ok v) (resource : ResourceKey) (tags : OrderedMap Value) :
    let result (strict ignoreOptional : Bool) : ComplianceResult :=
      (v.withOptions ⟨strict, ignoreOptional⟩).validate resource tags
    (∀ strict ignoreOptional,
      Validator.ofStandard s ⟨strict, ignoreOptional⟩ = .ok (v.withOptions ⟨strict, ignoreOptional⟩) ∧
      (result strict ignoreOptional).missing = (result false false).missing ∧
      (result strict ignoreOptional).extra = (result false false).extra) ∧
    (∀ ignoreOptional,
      result true ignoreOptional =
        { result false ignoreOptional with compliant := (result true ignoreOptional).compliant } ∧
      ((result true ignoreOptional).compliant → (result false ignoreOptional).compliant)) ∧
    ∀ strict,
      (result strict true).violations = (result strict false).violations.filter
        (fun violation => (v.requirements resource.type).regulates violation.key) ∧
      ((result strict false).compliant → (result strict true).compliant) := by
  intro result
  refine ⟨fun strict ignoreOptional => ⟨Validator.ofStandard_withOptions h _,
      v.missing_withOptions resource tags _ _, v.extra_withOptions resource tags _ _⟩,
    fun ignoreOptional => ⟨v.validate_strict resource tags ignoreOptional, fun hcompliant => ?_⟩,
    fun strict => ⟨v.violations_ignoring resource tags strict, fun hcompliant => ?_⟩⟩
  · refine v.compliant_withOptions resource tags _ _ hcompliant (fun hnone => ?_) fun _ => rfl
    rw [v.validate_strict resource tags ignoreOptional] at hnone
    exact hnone
  · refine v.compliant_withOptions resource tags _ _ hcompliant (fun hnone => ?_) id
    rw [v.violations_ignoring resource tags strict, hnone, List.filter_nil]

def webInstance : ResourceKey := ⟨"aws_instance", "web", "main.tf"⟩

def webTags : OrderedMap Value := [("Env", .text "prod"), ("Owner", .unresolved "var.owner"), ("Team", .text "web")]

/-- The optional tag of the instance is a violation unless optional tags are ignored, and the unknown
    one is extra in all checks. -/
theorem options_confined_webInstance :
    Validator.ofStandard bucketStandard ⟨false, false⟩ = .ok bucketValidator ∧
      ((bucketValidator.withOptions ⟨false, false⟩).validate webInstance webTags).violations =
        [⟨"Owner", "var.owner", .unresolvable⟩] ∧
      ((bucketValidator.withOptions ⟨false, true⟩).validate webInstance webTags).violations = [] ∧
      ((bucketValidator.withOptions ⟨true, true⟩).validate webInstance webTags).extra = ["Team"] ∧
      ((bucketValidator.withOptions ⟨true, true⟩).validate webInstance webTags).violations = [] := by
  have hv : Validator.ofStandard bucketStandard ⟨false, false⟩ = .ok bucketValidator := rfl
  obtain ⟨hall, hstrict, hignoring⟩ := options_confined hv webInstance webTags
  have hviolations : ((bucketValidator.withOptions ⟨false, false⟩).validate webInstance webTags).violations =
      [⟨"Owner", "var.owner", .unresolvable⟩] := by decide +kernel
  have hextra : ((bucketValidator.withOptions ⟨false, false⟩).validate webInstance webTags).extra = ["Team"] := by
    decide +kernel
  have hnone : ((bucketValidator.withOptions ⟨false, true⟩).validate webInstance webTags).violations = [] := by
    rw [(hignoring false).1, hviolations]
    decide +kernel
  refine ⟨hv, hviolations, hnone, (hall true true).2.2.trans hextra, ?_⟩
  exact (congrArg ComplianceResult.violations (hstrict true).1).trans hnone

end TagAudit
