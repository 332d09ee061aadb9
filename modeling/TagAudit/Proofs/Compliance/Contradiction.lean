/-
  TagAudit.Proofs.Compliance.Contradiction — tags that are required and not allowed at once.

  A rule excludes the tags of the specs that it knows for its excluded keys (`Standard.Excludes`), and
  these are the tags that are not allowed (`IsFor.excludes_iff`, `notAllowed_iff`). An exclusion goes
  into a list of its own and takes no spec out of those required, so nothing keeps a required tag from
  being excluded, too.

  Proved: `contradiction_iff_excluded`: a tag is missing, and not allowed as soon as it is there, just
  if it is a missing one that a rule for the type excludes. `required_and_notAllowed`: a standard that
  makes sense and asks for a tag in this way.
-/

import TagAudit.Proofs.Compliance.Findings

namespace TagAudit

open Text (sameLetters)

namespace Standard

/-- The spec that a rule has for a key: its own, or else the declared one. -/
def specOf? (s : Standard) (rule : ResourceRule) (key : String) : Option TagSpec :=
  (rule.overrideTags ++ s.specs).find? (·.matchesKey key)

/-- A rule for the type excludes tags with the key. -/
def Excludes (s : Standard) (type key : String) : Prop :=
  ∃ rule ∈ s.resourceRules, rule.appliesTo type ∧
    ∃ excluded ∈ rule.excludedTags, ∃ spec, s.specOf? rule excluded = some spec ∧ spec.matchesKey key

end Standard

namespace Validator

variable {v : Validator} {s : Standard}

/-! ## Excluded specs -/

/-- No change takes away an excluded spec. -/
theorem mem_excluded_change (c : CompiledSpec) (ch : Change) (r : Requirements) (h : c ∈ r.excluded) :
    c ∈ (v.change r ch).excluded := by
  cases ch with
  | require rule k =>
    unfold change Requirements.require
    dsimp only
    split <;> exact h
  | allow rule k =>
    unfold change Requirements.allow
    dsimp only
    split <;> exact h
  | exclude rule k => exact List.mem_append_left _ h
  | replace new => exact h

/-- Only an exclusion adds an excluded spec, the one that its rule knows. -/
theorem mem_excluded_of_change {c : CompiledSpec} {ch : Change} {r : Requirements} (h : c ∈ (v.change r ch).excluded) :
    c ∈ r.excluded ∨ ∃ rule k, ch = .exclude rule k ∧ v.known? rule k = some c := by
  cases ch with
  | require rule k =>
    unfold change Requirements.require at h
    dsimp only at h
    split at h <;> exact .inl h
  | allow rule k =>
    unfold change Requirements.allow at h
    dsimp only at h
    split at h <;> exact .inl h
  | exclude rule k => exact (List.mem_append.mp h).imp_right fun hc => ⟨rule, k, rfl, Option.mem_toList.mp hc⟩
  | replace new => exact .inl h

/-- The excluded specs are those that the rules for the type know for their excluded keys. -/
theorem mem_excluded_iff {type : String} {c : CompiledSpec} : c ∈ (v.requirements type).excluded ↔
    ∃ rule ∈ v.rulesFor type, ∃ k ∈ rule.rule.excludedTags, v.known? rule k = some c := by
  constructor
  · intro hc
    have hall : ∀ c ∈ (v.requirements type).excluded,
        ∃ rule ∈ v.rulesFor type, ∃ k ∈ rule.rule.excludedTags, v.known? rule k = some c := by
      refine v.requirements_of_change (P := fun r => ∀ c ∈ r.excluded,
        ∃ rule ∈ v.rulesFor type, ∃ k ∈ rule.rule.excludedTags, v.known? rule k = some c) ?_ ?_
      · exact fun c hc => absurd hc List.not_mem_nil
      · intro rule hrule ch hch r ih c hc
        rcases mem_excluded_of_change hc with hold | ⟨rule', k, rfl, hknown⟩
        · exact ih c hold
        · obtain ⟨_, _, heq⟩ | ⟨_, _, heq⟩ | ⟨k', hk', heq⟩ | ⟨_, _, heq⟩ := mem_changes hch
          · contradiction
          · contradiction
          · obtain ⟨rfl, rfl⟩ := Change.exclude.inj heq
            exact ⟨rule', hrule, k, hk', hknown⟩
          · contradiction
    exact hall c hc
  · rintro ⟨rule, hrule, k, hk, hknown⟩
    have hch : Change.exclude rule k ∈ rule.changes := by
      unfold CompiledRule.changes
      simp [hk]
    refine v.requirements_of_mem (P := fun r => c ∈ r.excluded) hrule hch (fun r => ?_) fun ch r hr =>
      mem_excluded_change c ch r hr
    exact List.mem_append_right _ (Option.mem_toList.mpr hknown)

theorem IsFor.map_spec_known? (h : v.IsFor s) {rule : CompiledRule} (hrule : rule ∈ v.rules) (key : String) :
    (v.known? rule key).map (·.spec) = s.specOf? rule.rule key := by
  unfold known? Standard.specOf? Standard.specs
  rw [← h.overrides rule hrule, ← h.required, ← h.optional, ← List.map_append, ← List.map_append, List.find?_map,
    List.append_assoc]
  rfl

/-- A key is excluded by the standard just if a spec for it is excluded. -/
theorem IsFor.excludes_iff (h : v.IsFor s) {type key : String} :
    s.Excludes type key ↔ ∃ c ∈ (v.requirements type).excluded, c.matchesKey key := by
  constructor
  · rintro ⟨r, hr, hfor, k, hk, spec, hspec, hm⟩
    rw [← h.rules] at hr
    obtain ⟨rule, hrule, rfl⟩ := List.mem_map.mp hr
    rw [← h.map_spec_known? hrule] at hspec
    obtain ⟨c, hc, rfl⟩ := Option.map_eq_some_iff.mp hspec
    exact ⟨c, mem_excluded_iff.mpr ⟨rule, List.mem_filter.mpr ⟨hrule, hfor⟩, k, hk, hc⟩, hm⟩
  · rintro ⟨c, hc, hm⟩
    obtain ⟨rule, hrule, k, hk, hknown⟩ := mem_excluded_iff.mp hc
    obtain ⟨hrule, hfor⟩ := List.mem_filter.mp hrule
    have hspec := h.map_spec_known? hrule k
    rw [hknown] at hspec
    exact ⟨rule.rule, h.rules ▸ List.mem_map_of_mem hrule, hfor, k, hk, c.spec, hspec.symm, hm⟩

/-! ## Tags that are not allowed -/

theorem kind_of_mem_checkTag {c : CompiledSpec} {key : String} {value : Value} {violation : Violation}
    (h : violation ∈ checkTag c key value) : violation.kind ≠ .notAllowed := by
  unfold checkTag at h
  split at h
  · rw [List.mem_singleton.mp h]
    simp [Violation.kind, Fault.kind]
  · split at h
    · rw [List.mem_singleton.mp h]
      simp [Violation.kind, Fault.kind]
    · obtain ⟨failure, -, rfl⟩ := List.mem_map.mp h
      cases failure <;> simp [Violation.kind, Fault.kind]

theorem notAllowed_iff {options : ValidationOptions} {r : Requirements} {type key : String} {value : Value} :
    (∃ violation ∈ (findTag options r type key value).violationsOf, violation.kind = .notAllowed) ↔
      ∃ c ∈ r.excluded, c.matchesKey key := by
  constructor
  · rintro ⟨violation, hmem, hkind⟩
    by_contra hnone
    have hexcluded : r.excluded.any (·.matchesKey key) = false := by simpa using hnone
    unfold findTag at hmem
    rw [hexcluded, if_neg Bool.false_ne_true] at hmem
    dsimp only at hmem
    split at hmem
    · exact kind_of_mem_checkTag hmem hkind
    · split at hmem
      · exact absurd hmem List.not_mem_nil
      · exact kind_of_mem_checkTag hmem hkind
    · exact absurd hmem List.not_mem_nil
  · intro hexcluded
    rw [findTag_notAllowed hexcluded]
    exact ⟨_, List.mem_singleton_self _, rfl⟩

end Validator

/-- A tag is missing, and not allowed once it is added, just if it is missing and a rule for the type
    excludes it. Then it is a required one, so nothing contradicts itself where the rules exclude no
    tag that is required. -/
theorem contradiction_iff_excluded {s : Standard} {options : ValidationOptions} {v : Validator}
    (h : Validator.ofStandard s options = .ok v) {resource : ResourceKey} {tags : OrderedMap Value}
    (hn : tags.keys.Nodup) (key : String) (value : Value) :
    (key ∈ (v.validate resource tags).missing ∧
        ∃ violation ∈ (v.validate resource (tags.insert key value)).violationsOf key, violation.kind = .notAllowed) ↔
      key ∈ (v.validate resource tags).missing ∧ s.Excludes resource.type key ∧
        ∃ required ∈ s.requiredKeys resource.type, sameLetters key required := by
  have hfor := Validator.isFor_of_ofStandard h
  refine and_congr_right fun hmissing => ?_
  have hregulated : v.isExcluded resource.type = false := by
    -- nothing is missing where the standard leaves the type alone
    cases hx : v.isExcluded resource.type with
    | false => rfl
    | true =>
      unfold Validator.validate at hmissing
      rw [if_pos hx] at hmissing
      exact absurd hmissing List.not_mem_nil
  obtain ⟨c, hc, -, rfl⟩ := (Validator.mem_missing_iff hregulated).mp hmissing
  have hadded : (c.spec.key, value) ∈ tags.insert c.spec.key value := OrderedMap.mem_of_get? (by simp)
  rw [Validator.violationsOf_validate hregulated (OrderedMap.nodup_keys_insert hn _ _) hadded, Validator.finding,
    Validator.notAllowed_iff, ← hfor.excludes_iff]
  exact (and_iff_left (hfor.required_sound c hc)).symm

/-! ## A standard that contradicts itself -/

def sharedRule : ResourceRule := ⟨["aws_s3_*"], [], [], ["Env"], []⟩

def sharedStandard : Standard := { bucketStandard with optionalTags := [], resourceRules := [sharedRule] }

def sharedValidator : Validator :=
  ⟨sharedStandard, ⟨false, false⟩, [⟨plainSpec "Env", none⟩], [], [⟨sharedRule, []⟩]⟩

/-- The environment of a bucket is missing, and not allowed when it is there. -/
theorem contradiction_iff_excluded_sharedStandard :
    Validator.ofStandard sharedStandard ⟨false, false⟩ = .ok sharedValidator ∧
      "Env" ∈ (sharedValidator.validate logsBucket []).missing ∧ sharedStandard.Excludes "aws_s3_bucket" "Env" ∧
      ∃ violation ∈ (sharedValidator.validate logsBucket (OrderedMap.insert [] "Env" (.text "prod"))).violationsOf "Env",
        violation.kind = .notAllowed := by
  have hv : Validator.ofStandard sharedStandard ⟨false, false⟩ = .ok sharedValidator := rfl
  have hmissing : "Env" ∈ (sharedValidator.validate logsBucket []).missing := by decide +kernel
  have hexcludes : sharedStandard.Excludes "aws_s3_bucket" "Env" :=
    ⟨sharedRule, List.mem_singleton_self _, by decide +kernel, "Env", List.mem_singleton_self _, plainSpec "Env", rfl, by
      decide +kernel⟩
  have hrequired : ∃ required ∈ sharedStandard.requiredKeys logsBucket.type, sameLetters "Env" required :=
    ⟨"Env", by decide +kernel, by decide +kernel⟩
  have hnodup : (OrderedMap.empty : OrderedMap Value).keys.Nodup := List.nodup_nil
  have hboth := (contradiction_iff_excluded hv hnodup "Env" (.text "prod")).mpr ⟨hmissing, hexcludes, hrequired⟩
  exact ⟨hv, hmissing, hexcludes, hboth.2⟩

/-- No tags of a bucket comply: without its environment they lack a required tag, and with it they have
    one that is not allowed. -/
theorem required_and_notAllowed :
    sharedStandard.check = .ok () ∧ Validator.ofStandard sharedStandard ⟨false, false⟩ = .ok sharedValidator ∧
      (sharedValidator.validate logsBucket []).missing = ["Env"] ∧
      ((sharedValidator.validate logsBucket [("Env", .text "prod")]).violations.map fun violation =>
        (violation.key, violation.kind)) = [("Env", .notAllowed)] :=
  ⟨rfl, rfl, by decide +kernel, by decide +kernel⟩

end TagAudit
