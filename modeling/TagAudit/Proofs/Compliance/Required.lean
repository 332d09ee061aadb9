/-
  TagAudit.Proofs.Compliance.Required — required tags are enforced, no more and no less.

  The required keys of a type are those of the specs that the standard requires everywhere, and
  those that the rules for the type require. Whatever the rules do to the specs in force, each of
  these keys has a required spec (`exists_required`) and each required spec is for one of them
  (`required_sound`), letter case aside.

  Proved: `missing_exact`: a required key that no tag has is missing, and what is missing is a
  required key that no tag has.
-/

import TagAudit.Proofs.Compliance.InForce

namespace TagAudit

open Text (sameLetters sameLetters_refl sameLetters_symm sameLetters_trans)

def Standard.requiredKeys (s : Standard) (type : String) : List String :=
  s.requiredTags.map (·.key) ++ (s.resourceRules.filter (·.appliesTo type)).flatMap (·.requiredTags)

namespace Validator

variable (v : Validator)

/-! ## Specs for required keys -/

theorem IsFor.mem_requiredKeys {v : Validator} {s : Standard} (h : v.IsFor s) {type key : String} :
    key ∈ s.requiredKeys type ↔
      (∃ c ∈ v.required, c.spec.key = key) ∨ ∃ rule ∈ v.rulesFor type, key ∈ rule.rule.requiredTags := by
  have hmap : (s.resourceRules.filter (·.appliesTo type)) = (v.rulesFor type).map (·.rule) := by
    rw [← h.rules, List.filter_map]
    rfl
  unfold Standard.requiredKeys
  rw [List.mem_append, ← h.required, hmap, List.map_map]
  simp only [List.mem_map, List.mem_flatMap, Function.comp_apply, exists_exists_and_eq_and]

/-- No change takes away the required spec for a key, but for another one in its place. -/
theorem exists_required_change (key : String) (ch : Change) (r : Requirements)
    (h : ∃ c ∈ r.required, sameLetters c.spec.key key) :
    ∃ c ∈ (v.change r ch).required, sameLetters c.spec.key key := by
  obtain ⟨c, hc, hkey⟩ := h
  cases ch with
  | require rule k =>
    refine ⟨c, ?_, hkey⟩
    unfold change
    rw [Requirements.required_require]
    exact List.mem_append_left _ hc
  | allow rule k =>
    refine ⟨c, ?_, hkey⟩
    unfold change
    rwa [Requirements.required_allow]
  | exclude rule k => exact ⟨c, hc, hkey⟩
  | replace new =>
    exact ⟨new.replacedBy c, List.mem_map_of_mem hc, sameLetters_trans (new.sameLetters_replacedBy c) hkey⟩

/-- A key that a rule requires has a required spec from then on. -/
theorem exists_required_require {rule : CompiledRule} {key : String} (hknown : (v.known? rule key).isSome)
    (r : Requirements) : ∃ c ∈ (v.change r (.require rule key)).required, sameLetters c.spec.key key := by
  unfold change
  rw [Requirements.required_require]
  split
  · rename_i hany
    obtain ⟨c, hc, hm⟩ := List.any_eq_true.mp hany
    exact ⟨c, List.mem_append_left _ hc, TagSpec.sameLetters_of_matchesKey hm⟩
  · obtain ⟨c, hc⟩ := Option.isSome_iff_exists.mp hknown
    rw [hc]
    exact ⟨c, List.mem_append_right _ (List.mem_singleton_self c),
      TagSpec.sameLetters_of_matchesKey (v.matchesKey_of_known hc)⟩

variable {v} {s : Standard}

/-- Every required key has a required spec in force. -/
theorem IsFor.exists_required (h : v.IsFor s) {type key : String} (hkey : key ∈ s.requiredKeys type) :
    ∃ c ∈ (v.requirements type).required, sameLetters c.spec.key key := by
  rcases h.mem_requiredKeys.mp hkey with ⟨c, hc, rfl⟩ | ⟨rule, hrule, hkey⟩
  · exact v.requirements_of_change ⟨c, hc, sameLetters_refl _⟩ fun _ _ ch _ => v.exists_required_change _ ch
  · have hknown : (v.known? rule key).isSome :=
      h.known rule (List.mem_filter.mp hrule).1 key (List.mem_append_left _ (List.mem_append_left _ hkey))
    exact v.requirements_of_mem hrule (require_mem_changes hkey) (v.exists_required_require hknown)
      (v.exists_required_change key)

/-- Every required spec in force is for a required key. -/
theorem IsFor.required_sound (h : v.IsFor s) {type : String} :
    ∀ c ∈ (v.requirements type).required, ∃ key ∈ s.requiredKeys type, sameLetters c.spec.key key := by
  refine v.requirements_of_change
    (P := fun r => ∀ c ∈ r.required, ∃ key ∈ s.requiredKeys type, sameLetters c.spec.key key) ?_ ?_
  · exact fun c hc => ⟨c.spec.key, h.mem_requiredKeys.mpr (.inl ⟨c, hc, rfl⟩), sameLetters_refl _⟩
  · intro rule hrule ch hch r ih c hc
    obtain ⟨key, hkey, rfl⟩ | ⟨key, -, rfl⟩ | ⟨key, -, rfl⟩ | ⟨new, -, rfl⟩ := mem_changes hch
    · unfold change at hc
      rw [Requirements.required_require] at hc
      rcases List.mem_append.mp hc with hc | hc
      · exact ih c hc
      · split at hc
        · contradiction
        · exact ⟨key, h.mem_requiredKeys.mpr (.inr ⟨rule, hrule, hkey⟩),
            TagSpec.sameLetters_of_matchesKey (v.matchesKey_of_known (Option.mem_toList.mp hc))⟩
    · unfold change at hc
      rw [Requirements.required_allow] at hc
      exact ih c hc
    · exact ih c hc
    · -- a spec in the place of one for a required key is for that key, too
      unfold change at hc
      rw [Requirements.required_replace] at hc
      obtain ⟨old, hold, rfl⟩ := List.mem_map.mp hc
      obtain ⟨key, hkey, hsame⟩ := ih old hold
      exact ⟨key, hkey, sameLetters_trans (new.sameLetters_replacedBy old) hsame⟩

/-! ## Missing tags -/

theorem IsFor.isExcluded_eq_false (h : v.IsFor s) {type : String} (ht : type ∉ s.globalExcludes) :
    v.isExcluded type = false := by
  unfold isExcluded
  rw [h.standard]
  simpa using ht

theorem mem_missing_iff {resource : ResourceKey} (h : v.isExcluded resource.type = false) {tags : OrderedMap Value}
    {key : String} : key ∈ (v.validate resource tags).missing ↔
      ∃ c ∈ (v.requirements resource.type).required, (∀ k ∈ tags.keys, ¬ c.matchesKey k) ∧ c.spec.key = key := by
  unfold validate missingSpecs
  simp only [h, Bool.false_eq_true, if_false, List.map_map, List.mem_map, List.mem_filter, Bool.not_eq_true',
    List.any_eq_false, Function.comp_apply, and_assoc]

end Validator

/-- A required key that no tag has is missing, and what is missing is a required key that no tag
    has. Letter case does not matter, except that a missing key is none of the tags' as it stands. -/
theorem missing_exact {s : Standard} {options : ValidationOptions} {v : Validator}
    (h : Validator.ofStandard s options = .ok v) {resource : ResourceKey}
    (hregulated : resource.type ∉ s.globalExcludes) (tags : OrderedMap Value) :
    (∀ key ∈ s.requiredKeys resource.type, (∀ k ∈ tags.keys, ¬ sameLetters k key) →
      ∃ missing ∈ (v.validate resource tags).missing, sameLetters missing key) ∧
      ∀ missing ∈ (v.validate resource tags).missing,
        (∃ key ∈ s.requiredKeys resource.type, sameLetters missing key) ∧ missing ∉ tags.keys := by
  have hfor := Validator.isFor_of_ofStandard h
  have hexcluded := hfor.isExcluded_eq_false hregulated
  constructor
  · intro key hkey hnone
    obtain ⟨c, hc, hsame⟩ := hfor.exists_required hkey
    refine ⟨c.spec.key, (Validator.mem_missing_iff hexcluded).mpr ⟨c, hc, fun k hk hm => hnone k hk ?_, rfl⟩, hsame⟩
    exact sameLetters_trans (sameLetters_symm (TagSpec.sameLetters_of_matchesKey hm)) hsame
  · intro missing hmissing
    obtain ⟨c, hc, hnone, rfl⟩ := (Validator.mem_missing_iff hexcluded).mp hmissing
    exact ⟨hfor.required_sound c hc, fun hk => hnone _ hk c.spec.matchesKey_self⟩

/-! ## A standard with a rule -/

def plainSpec (key : String) : TagSpec := ⟨key, "", [], none, none, none, none, false, none, []⟩

/-- Buckets have to say who owns them, which is optional elsewhere, and what data they hold. -/
def bucketRule : ResourceRule :=
  ⟨["aws_s3_*"], ["DATA", "owner"], [], ["Legacy"], [plainSpec "Data", plainSpec "legacy"]⟩

def bucketStandard : Standard :=
  { version := 1
    metadata := ⟨"", "", "", none⟩
    provider := .aws
    requiredTags := [plainSpec "Env"]
    optionalTags := [plainSpec "Owner"]
    globalExcludes := ["aws_route53_zone"]
    resourceRules := [bucketRule] }

def bucketValidator : Validator :=
  ⟨bucketStandard, ⟨false, false⟩, [⟨plainSpec "Env", none⟩], [⟨plainSpec "Owner", none⟩],
    [⟨bucketRule, [⟨plainSpec "Data", none⟩, ⟨plainSpec "legacy", none⟩]⟩]⟩

def logsBucket : ResourceKey := ⟨"aws_s3_bucket", "logs", "main.tf"⟩

/-- A bucket that only says its environment lacks both tags that the rule requires. -/
theorem missing_exact_bucketStandard :
    Validator.ofStandard bucketStandard ⟨false, false⟩ = .ok bucketValidator ∧
      (bucketValidator.validate logsBucket [("ENV", .text "prod")]).missing = ["Data", "Owner"] ∧
      (∃ missing ∈ (bucketValidator.validate logsBucket [("ENV", .text "prod")]).missing, sameLetters missing "DATA") ∧
      (∃ key ∈ bucketStandard.requiredKeys "aws_s3_bucket", sameLetters "Owner" key) ∧ "Owner" ∉ ["ENV"] := by
  have hregulated : logsBucket.type ∉ bucketStandard.globalExcludes := by decide +kernel
  have hexact := missing_exact (v := bucketValidator) rfl hregulated [("ENV", .text "prod")]
  exact ⟨rfl, by decide +kernel, hexact.1 "DATA" (by decide +kernel) (by decide +kernel),
    hexact.2 "Owner" (by decide +kernel)⟩

end TagAudit
