/-
  TagAudit.Proofs.Compliance.Findings — what is found of each tag of a resource.

  A tag is not allowed, unknown, or checked against a spec, and what is found of it depends on its
  key and value alone (`Validator.finding`). The result for all tags puts these findings one after
  the other, so the part of it that is about one key is the finding of that tag (`about_validate`),
  whatever other tags there are.

  Proved: `tags_settled`: each tag is settled by the specs in force in one of these ways, violations
  and extra tags follow the order of the tags, and the verdict counts missing tags, violations and
  in a strict check extra tags.
-/

import Mathlib.Data.List.Basic
import Mathlib.Data.List.Nodup
import TagAudit.Proofs.Compliance.Required

namespace TagAudit

namespace Validator

/-- What is found of a tag on a resource of some type. -/
def finding (v : Validator) (type key : String) (value : Value) : TagFinding :=
  findTag v.options (v.requirements type) type key value

end Validator

namespace ComplianceResult

def violationsOf (res : ComplianceResult) (key : String) : List Violation := res.violations.filter (·.key = key)

/-- What a result says of the tag with a key: its violations, how often it is extra, and what can be done about it. -/
def about (res : ComplianceResult) (key : String) : List Violation × Nat × List SuggestedFix :=
  (res.violationsOf key, res.extra.count key, res.fixes.filter (·.key = key))

/-- A result says of a tag what the specs in force make of it: it is not allowed, or unknown to them,
    or checked against one of them. -/
structure Settles (res : ComplianceResult) (options : ValidationOptions) (r : Requirements) (key : String)
    (value : Value) : Prop where
  notAllowed : (∃ c ∈ r.excluded, c.matchesKey key) →
    (∃ violation, res.violationsOf key = [violation] ∧ violation.kind = .notAllowed) ∧ key ∉ res.extra
  unknown : (∀ c ∈ r.excluded ++ r.required ++ r.optional, ¬ c.matchesKey key) →
    res.extra.count key = 1 ∧ res.violationsOf key = []
  checked : ∀ c, (∀ e ∈ r.excluded, ¬ e.matchesKey key) → r.specFor? key = some c → key ∉ res.extra ∧
    res.violationsOf key =
      if options.ignoreOptional && !r.required.any (·.matchesKey key) then [] else Validator.checkTag c key value

end ComplianceResult

/-! ## Findings of one tag -/

namespace Validator

theorem key_of_mem_checkTag {c : CompiledSpec} {key : String} {value : Value} {violation : Violation}
    (h : violation ∈ checkTag c key value) : violation.key = key := by
  unfold checkTag at h
  split at h
  · rw [List.mem_singleton.mp h]
  · split at h
    · rw [List.mem_singleton.mp h]
    · obtain ⟨failure, -, rfl⟩ := List.mem_map.mp h
      rfl

theorem key_of_suggestFix? {s : TagSpec} {violation : Violation} {fix : SuggestedFix}
    (h : suggestFix? s violation = some fix) : fix.key = violation.key := by
  unfold suggestFix? at h
  split at h
  · contradiction
  · contradiction
  · rw [← Option.some.inj h]

variable {options : ValidationOptions} {r : Requirements} {type key : String} {value : Value}

theorem findTag_notAllowed (h : ∃ c ∈ r.excluded, c.matchesKey key) :
    findTag options r type key value = .violations [⟨key, valueText value, .notAllowed type⟩]
      [⟨key, some (valueText value), none, .remove, (Fault.notAllowed type).message key (valueText value)⟩] := by
  unfold findTag
  rw [if_pos (List.any_eq_true.mpr h)]
  rfl

theorem findTag_unknown (h : ∀ c ∈ r.excluded ++ r.required ++ r.optional, ¬ c.matchesKey key) :
    findTag options r type key value = .extra := by
  simp only [List.mem_append, or_imp, forall_and] at h
  obtain ⟨⟨hexcluded, hrequired⟩, hoptional⟩ := h
  unfold findTag
  rw [if_neg (by simpa using hexcluded), List.find?_eq_none.mpr hrequired, List.find?_eq_none.mpr hoptional]

theorem findTag_checked {c : CompiledSpec} (he : ∀ e ∈ r.excluded, ¬ e.matchesKey key) (hc : r.specFor? key = some c) :
    findTag options r type key value =
      if options.ignoreOptional && !r.required.any (·.matchesKey key) then .violations [] []
      else .violations (checkTag c key value) ((checkTag c key value).filterMap (suggestFix? c.spec)) := by
  unfold findTag
  rw [if_neg (by simpa using he), ← List.isSome_find?]
  rcases Option.or_eq_some_iff.mp hc with hrequired | ⟨hnone, hoptional⟩
  · rw [hrequired, Option.isSome_some, Bool.not_true, Bool.and_false]
    rfl
  · rw [hnone, hoptional, Option.isSome_none, Bool.not_false, Bool.and_true]

/-! ## Findings of all tags -/

theorem key_of_mem_violationsOf {violation : Violation}
    (h : violation ∈ (findTag options r type key value).violationsOf) : violation.key = key := by
  unfold findTag at h
  split at h
  · rw [List.mem_singleton.mp h]
  · dsimp only at h
    split at h
    · exact key_of_mem_checkTag h
    · split at h
      · contradiction
      · exact key_of_mem_checkTag h
    · contradiction

theorem key_of_mem_fixes {c : CompiledSpec} {fix : SuggestedFix}
    (h : fix ∈ (checkTag c key value).filterMap (suggestFix? c.spec)) : fix.key = key := by
  obtain ⟨violation, hviolation, hfix⟩ := List.mem_filterMap.mp h
  rw [key_of_suggestFix? hfix, key_of_mem_checkTag hviolation]

theorem key_of_mem_fixesOf {fix : SuggestedFix}
    (h : fix ∈ (findTag options r type key value).fixesOf key value) : fix.key = key := by
  unfold findTag at h
  split at h
  · rw [List.mem_singleton.mp h]
  · dsimp only at h
    split at h
    · exact key_of_mem_fixes h
    · split at h
      · contradiction
      · exact key_of_mem_fixes h
    · rw [List.mem_singleton.mp h]

variable {v : Validator} {resource : ResourceKey} (h : v.isExcluded resource.type = false)
include h

theorem violations_validate (tags : OrderedMap Value) : (v.validate resource tags).violations =
    tags.flatMap fun e => (v.finding resource.type e.1 e.2).violationsOf := by
  unfold validate
  rw [h, if_neg Bool.false_ne_true]
  dsimp only
  rw [List.flatMap_map]
  rfl

theorem extra_validate (tags : OrderedMap Value) : (v.validate resource tags).extra =
    OrderedMap.keys (tags.filter fun e => (v.finding resource.type e.1 e.2).isExtra) := by
  unfold validate
  rw [h, if_neg Bool.false_ne_true]
  dsimp only
  rw [List.filter_map, List.map_map]
  rfl

theorem fixes_validate (tags : OrderedMap Value) : (v.validate resource tags).fixes =
    (missingSpecs (v.requirements resource.type) tags).map addMissing ++
      tags.flatMap fun e => (v.finding resource.type e.1 e.2).fixesOf e.1 e.2 := by
  unfold validate
  rw [h, if_neg Bool.false_ne_true]
  dsimp only
  rw [List.flatMap_map]
  rfl

theorem compliant_validate (tags : OrderedMap Value) : (v.validate resource tags).compliant = true ↔
    (v.validate resource tags).missing = [] ∧ (v.validate resource tags).violations = [] ∧
      (v.options.strict = true → (v.validate resource tags).extra = []) := by
  unfold validate
  rw [h, if_neg Bool.false_ne_true]
  simp [and_assoc, imp_iff_not_or]

variable {tags : OrderedMap Value} (hn : tags.keys.Nodup)
include hn

theorem violationsOf_validate {key : String} {value : Value} (hmem : (key, value) ∈ tags) :
    (v.validate resource tags).violationsOf key = (v.finding resource.type key value).violationsOf := by
  unfold ComplianceResult.violationsOf
  rw [violations_validate h]
  exact OrderedMap.filter_flatMap_of_mem (fun _ _ => key_of_mem_violationsOf) hn hmem

theorem mem_extra_validate {key : String} {value : Value} (hmem : (key, value) ∈ tags) :
    key ∈ (v.validate resource tags).extra ↔ (v.finding resource.type key value).isExtra := by
  rw [extra_validate h]
  refine ⟨fun hkey => ?_, fun hextra => List.mem_map_of_mem (List.mem_filter.mpr ⟨hmem, hextra⟩)⟩
  obtain ⟨e, he, hek⟩ := List.mem_map.mp hkey
  obtain ⟨he, hextra⟩ := List.mem_filter.mp he
  obtain rfl := List.inj_on_of_nodup_map hn he hmem hek
  exact hextra

theorem count_extra_validate {key : String} {value : Value} (hmem : (key, value) ∈ tags) :
    (v.validate resource tags).extra.count key = (v.finding resource.type key value).isExtra.toNat := by
  have hnodup : (v.validate resource tags).extra.Nodup := by
    rw [extra_validate h]
    exact hn.sublist (List.filter_sublist.map Prod.fst)
  rw [List.Nodup.count hnodup]
  cases hextra : (v.finding resource.type key value).isExtra with
  | true => exact if_pos ((mem_extra_validate h hn hmem).mpr hextra)
  | false => exact if_neg fun hkey => Bool.eq_false_iff.mp hextra ((mem_extra_validate h hn hmem).mp hkey)

theorem fixes_filter_validate {key : String} {value : Value} (hmem : (key, value) ∈ tags) :
    (v.validate resource tags).fixes.filter (·.key = key) = (v.finding resource.type key value).fixesOf key value := by
  have hmissing : ((missingSpecs (v.requirements resource.type) tags).map addMissing).filter (·.key = key) = [] := by
    -- a tag that is there is not missing
    refine List.filter_eq_nil_iff.mpr fun fix hfix hkey => ?_
    obtain ⟨s, hs, rfl⟩ := List.mem_map.mp hfix
    obtain ⟨c, hc, rfl⟩ := List.mem_map.mp hs
    have hnone : ∀ k ∈ tags.keys, ¬ c.matchesKey k := by simpa using (List.mem_filter.mp hc).2
    exact hnone key (List.mem_map_of_mem hmem) (of_decide_eq_true hkey ▸ c.spec.matchesKey_self)
  rw [fixes_validate h, List.filter_append, hmissing, List.nil_append]
  exact OrderedMap.filter_flatMap_of_mem (fun _ _ => key_of_mem_fixesOf) hn hmem

/-- What a result says of a tag is what is found of it, whatever other tags there are. -/
theorem about_validate {key : String} {value : Value} (hmem : (key, value) ∈ tags) :
    (v.validate resource tags).about key =
      ((v.finding resource.type key value).violationsOf, (v.finding resource.type key value).isExtra.toNat,
        (v.finding resource.type key value).fixesOf key value) := by
  unfold ComplianceResult.about
  rw [violationsOf_validate h hn hmem, count_extra_validate h hn hmem, fixes_filter_validate h hn hmem]

theorem settles_validate {key : String} {value : Value} (hmem : (key, value) ∈ tags) :
    (v.validate resource tags).Settles v.options (v.requirements resource.type) key value where
  notAllowed hexcluded := by
    rw [violationsOf_validate h hn hmem, mem_extra_validate h hn hmem, finding, findTag_notAllowed hexcluded]
    exact ⟨⟨_, rfl, rfl⟩, Bool.false_ne_true⟩
  unknown hnone := by
    rw [violationsOf_validate h hn hmem, count_extra_validate h hn hmem, finding, findTag_unknown hnone]
    exact ⟨rfl, rfl⟩
  checked c hexcluded hc := by
    rw [violationsOf_validate h hn hmem, mem_extra_validate h hn hmem, finding, findTag_checked hexcluded hc]
    split
    · exact ⟨Bool.false_ne_true, rfl⟩
    · exact ⟨Bool.false_ne_true, rfl⟩

end Validator

/-- Each tag is settled by the specs in force: it is not allowed, unknown, or checked against one
    spec. Violations and extra tags stand in the order of the tags, what is said of a tag depends on
    its key and value alone, and a resource complies if nothing is missing or violated, and nothing
    is extra in a strict check. -/
theorem tags_settled {v : Validator} {resource : ResourceKey} (h : v.isExcluded resource.type = false)
    {tags : OrderedMap Value} (hn : tags.keys.Nodup) :
    (∀ key value, (key, value) ∈ tags →
      (v.validate resource tags).Settles v.options (v.requirements resource.type) key value) ∧
    (v.validate resource tags).violations = tags.flatMap (fun e => (v.validate resource tags).violationsOf e.1) ∧
    (v.validate resource tags).extra.Sublist tags.keys ∧
    (∀ others : OrderedMap Value, others.keys.Nodup → ∀ key value, (key, value) ∈ tags → (key, value) ∈ others →
      (v.validate resource tags).about key = (v.validate resource others).about key) ∧
    ((v.validate resource tags).compliant = true ↔
      (v.validate resource tags).missing = [] ∧ (v.validate resource tags).violations = [] ∧
        (v.options.strict = true → (v.validate resource tags).extra = [])) := by
  refine ⟨fun key value hmem => Validator.settles_validate h hn hmem, ?_, ?_, ?_, Validator.compliant_validate h tags⟩
  · rw [Validator.violations_validate h]
    refine List.flatMap_congr fun e he => ?_
    exact (Validator.violationsOf_validate h hn he).symm
  · rw [Validator.extra_validate h]
    exact List.filter_sublist.map Prod.fst
  · intro others hothers key value hmem hmem'
    rw [Validator.about_validate h hn hmem, Validator.about_validate h hothers hmem']

def bucketTags : OrderedMap Value :=
  [("LEGACY", .text "yes"), ("Team", .text "web"), ("data", .unresolved "var.data"), ("Env", .text "prod")]

/-- Each tag of the bucket is settled in a way of its own. -/
theorem tags_settled_bucketTags :
    bucketValidator.isExcluded logsBucket.type = false ∧ bucketTags.keys.Nodup ∧
      (∃ violation, (bucketValidator.validate logsBucket bucketTags).violationsOf "LEGACY" = [violation] ∧
        violation.kind = .notAllowed) ∧
      (bucketValidator.validate logsBucket bucketTags).extra.count "Team" = 1 ∧
      (bucketValidator.validate logsBucket bucketTags).violationsOf "data" = [⟨"data", "var.data", .unresolvable⟩] ∧
      (bucketValidator.validate logsBucket bucketTags).about "Team" =
        (bucketValidator.validate logsBucket [("Team", .text "web")]).about "Team" ∧
      (bucketValidator.validate logsBucket bucketTags).compliant = false := by
  have hregulated : bucketValidator.isExcluded logsBucket.type = false := by decide +kernel
  have hnodup : bucketTags.keys.Nodup := by decide +kernel
  obtain ⟨hsettles, -, -, habout, hcompliant⟩ := tags_settled hregulated hnodup
  have hlegacy := hsettles "LEGACY" (.text "yes") (by decide +kernel)
  have hteam := hsettles "Team" (.text "web") (by decide +kernel)
  have hdata := hsettles "data" (.unresolved "var.data") (by decide +kernel)
  refine ⟨hregulated, hnodup, (hlegacy.notAllowed (by decide +kernel)).1, (hteam.unknown (by decide +kernel)).1,
    (hdata.checked ⟨plainSpec "Data", none⟩ (by decide +kernel) rfl).2, ?_, ?_⟩
  · exact habout [("Team", .text "web")] (by decide +kernel) "Team" (.text "web") (by decide +kernel)
      (by decide +kernel)
  · exact Bool.eq_false_iff.mpr fun hc => absurd (hcompliant.mp hc).2.1 (by decide +kernel)

end TagAudit
