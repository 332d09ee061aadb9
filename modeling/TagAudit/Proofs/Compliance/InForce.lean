/-
  TagAudit.Proofs.Compliance.InForce — the specs in force for a type of resource.

  The rules for a type change the specs of a standard one after the other, and each rule is a list
  of single changes (`CompiledRule.changes`): it makes tags required, allows and excludes others,
  and puts its own specs in the place of those with their keys. So the specs in force are what a
  list of changes makes of those declared (`requirements_eq`), and what each change keeps holds of
  them (`requirements_of_change`).

  Proved besides: `isFor_of_ofStandard`: a validator has the specs and rules of the standard that it
  was made for, and knows a spec for every key that a rule speaks of.
-/

import TagAudit.Compliance.Validator
import TagAudit.Proofs.Hcl.Identifiers

namespace TagAudit

open Hcl (ok_of_do)

def ResourceRule.appliesTo (r : ResourceRule) (type : String) : Bool := r.resourceTypes.any (Glob.isMatch · type)

/-- A change to the specs in force. A rule makes those about keys out of what it knows of them. -/
inductive Change where
  | require (rule : CompiledRule) (key : String)
  | allow (rule : CompiledRule) (key : String)
  | exclude (rule : CompiledRule) (key : String)
  | replace (new : CompiledSpec)

def Change.key : Change → String
  | .require _ key => key
  | .allow _ key => key
  | .exclude _ key => key
  | .replace new => new.spec.key

def CompiledRule.changes (rule : CompiledRule) : List Change :=
  rule.rule.requiredTags.map (Change.require rule) ++ rule.rule.optionalTags.map (Change.allow rule) ++
    rule.rule.excludedTags.map (Change.exclude rule) ++ rule.overrides.map Change.replace

/-- The spec that a tag is checked against unless it is excluded: the first required one for its key,
    or else the first optional one. -/
def Requirements.specFor? (r : Requirements) (key : String) : Option CompiledSpec :=
  (r.required.find? (·.matchesKey key)).or (r.optional.find? (·.matchesKey key))

namespace Validator

def declared (v : Validator) : Requirements := ⟨v.required, v.optional, []⟩

def rulesFor (v : Validator) (type : String) : List CompiledRule := v.rules.filter (·.matchesType type)

/-- What a rule knows of a key: its own spec, or else the declared one. -/
def known? (v : Validator) (rule : CompiledRule) (key : String) : Option CompiledSpec :=
  (rule.overrides ++ v.required ++ v.optional).find? (·.matchesKey key)

def change (v : Validator) (r : Requirements) : Change → Requirements
  | .require rule key => r.require (v.known? rule) key
  | .allow rule key => r.allow (v.known? rule) key
  | .exclude rule key => r.exclude (v.known? rule) key
  | .replace new => r.replace new

end Validator

/-! ## Single changes -/

/-- The spec that stands in a place after `new` was put in the place of those with its key. -/
def CompiledSpec.replacedBy (new c : CompiledSpec) : CompiledSpec := if c.matchesKey new.spec.key then new else c

/-- A spec is only replaced by one whose key has the same letters. -/
theorem CompiledSpec.sameLetters_replacedBy (new c : CompiledSpec) :
    Text.sameLetters (new.replacedBy c).spec.key c.spec.key := by
  unfold replacedBy
  split
  · rename_i hm
    exact Text.sameLetters_symm (TagSpec.sameLetters_of_matchesKey hm)
  · exact Text.sameLetters_refl _

namespace Requirements

variable (spec? : String → Option CompiledSpec) (r : Requirements) (key : String)

theorem required_require : (r.require spec? key).required =
    r.required ++ if r.required.any (·.matchesKey key) then [] else (spec? key).toList := by
  unfold require
  dsimp only
  split
  · exact (List.append_nil _).symm
  · rfl

theorem optional_require : (r.require spec? key).optional = r.optional.filter (!·.matchesKey key) := by
  unfold require
  dsimp only
  split <;> rfl

theorem required_allow : (r.allow spec? key).required = r.required := by
  unfold allow
  split <;> rfl

theorem optional_allow : (r.allow spec? key).optional =
    r.optional ++ if (r.required ++ r.optional).any (·.matchesKey key) then [] else (spec? key).toList := by
  unfold allow
  split
  · exact (List.append_nil _).symm
  · rfl

@[simp] theorem required_replace (new : CompiledSpec) : (r.replace new).required = r.required.map new.replacedBy := rfl

@[simp] theorem optional_replace (new : CompiledSpec) : (r.replace new).optional = r.optional.map new.replacedBy := rfl

end Requirements

theorem mem_changes {rule : CompiledRule} {ch : Change} (h : ch ∈ rule.changes) :
    (∃ key ∈ rule.rule.requiredTags, ch = .require rule key) ∨ (∃ key ∈ rule.rule.optionalTags, ch = .allow rule key) ∨
      (∃ key ∈ rule.rule.excludedTags, ch = .exclude rule key) ∨ ∃ new ∈ rule.overrides, ch = .replace new := by
  unfold CompiledRule.changes at h
  simpa only [List.mem_append, List.mem_map, or_assoc, eq_comm] using h

theorem require_mem_changes {rule : CompiledRule} {key : String} (h : key ∈ rule.rule.requiredTags) :
    .require rule key ∈ rule.changes := by
  unfold CompiledRule.changes
  simp [h]

namespace Validator

variable (v : Validator)

theorem matchesKey_of_known {rule : CompiledRule} {key : String} {c : CompiledSpec} (h : v.known? rule key = some c) :
    c.matchesKey key :=
  List.find?_some (p := fun c : CompiledSpec => c.matchesKey key) h

theorem applyRule_eq (r : Requirements) (rule : CompiledRule) : v.applyRule r rule = rule.changes.foldl v.change r := by
  unfold applyRule CompiledRule.changes
  simp only [List.foldl_append, List.foldl_map]
  rfl

/-- The specs in force are what the changes of the rules make of the declared ones. -/
theorem requirements_eq (type : String) :
    v.requirements type = ((v.rulesFor type).flatMap CompiledRule.changes).foldl v.change v.declared := by
  unfold requirements
  rw [funext₂ v.applyRule_eq, List.foldl_flatMap]
  rfl

/-- What the changes of the rules keep holds of the specs in force if it holds of the declared ones. -/
theorem requirements_of_change {type : String} {P : Requirements → Prop} (hdeclared : P v.declared)
    (hchange : ∀ rule ∈ v.rulesFor type, ∀ ch ∈ rule.changes, ∀ r, P r → P (v.change r ch)) :
    P (v.requirements type) := by
  rw [requirements_eq]
  refine List.foldlRecOn _ _ hdeclared fun r hr ch hch => ?_
  obtain ⟨rule, hrule, hch⟩ := List.mem_flatMap.mp hch
  exact hchange rule hrule ch hch r hr

/-- What a change brings about, and all changes keep, holds of the specs in force. -/
theorem requirements_of_mem {type : String} {P : Requirements → Prop} {rule : CompiledRule} {ch : Change}
    (hrule : rule ∈ v.rulesFor type) (hch : ch ∈ rule.changes) (hmake : ∀ r, P (v.change r ch))
    (hkeep : ∀ ch r, P r → P (v.change r ch)) : P (v.requirements type) := by
  rw [requirements_eq]
  obtain ⟨before, after, hsplit⟩ := List.append_of_mem (List.mem_flatMap.mpr ⟨rule, hrule, hch⟩)
  rw [hsplit, List.foldl_append, List.foldl_cons]
  exact List.foldlRecOn _ _ (hmake _) fun r hr ch _ => hkeep ch r hr

end Validator

/-! ## The standard that a validator is for -/

/-- A validator has the specs and rules of a standard, and its rules know the keys that they speak of. -/
structure Validator.IsFor (v : Validator) (s : Standard) : Prop where
  standard : v.standard = s
  required : v.required.map (·.spec) = s.requiredTags
  optional : v.optional.map (·.spec) = s.optionalTags
  rules : v.rules.map (·.rule) = s.resourceRules
  overrides : ∀ rule ∈ v.rules, rule.overrides.map (·.spec) = rule.rule.overrideTags
  known : ∀ rule ∈ v.rules, ∀ key ∈ rule.rule.requiredTags ++ rule.rule.optionalTags ++ rule.rule.excludedTags,
    (v.known? rule key).isSome

theorem CompiledSpec.spec_of_ofSpec {s : TagSpec} {c : CompiledSpec} (h : ofSpec s = .ok c) : c.spec = s := by
  unfold ofSpec at h
  split at h
  · rw [← Except.ok.inj h]
  · split at h
    · rw [← Except.ok.inj h]
    · contradiction

theorem CompiledSpec.map_spec_of_ofSpecs {ss : List TagSpec} {cs : List CompiledSpec} (h : ofSpecs ss = .ok cs) :
    cs.map (·.spec) = ss := by
  induction ss generalizing cs with
  | nil =>
    obtain rfl := Except.ok.inj h
    rfl
  | cons s ss ih =>
    obtain ⟨c, hc, h⟩ := ok_of_do h
    obtain ⟨rest, hrest, h⟩ := ok_of_do h
    obtain rfl := Except.ok.inj h
    rw [List.map_cons, spec_of_ofSpec hc, ih hrest]

theorem CompiledRule.map_rule_of_ofRules {rs : List ResourceRule} {crs : List CompiledRule} (h : ofRules rs = .ok crs) :
    crs.map (·.rule) = rs ∧ ∀ rule ∈ crs, rule.overrides.map (·.spec) = rule.rule.overrideTags := by
  induction rs generalizing crs with
  | nil =>
    obtain rfl := Except.ok.inj h
    exact ⟨rfl, fun _ h => absurd h List.not_mem_nil⟩
  | cons r rs ih =>
    obtain ⟨overrides, hoverrides, h⟩ := ok_of_do h
    obtain ⟨rest, hrest, h⟩ := ok_of_do h
    obtain rfl := Except.ok.inj h
    obtain ⟨hrules, hspecs⟩ := ih hrest
    have hhead : overrides.map (·.spec) = r.overrideTags := CompiledSpec.map_spec_of_ofSpecs hoverrides
    exact ⟨by rw [List.map_cons, hrules], List.forall_mem_cons.mpr ⟨hhead, hspecs⟩⟩

namespace Standard

/-- Rules that make sense speak of keys that the standard declares or that they have specs for. -/
theorem known_of_checkRule {s : Standard} {index : Nat} {r : ResourceRule} (h : s.checkRule index r = .ok ()) :
    ∀ key ∈ r.requiredTags ++ r.optionalTags ++ r.excludedTags,
      (s.findSpec? key).isSome || r.overrideTags.any (·.matchesKey key) := by
  unfold checkRule at h
  split at h
  · contradiction
  · dsimp only at h
    split at h
    · contradiction
    · rename_i hknown
      intro key hkey
      simpa only [Bool.not_eq_true, Bool.not_eq_false'] using List.find?_eq_none.mp hknown key hkey

theorem checkRule_of_mem [Regex.Package] {s : Standard} {index : Nat} {rs : List ResourceRule} (h : s.checkRules index rs = .ok ()) :
    ∀ r ∈ rs, ∃ i, s.checkRule i r = .ok () := by
  induction rs generalizing index with
  | nil => exact fun _ h => absurd h List.not_mem_nil
  | cons r rs ih =>
    obtain ⟨⟨⟩, hr, h⟩ := ok_of_do h
    exact List.forall_mem_cons.mpr ⟨⟨index, hr⟩, ih h⟩

theorem checkRules_of_check [Regex.Package] {s : Standard} (h : s.check = .ok ()) : s.checkRules 0 s.resourceRules = .ok () := by
  unfold check at h
  split at h
  · contradiction
  · obtain ⟨⟨⟩, -, h⟩ := ok_of_do h
    exact h

end Standard

theorem CompiledSpec.any_matchesKey {cs : List CompiledSpec} {ss : List TagSpec} (h : cs.map (·.spec) = ss)
    (key : String) : cs.any (·.matchesKey key) = ss.any (·.matchesKey key) := by
  rw [← h, List.any_map]
  rfl

/-- A validator is for the standard that it was made for. -/
theorem Validator.isFor_of_ofStandard {s : Standard} {options : ValidationOptions} {v : Validator}
    (h : Validator.ofStandard s options = .ok v) : v.IsFor s := by
  unfold ofStandard at h
  obtain ⟨⟨⟩, hcheck, h⟩ := ok_of_do h
  obtain ⟨required, hrequired, h⟩ := ok_of_do h
  obtain ⟨optional, hoptional, h⟩ := ok_of_do h
  obtain ⟨rules, hrules, h⟩ := ok_of_do h
  obtain rfl := Except.ok.inj h
  have hrequired := CompiledSpec.map_spec_of_ofSpecs hrequired
  have hoptional := CompiledSpec.map_spec_of_ofSpecs hoptional
  obtain ⟨hrules, hoverrides⟩ := CompiledRule.map_rule_of_ofRules hrules
  refine ⟨rfl, hrequired, hoptional, hrules, hoverrides, fun rule hrule key hkey => ?_⟩
  have hmem : rule.rule ∈ s.resourceRules := hrules ▸ List.mem_map_of_mem hrule
  obtain ⟨i, hi⟩ := Standard.checkRule_of_mem (Standard.checkRules_of_check hcheck) rule.rule hmem
  have hknown := Standard.known_of_checkRule hi key hkey
  unfold Standard.findSpec? Standard.specs at hknown
  unfold known?
  rw [List.isSome_find?, List.any_append] at hknown
  rw [List.isSome_find?, List.any_append, List.any_append, CompiledSpec.any_matchesKey (hoverrides rule hrule),
    CompiledSpec.any_matchesKey hrequired, CompiledSpec.any_matchesKey hoptional]
  simpa only [Bool.or_eq_true, or_assoc, or_comm, or_left_comm] using hknown

end TagAudit
