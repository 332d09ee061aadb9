/-
  TagAudit.Proofs.Compliance.Fixes — what suggested values are good for.

  What is wrong with a tag decides where a suggested value comes from: the default value of the
  spec, its first example, one of its allowed values, or the current value cut to the greatest
  length. Examples are checked together with the standard, so they break no rule of their spec. The
  others are not: a default value or an allowed one can break any other rule of its spec, and a value
  that was cut has the right length and whatever else is wrong with it.

  Proved: `fixes_mend`: where a suggested value comes from and which rules it keeps, for each kind of
  violation and for missing tags (`CompiledSpec.Mends`, `CompiledSpec.Supplies`); and a value that
  breaks no rule of the spec in force leaves no violation of its tag.
  `suggested_value_refused`: with each action, a suggested value that the spec in force refuses.
-/

import TagAudit.Proofs.Compliance.Findings
import TagAudit.Proofs.Compliance.Replacement
import TagAudit.Proofs.Compliance.Usable

namespace TagAudit

open Hcl (ok_of_do)

/-! ## Rules for values -/

namespace CheckFailure

/-- What it takes for a value to break a rule of a spec. -/
def Holds (s : TagSpec) (pattern : Option Regex) (value : String) : CheckFailure → Prop
  | .dataType t => s.dataType = some t ∧ t.admits value = false
  | .format source => s.pattern = some source ∧ ∃ r, pattern = some r ∧ r.matchesIn value = false
  | .allowed values => values = s.allowedValues ∧ ∀ a ∈ values, s.sameValue a value = false
  | .tooLong most => ∃ n, s.maxLength = some n ∧ n.toNat = most ∧ most < value.length
  | .tooShort least => ∃ n, s.minLength = some n ∧ n.toNat = least ∧ value.length < least

end CheckFailure

namespace TagSpec

variable {s : TagSpec} {pattern : Option Regex} {value : String} {failure : CheckFailure}

theorem holds_of_mem_check (h : failure ∈ s.check pattern value) : failure.Holds s pattern value := by
  unfold check checkDataType checkFormat checkAllowed checkLength at h
  simp only [List.mem_append] at h
  rcases h with ((h | h) | h) | h | h
  · split at h
    · rename_i t ht
      split at h
      · contradiction
      · rename_i hadmits
        rw [List.mem_singleton.mp h]
        exact ⟨ht, Bool.eq_false_iff.mpr hadmits⟩
    · contradiction
  · split at h
    · rename_i r source hsource
      split at h
      · contradiction
      · rename_i hmatches
        rw [List.mem_singleton.mp h]
        exact ⟨hsource, r, rfl, Bool.eq_false_iff.mpr hmatches⟩
    · contradiction
  · split at h
    · contradiction
    · rename_i hallowed
      rw [List.mem_singleton.mp h]
      refine ⟨rfl, fun a ha => ?_⟩
      by_contra hsame
      rw [Bool.not_eq_false] at hsame
      exact hallowed (Bool.or_eq_true_iff.mpr (.inr (List.any_eq_true.mpr ⟨a, ha, hsame⟩)))
  · split at h
    · rename_i n hn
      split at h
      · rename_i hlong
        rw [List.mem_singleton.mp h]
        exact ⟨n, hn, rfl, hlong⟩
      · contradiction
    · contradiction
  · split at h
    · rename_i n hn
      split at h
      · rename_i hshort
        rw [List.mem_singleton.mp h]
        exact ⟨n, hn, rfl, hshort⟩
      · contradiction
    · contradiction

theorem sameValue_self (s : TagSpec) (value : String) : s.sameValue value value := by
  unfold sameValue
  split <;> exact beq_self_eq_true _

/-- What the check of a spec on its own makes sure of. -/
theorem of_checkSpec (h : s.checkSpec = .ok ()) :
    s.checkPattern = .ok () ∧ s.checkBounds = .ok () ∧ s.checkExamples s.examples = .ok () := by
  unfold checkSpec at h
  dsimp only at h
  split at h
  · contradiction
  · obtain ⟨⟨⟩, hpattern, h⟩ := ok_of_do h
    obtain ⟨⟨⟩, hbounds, h⟩ := ok_of_do h
    split at h
    · contradiction
    · exact ⟨hpattern, hbounds, h⟩

theorem least_le_most (h : s.checkBounds = .ok ()) {least most : UInt64} (hleast : s.minLength = some least)
    (hmost : s.maxLength = some most) : least.toNat ≤ most.toNat := by
  unfold checkBounds at h
  rw [hleast, hmost] at h
  dsimp only at h
  split at h
  · contradiction
  · rename_i hle
    exact Nat.le_of_not_lt hle

theorem valueProblem?_of_checkExamples {samples : List String} (h : s.checkExamples samples = .ok ()) :
    ∀ sample ∈ samples, s.valueProblem? sample = none := by
  induction samples with
  | nil => simp
  | cons sample samples ih =>
    unfold checkExamples at h
    split at h
    · contradiction
    · rename_i hnone
      exact List.forall_mem_cons.mpr ⟨hnone, ih h⟩

end TagSpec

namespace CompiledSpec

/-- The value breaks no rule of the spec. -/
def Accepts (c : CompiledSpec) (value : String) : Prop := c.spec.check c.pattern value = []

instance (c : CompiledSpec) (value : String) : Decidable (c.Accepts value) :=
  inferInstanceAs (Decidable (_ = _))

/-- The value breaks no rule whose violations are of this kind. -/
def Keeps (c : CompiledSpec) (kind : ViolationKind) (value : String) : Prop :=
  ∀ failure ∈ c.spec.check c.pattern value, (Fault.value failure).kind ≠ kind

/-- A spec that makes sense, with its format ready. -/
structure Vetted (c : CompiledSpec) : Prop where
  ready : ofSpec c.spec = .ok c
  checked : c.spec.checkSpec = .ok ()

/-- What is sure of a value that is suggested for a violation. -/
def Mends (c : CompiledSpec) (violation : Violation) (value : String) : Prop :=
  match violation.kind with
  | .invalidDataType => c.Accepts value ∨ c.spec.defaultValue = some value
  | .invalidFormat => c.Accepts value ∨ c.spec.defaultValue = some value ∧ c.spec.examples = []
  | .invalidValue => value ∈ c.spec.allowedValues ∧ c.Keeps .invalidValue value
  | .lengthExceeded =>
    value.toList <+: violation.value.toList ∧ c.Keeps .lengthExceeded value ∧ c.Keeps .lengthTooShort value
  | .lengthTooShort => (c.Accepts value ∨ c.spec.defaultValue = some value) ∧ c.Keeps .lengthTooShort value
  | .notAllowed => False
  | .unresolvableValue => False

/-- What is sure of a value that is suggested for a tag that is missing. -/
def Supplies (c : CompiledSpec) (value : String) : Prop :=
  c.spec.defaultValue = some value ∨ c.Accepts value ∨
    value ∈ c.spec.allowedValues ∧ c.spec.defaultValue = none ∧ c.spec.examples = []

variable {c : CompiledSpec} {value : String}

theorem Accepts.keeps (h : c.Accepts value) (kind : ViolationKind) : c.Keeps kind value := by
  intro failure hmem
  rw [h] at hmem
  contradiction

theorem Vetted.accepts_of_valueProblem? (hc : c.Vetted) (h : c.spec.valueProblem? value = none) : c.Accepts value := by
  obtain ⟨hready, -⟩ := hc
  unfold TagSpec.valueProblem? at h
  unfold ofSpec at hready
  unfold Accepts
  split at h
  · rename_i hnone
    rw [hnone] at hready
    rw [← Except.ok.inj hready]
    simpa using h
  · rename_i source hsource
    rw [hsource] at hready
    dsimp only at hready
    split at h
    · contradiction
    · rename_i r hr
      rw [hr] at hready
      rw [← Except.ok.inj hready]
      simpa using h

theorem Vetted.accepts_example (hc : c.Vetted) (h : value ∈ c.spec.examples) : c.Accepts value :=
  hc.accepts_of_valueProblem? (TagSpec.valueProblem?_of_checkExamples (TagSpec.of_checkSpec hc.checked).2.2 value h)

/-! ### The sources of suggested values -/

theorem keeps_of_mem_allowedValues (h : value ∈ c.spec.allowedValues) : c.Keeps .invalidValue value := by
  intro failure hmem hkind
  have hholds := TagSpec.holds_of_mem_check hmem
  cases failure with
  | allowed values =>
    obtain ⟨rfl, hnone⟩ := hholds
    exact Bool.false_ne_true ((hnone value h).symm.trans (c.spec.sameValue_self value))
  | _ => contradiction

theorem keeps_of_least_le (h : (c.spec.minLength.getD 0).toNat ≤ value.length) : c.Keeps .lengthTooShort value := by
  intro failure hmem hkind
  have hholds := TagSpec.holds_of_mem_check hmem
  cases failure with
  | tooShort least =>
    obtain ⟨n, hn, rfl, hshort⟩ := hholds
    rw [hn, Option.getD_some] at h
    omega
  | _ => contradiction

theorem keeps_of_le_most {most : UInt64} (hmost : c.spec.maxLength = some most) (h : value.length ≤ most.toNat) :
    c.Keeps .lengthExceeded value := by
  intro failure hmem hkind
  have hholds := TagSpec.holds_of_mem_check hmem
  cases failure with
  | tooLong most' =>
    obtain ⟨n, hn, rfl, hlong⟩ := hholds
    obtain rfl := Option.some.inj (hmost.symm.trans hn)
    omega
  | _ => contradiction

/-- A value that was too long has the greatest length when it was cut, which is not too short. -/
theorem Vetted.keeps_cut (hc : c.Vetted) {most : UInt64} (hmost : c.spec.maxLength = some most)
    (hlong : most.toNat < value.length) :
    c.Keeps .lengthExceeded (String.ofList (value.toList.take most.toNat)) ∧
      c.Keeps .lengthTooShort (String.ofList (value.toList.take most.toNat)) := by
  have hlength : (String.ofList (value.toList.take most.toNat)).length = most.toNat := by
    rw [String.length_ofList, List.length_take, String.length_toList]
    omega
  refine ⟨keeps_of_le_most hmost (by omega), keeps_of_least_le ?_⟩
  rw [hlength]
  cases hleast : c.spec.minLength with
  | none => exact Nat.zero_le _
  | some least => exact TagSpec.least_le_most (TagSpec.of_checkSpec hc.checked).2.1 hleast hmost

theorem Vetted.mends (hc : c.Vetted) {violation : Violation}
    (hlong : violation.kind = .lengthExceeded → ∃ most, c.spec.maxLength = some most ∧ most.toNat < violation.value.length)
    (h : Validator.suggestedValue? c.spec violation.value violation.kind = some value) : c.Mends violation value := by
  have hexample (hhead : c.spec.examples.head? = some value) : c.Accepts value :=
    hc.accepts_example (List.mem_of_head? hhead)
  unfold Mends
  unfold Validator.suggestedValue? at h
  cases hkind : violation.kind with
  | invalidDataType =>
    rw [hkind] at h
    rcases Option.or_eq_some_iff.mp h with hdefault | ⟨-, hhead⟩
    · exact .inr hdefault
    · exact .inl (hexample hhead)
  | invalidFormat =>
    rw [hkind] at h
    rcases Option.or_eq_some_iff.mp h with hhead | ⟨hnone, hdefault⟩
    · exact .inl (hexample hhead)
    · exact .inr ⟨hdefault, List.head?_eq_none_iff.mp hnone⟩
  | invalidValue =>
    rw [hkind] at h
    have hmem : value ∈ c.spec.allowedValues := by
      rcases Option.or_eq_some_iff.mp h with hfind | ⟨-, hhead⟩
      · exact List.mem_of_find?_eq_some hfind
      · exact List.mem_of_head? hhead
    exact ⟨hmem, keeps_of_mem_allowedValues hmem⟩
  | lengthExceeded =>
    obtain ⟨most, hmost, hmore⟩ := hlong hkind
    rw [hkind] at h
    dsimp only at h
    rw [hmost, Option.map_some] at h
    obtain rfl := Option.some.inj h
    refine ⟨?_, hc.keeps_cut hmost hmore⟩
    rw [String.toList_ofList]
    exact List.take_prefix _ _
  | lengthTooShort =>
    rw [hkind] at h
    rcases Option.or_eq_some_iff.mp h with hdefault | ⟨-, hhead⟩
    · obtain ⟨hdefault, hlength⟩ := Option.filter_eq_some_iff.mp hdefault
      exact ⟨.inr hdefault, keeps_of_least_le (of_decide_eq_true hlength)⟩
    · exact ⟨.inl (hexample hhead), (hexample hhead).keeps _⟩
  | notAllowed =>
    rw [hkind] at h
    contradiction
  | unresolvableValue =>
    rw [hkind] at h
    contradiction

theorem Vetted.supplies (hc : c.Vetted) (h : (Validator.addMissing c.spec).suggested = some value) : c.Supplies value := by
  rcases Option.or_eq_some_iff.mp h with h | ⟨hnone, hhead⟩
  · rcases Option.or_eq_some_iff.mp h with hdefault | ⟨-, hhead⟩
    · exact .inl hdefault
    · exact .inr (.inl (hc.accepts_example (List.mem_of_head? hhead)))
  · obtain ⟨hdefault, hexamples⟩ := Option.or_eq_none_iff.mp hnone
    exact .inr (.inr ⟨List.mem_of_head? hhead, hdefault, List.head?_eq_none_iff.mp hexamples⟩)

end CompiledSpec

/-! ## Specs in force -/

theorem CompiledSpec.ready_of_ofSpecs {ss : List TagSpec} {cs : List CompiledSpec} (h : ofSpecs ss = .ok cs) :
    ∀ c ∈ cs, ofSpec c.spec = .ok c := by
  induction ss generalizing cs with
  | nil =>
    obtain rfl := Except.ok.inj h
    simp
  | cons s ss ih =>
    obtain ⟨c, hc, h⟩ := ok_of_do h
    obtain ⟨rest, hrest, h⟩ := ok_of_do h
    obtain rfl := Except.ok.inj h
    refine List.forall_mem_cons.mpr ⟨?_, ih hrest⟩
    rw [spec_of_ofSpec hc]
    exact hc

theorem CompiledRule.ready_of_ofRules {rs : List ResourceRule} {crs : List CompiledRule} (h : ofRules rs = .ok crs) :
    ∀ rule ∈ crs, ∀ c ∈ rule.overrides, CompiledSpec.ofSpec c.spec = .ok c := by
  induction rs generalizing crs with
  | nil =>
    obtain rfl := Except.ok.inj h
    simp
  | cons r rs ih =>
    obtain ⟨overrides, hoverrides, h⟩ := ok_of_do h
    obtain ⟨rest, hrest, h⟩ := ok_of_do h
    obtain rfl := Except.ok.inj h
    exact List.forall_mem_cons.mpr ⟨CompiledSpec.ready_of_ofSpecs hoverrides, ih hrest⟩

namespace Validator

variable {v : Validator} {type key : String}

theorem ready_of_ofStandard {s : Standard} {options : ValidationOptions} (h : Validator.ofStandard s options = .ok v) :
    ∀ c ∈ v.specsFor type, CompiledSpec.ofSpec c.spec = .ok c := by
  unfold ofStandard at h
  obtain ⟨⟨⟩, -, h⟩ := ok_of_do h
  obtain ⟨required, hrequired, h⟩ := ok_of_do h
  obtain ⟨optional, hoptional, h⟩ := ok_of_do h
  obtain ⟨rules, hrules, h⟩ := ok_of_do h
  obtain rfl := Except.ok.inj h
  intro c hc
  rcases List.mem_append.mp hc with hc | hc
  · rcases List.mem_append.mp hc with hc | hc
    · exact CompiledSpec.ready_of_ofSpecs hrequired c hc
    · exact CompiledSpec.ready_of_ofSpecs hoptional c hc
  · obtain ⟨rule, hrule, hc⟩ := List.mem_flatMap.mp hc
    exact CompiledRule.ready_of_ofRules hrules rule (List.mem_filter.mp hrule).1 c hc

theorem IsFor.mem_allSpecs {s : Standard} (h : v.IsFor s) : ∀ c ∈ v.specsFor type, c.spec ∈ s.allSpecs := by
  unfold Standard.allSpecs Standard.specs
  rw [← h.required, ← h.optional, ← h.rules]
  intro c hc
  rcases List.mem_append.mp hc with hc | hc
  · refine List.mem_append_left _ ?_
    rw [← List.map_append]
    exact List.mem_map_of_mem hc
  · obtain ⟨rule, hrule, hc⟩ := List.mem_flatMap.mp hc
    have hrule := (List.mem_filter.mp hrule).1
    refine List.mem_append_right _ (List.mem_flatMap.mpr ⟨rule.rule, List.mem_map_of_mem hrule, ?_⟩)
    rw [← h.overrides rule hrule]
    exact List.mem_map_of_mem hc

/-- Every spec that can come into force makes sense and is ready. -/
theorem vetted_of_ofStandard {s : Standard} {options : ValidationOptions} (h : Validator.ofStandard s options = .ok v) :
    ∀ c ∈ v.specsFor type, c.Vetted := by
  intro c hc
  have hcheck : s.check = .ok () := by
    unfold ofStandard at h
    obtain ⟨⟨⟩, hcheck, -⟩ := ok_of_do h
    exact hcheck
  have hmem : c.spec ∈ s.allSpecs := (isFor_of_ofStandard h).mem_allSpecs c hc
  exact ⟨ready_of_ofStandard h c hc, Standard.checkSpec_of_check hcheck c.spec hmem⟩

theorem requirements_within : (v.requirements type).Within (v.specsFor type) := by
  refine v.requirements_of_change (P := fun r => r.Within (v.specsFor type)) ?_ ?_
  · exact List.append_subset.mp declared_subset
  · intro rule hrule ch hch r hr
    exact within_change hr hrule hch

theorem mem_specsFor_of_specFor? {c : CompiledSpec} (h : (v.requirements type).specFor? key = some c) :
    c ∈ v.specsFor type := by
  rcases Option.or_eq_some_iff.mp h with hrequired | ⟨-, hoptional⟩
  · exact requirements_within.1 (List.mem_of_find?_eq_some hrequired)
  · exact requirements_within.2 (List.mem_of_find?_eq_some hoptional)

/-! ## Fixes with suggested values -/

/-- What a fix with a suggested value is for: a required tag that is missing, or a tag with a value
    that its spec refuses. -/
inductive Answers (v : Validator) (resource : ResourceKey) (tags : OrderedMap Value) (fix : SuggestedFix)
    (value : String) : Prop
  | missing (c : CompiledSpec) (action : fix.action = .add) (required : c ∈ (v.requirements resource.type).required)
      (key : c.spec.key = fix.key) (absent : ∀ k ∈ tags.keys, ¬ c.matchesKey k)
      (own : (∀ other ∈ (v.requirements resource.type).required, other.matchesKey fix.key → other = c) →
        (v.requirements resource.type).specFor? fix.key = some c)
      (supplies : c.Supplies value)
  | refused (c : CompiledSpec) (violation : Violation)
      (action : fix.action = if violation.kind = .lengthExceeded then .format else .update)
      (allowed : ∀ e ∈ (v.requirements resource.type).excluded, ¬ e.matchesKey fix.key)
      (spec : (v.requirements resource.type).specFor? fix.key = some c)
      (violated : violation ∈ (v.validate resource tags).violationsOf fix.key)
      (mends : c.Mends violation value)

theorem specFor?_of_required {r : Requirements} {c : CompiledSpec} (hc : c ∈ r.required) (hkey : c.matchesKey key)
    (hown : ∀ other ∈ r.required, other.matchesKey key → other = c) : r.specFor? key = some c := by
  unfold Requirements.specFor?
  cases hfind : r.required.find? (·.matchesKey key) with
  | none => exact absurd hkey (List.find?_eq_none.mp hfind c hc)
  | some other =>
    have hmatches : other.matchesKey key := List.find?_some (p := fun c : CompiledSpec => c.matchesKey key) hfind
    rw [Option.some_or, hown other (List.mem_of_find?_eq_some hfind) hmatches]

/-- A text that its spec accepts has no violation. -/
theorem checkTag_eq_nil {c : CompiledSpec} {value : String} (h : c.Accepts value) : checkTag c key (.text value) = [] := by
  unfold checkTag
  simp only [Value.isResolved, Value.scalar?, Bool.not_true, Bool.false_eq_true, if_false]
  rw [h, List.map_nil]

/-- A violation of a length that was exceeded has the value that was too long. -/
theorem tooLong_of_mem_checkTag {c : CompiledSpec} {value : Value} {violation : Violation}
    (h : violation ∈ checkTag c key value) (hkind : violation.kind = .lengthExceeded) :
    ∃ most, c.spec.maxLength = some most ∧ most.toNat < violation.value.length := by
  unfold checkTag at h
  split at h
  · rw [List.mem_singleton.mp h] at hkind
    contradiction
  · split at h
    · rw [List.mem_singleton.mp h] at hkind
      contradiction
    · obtain ⟨failure, hmem, rfl⟩ := List.mem_map.mp h
      have hholds := TagSpec.holds_of_mem_check hmem
      cases failure with
      | tooLong most =>
        obtain ⟨n, hn, rfl, hlong⟩ := hholds
        exact ⟨n, hn, hlong⟩
      | _ => contradiction

theorem of_suggestFix? {s : TagSpec} {violation : Violation} {fix : SuggestedFix}
    (h : suggestFix? s violation = some fix) : fix.suggested = suggestedValue? s violation.value violation.kind ∧
      fix.action = if violation.kind = .lengthExceeded then .format else .update := by
  unfold suggestFix? at h
  split at h
  · contradiction
  · contradiction
  · rw [← Option.some.inj h]
    exact ⟨rfl, rfl⟩

variable {s : Standard} {options : ValidationOptions} (hv : Validator.ofStandard s options = .ok v)
  {resource : ResourceKey} {tags : OrderedMap Value} {fix : SuggestedFix} {value : String}
include hv

theorem answers_of_missing (hfix : fix ∈ (missingSpecs (v.requirements resource.type) tags).map addMissing)
    (hvalue : fix.suggested = some value) : v.Answers resource tags fix value := by
  obtain ⟨_, hspec, rfl⟩ := List.mem_map.mp hfix
  obtain ⟨c, hc, rfl⟩ := List.mem_map.mp hspec
  obtain ⟨hrequired, habsent⟩ := List.mem_filter.mp hc
  have hvetted : c.Vetted := vetted_of_ofStandard hv c (requirements_within.1 hrequired)
  refine .missing c rfl hrequired rfl (by simpa using habsent) (fun hown => ?_) (hvetted.supplies hvalue)
  exact specFor?_of_required hrequired c.spec.matchesKey_self hown

/-- A fix for a tag that suggests a value is for a violation of the spec that the tag is checked against. -/
theorem answers_of_finding {e : String × Value} (he : e ∈ tags) (hregulated : v.isExcluded resource.type = false)
    (hfix : fix ∈ (v.finding resource.type e.1 e.2).fixesOf e.1 e.2) (hvalue : fix.suggested = some value) :
    v.Answers resource tags fix value := by
  have hfound : ∀ violation ∈ (v.finding resource.type e.1 e.2).violationsOf, violation.key = e.1 →
      violation ∈ (v.validate resource tags).violationsOf e.1 := by
    intro violation hviolation hkey
    unfold ComplianceResult.violationsOf
    rw [violations_validate hregulated]
    exact List.mem_filter.mpr ⟨List.mem_flatMap.mpr ⟨e, he, hviolation⟩, decide_eq_true hkey⟩
  unfold finding at hfix hfound
  -- a tag that is excluded or unknown is to be removed, which suggests no value
  by_cases hexcluded : ∃ c ∈ (v.requirements resource.type).excluded, c.matchesKey e.1
  · rw [findTag_notAllowed hexcluded] at hfix
    rw [List.mem_singleton.mp hfix] at hvalue
    contradiction
  · have hallowed : ∀ c ∈ (v.requirements resource.type).excluded, ¬ c.matchesKey e.1 :=
      fun c hc hm => hexcluded ⟨c, hc, hm⟩
    cases hspec : (v.requirements resource.type).specFor? e.1 with
    | none =>
      obtain ⟨hrequired, hoptional⟩ := Option.or_eq_none_iff.mp hspec
      have hnone : ∀ c ∈ (v.requirements resource.type).excluded ++ (v.requirements resource.type).required ++
          (v.requirements resource.type).optional, ¬ c.matchesKey e.1 := by
        refine List.forall_mem_append.mpr ⟨List.forall_mem_append.mpr ⟨hallowed, ?_⟩, ?_⟩
        · exact List.find?_eq_none.mp hrequired
        · exact List.find?_eq_none.mp hoptional
      rw [findTag_unknown hnone] at hfix
      rw [List.mem_singleton.mp hfix] at hvalue
      contradiction
    | some c =>
      rw [findTag_checked hallowed hspec] at hfix hfound
      split at hfix
      · contradiction
      · rename_i hchecked
        rw [if_neg hchecked] at hfound
        obtain ⟨violation, hviolation, hsuggest⟩ := List.mem_filterMap.mp hfix
        obtain ⟨hsuggested, haction⟩ := of_suggestFix? hsuggest
        have hown : violation.key = e.1 := key_of_mem_checkTag hviolation
        have hkey : fix.key = e.1 := (key_of_suggestFix? hsuggest).trans hown
        have hvetted : c.Vetted := vetted_of_ofStandard hv c (mem_specsFor_of_specFor? hspec)
        rw [← hkey] at hallowed hspec
        refine .refused c violation haction hallowed hspec ?_ ?_
        · rw [hkey]
          exact hfound violation hviolation hown
        · exact hvetted.mends (tooLong_of_mem_checkTag hviolation) (hsuggested.symm.trans hvalue)

omit hv in
/-- Once a tag has a value that breaks no rule of the spec in force, it has no violation. -/
theorem violationsOf_insert {c : CompiledSpec} (hn : tags.keys.Nodup)
    (hallowed : ∀ e ∈ (v.requirements resource.type).excluded, ¬ e.matchesKey key)
    (hspec : (v.requirements resource.type).specFor? key = some c) (haccepts : c.Accepts value) :
    (v.validate resource (tags.insert key (.text value))).violationsOf key = [] := by
  cases hregulated : v.isExcluded resource.type with
  | true =>
    unfold validate ComplianceResult.violationsOf
    rw [hregulated, if_pos rfl]
    rfl
  | false =>
    have hget : (tags.insert key (.text value)).get? key = some (.text value) := by simp
    rw [violationsOf_validate hregulated (OrderedMap.nodup_keys_insert hn _ _) (OrderedMap.mem_of_get? hget), finding,
      findTag_checked hallowed hspec, checkTag_eq_nil haccepts]
    split <;> rfl

end Validator

/-- A suggested value is for a required tag that is missing or for a violation of the spec that the tag
    is checked against, and comes from one of the sources that there are for it. If it breaks no rule
    of the spec in force, no violation of the tag is left with it. -/
theorem fixes_mend {s : Standard} {options : ValidationOptions} {v : Validator}
    (h : Validator.ofStandard s options = .ok v) (resource : ResourceKey) {tags : OrderedMap Value} (hn : tags.keys.Nodup) :
    ∀ fix ∈ (v.validate resource tags).fixes, ∀ value, fix.suggested = some value →
      v.Answers resource tags fix value ∧
        ∀ c, (∀ e ∈ (v.requirements resource.type).excluded, ¬ e.matchesKey fix.key) →
          (v.requirements resource.type).specFor? fix.key = some c → c.Accepts value →
            (v.validate resource (tags.insert fix.key (.text value))).violationsOf fix.key = [] := by
  intro fix hfix value hvalue
  refine ⟨?_, fun c hallowed hspec haccepts => Validator.violationsOf_insert hn hallowed hspec haccepts⟩
  cases hregulated : v.isExcluded resource.type with
  | true =>
    unfold Validator.validate at hfix
    rw [hregulated, if_pos rfl] at hfix
    contradiction
  | false =>
    rw [Validator.fixes_validate hregulated] at hfix
    rcases List.mem_append.mp hfix with hfix | hfix
    · exact Validator.answers_of_missing h hfix hvalue
    · obtain ⟨e, he, hfix⟩ := List.mem_flatMap.mp hfix
      exact Validator.answers_of_finding h he hregulated hfix hvalue

/-! ## Values that their specs refuse -/

/-- The default value is none of the allowed ones. -/
def envSpec : TagSpec := { plainSpec "Env" with allowedValues := ["prod"], caseSensitive := true, defaultValue := some "none" }

/-- An address is soon too long, and then cut. -/
def contactSpec : TagSpec := { plainSpec "Contact" with dataType := some .email, maxLength := some 8 }

/-- The allowed value is too short. -/
def zoneSpec : TagSpec := { plainSpec "Zone" with allowedValues := ["eu"], minLength := some 3 }

def laxStandard : Standard :=
  { bucketStandard with
    requiredTags := [envSpec], optionalTags := [contactSpec, zoneSpec, stageSpec], resourceRules := [] }

def laxValidator : Validator :=
  ⟨laxStandard, ⟨false, false⟩, [⟨envSpec, none⟩], [⟨contactSpec, none⟩, ⟨zoneSpec, none⟩, ⟨stageSpec, none⟩], []⟩

def laxTags : OrderedMap Value :=
  [("Contact", .text "web@example.com"), ("Zone", .text "west"), ("Stage", .text "test")]

/-- The stage gets an allowed value, which breaks no rule. -/
theorem fixes_mend_laxStandard :
    Validator.ofStandard laxStandard ⟨false, false⟩ = .ok laxValidator ∧ laxTags.keys.Nodup ∧
      ∃ fix ∈ (laxValidator.validate logsBucket laxTags).fixes, fix.suggested = some "prod" ∧
        laxValidator.Answers logsBucket laxTags fix "prod" ∧
        (laxValidator.validate logsBucket (laxTags.insert "Stage" (.text "prod"))).violationsOf "Stage" = [] := by
  have hv : Validator.ofStandard laxStandard ⟨false, false⟩ = .ok laxValidator := rfl
  have hn : laxTags.keys.Nodup := by decide +kernel
  have hfix : (⟨"Stage", some "test", some "prod", .update, "Tag 'Stage' value 'test' is not in allowed values"⟩ :
      SuggestedFix) ∈ (laxValidator.validate logsBucket laxTags).fixes := by decide +kernel
  obtain ⟨hanswers, hmended⟩ := fixes_mend hv logsBucket hn _ hfix "prod" rfl
  refine ⟨hv, hn, _, hfix, rfl, hanswers, hmended ⟨stageSpec, none⟩ ?_ rfl ?_⟩
  · exact fun e he => absurd he List.not_mem_nil
  · decide +kernel

/-- With each action there are suggested values that the spec in force refuses: a default value, a value
    that was cut, and an allowed value. -/
theorem suggested_value_refused : laxStandard.check = .ok () ∧
    Validator.ofStandard laxStandard ⟨false, false⟩ = .ok laxValidator ∧
    ∀ action ∈ [FixAction.add, .format, .update], ∃ fix ∈ (laxValidator.validate logsBucket laxTags).fixes,
      fix.action = action ∧ ∃ value c, fix.suggested = some value ∧
        (laxValidator.requirements logsBucket.type).specFor? fix.key = some c ∧ ¬ c.Accepts value ∧
        (laxValidator.validate logsBucket (laxTags.insert fix.key (.text value))).violationsOf fix.key ≠ [] := by
  refine ⟨rfl, rfl, ?_⟩
  simp only [List.forall_mem_cons, List.not_mem_nil, false_imp_iff, implies_true, and_true]
  refine ⟨⟨⟨"Env", none, some "none", .add, "Required tag 'Env' is missing"⟩, by decide +kernel, rfl, "none",
      ⟨envSpec, none⟩, rfl, rfl, by decide +kernel, by decide +kernel⟩,
    ⟨⟨"Contact", some "web@example.com", some "web@exam", .format,
        "Tag 'Contact' value 'web@example.com' is too long (maximum 8 characters)"⟩, by decide +kernel, rfl, "web@exam",
      ⟨contactSpec, none⟩, rfl, rfl, by decide +kernel, by decide +kernel⟩,
    ⟨⟨"Zone", some "west", some "eu", .update, "Tag 'Zone' value 'west' is not in allowed values"⟩, by decide +kernel,
      rfl, "eu", ⟨zoneSpec, none⟩, rfl, rfl, by decide +kernel, by decide +kernel⟩⟩

end TagAudit
