/-
  TagAudit.Proofs.Compliance.Unambiguous — a key has at most one declared spec.

  The check of a standard compares each spec with those before it, and each by the letter case rule
  of both. Two specs that pass have no key in common (`TagSpec.Apart.not_both`): a key of both would
  be that of the one that cares for letter case, or have the letters of both. So what is passed is
  pairwise apart (`checkSpecs_eq_ok_iff`), which does not depend on the order, and the spec found for
  a key is the one that there is (`find?_of_apart`).

  Proved: `specs_unambiguous`: at most one spec is for a key, and when specs change places, also
  between required and optional ones, the standard still makes sense and the same spec is found for a
  key, by the standard itself and by its validators for types that no rule is for.
-/

import Mathlib.Data.List.Pairwise
import TagAudit.Proofs.Compliance.Fixes

namespace TagAudit

open Hcl (ok_of_do)

/-! ## Specs that are apart -/

/-- Neither spec takes the key of the other for its own. -/
def TagSpec.Apart (a b : TagSpec) : Prop := ¬ a.matchesKey b.key ∧ ¬ b.matchesKey a.key

namespace TagSpec.Apart

variable {a b : TagSpec} {key : String} {specs others : List TagSpec}

theorem symm (h : Apart a b) : Apart b a := ⟨h.2, h.1⟩

instance : Std.Symm Apart := ⟨fun _ _ => symm⟩

/-- No key at all is that of both. -/
theorem not_both (h : Apart a b) (ha : a.matchesKey key) : ¬ b.matchesKey key := by
  intro hb
  cases hcase : a.caseSensitive with
  | true =>
    have hkey : a.key = key := by simpa [matchesKey, hcase] using ha
    exact h.2 (hkey ▸ hb)
  | false =>
    refine h.1 ?_
    unfold matchesKey
    rw [hcase, if_neg Bool.false_ne_true]
    exact Text.sameLetters_trans (sameLetters_of_matchesKey ha) (Text.sameLetters_symm (sameLetters_of_matchesKey hb))

theorem eq_of_matchesKey (h : specs.Pairwise Apart) (ha : a ∈ specs) (hb : b ∈ specs) (hak : a.matchesKey key)
    (hbk : b.matchesKey key) : a = b := by
  by_contra hne
  exact (h.forall ha hb hne).not_both hak hbk

/-- The spec found for a key is the one that there is. -/
theorem find?_of_apart (h : specs.Pairwise Apart) (ha : a ∈ specs) (hak : a.matchesKey key) :
    specs.find? (·.matchesKey key) = some a := by
  cases hfind : specs.find? (·.matchesKey key) with
  | none => exact absurd hak (List.find?_eq_none.mp hfind a ha)
  | some b =>
    have hbk : b.matchesKey key := List.find?_some (p := fun c : TagSpec => c.matchesKey key) hfind
    rw [eq_of_matchesKey h (List.mem_of_find?_eq_some hfind) ha hbk hak]

theorem find?_perm (h : specs.Pairwise Apart) (hp : others.Perm specs) (key : String) :
    others.find? (·.matchesKey key) = specs.find? (·.matchesKey key) := by
  have hothers : others.Pairwise Apart := (hp.pairwise_iff symm).mpr h
  cases hfind : specs.find? (·.matchesKey key) with
  | none => exact List.find?_eq_none.mpr fun a ha => List.find?_eq_none.mp hfind a (hp.subset ha)
  | some a =>
    have hak : a.matchesKey key := List.find?_some (p := fun c : TagSpec => c.matchesKey key) hfind
    exact find?_of_apart hothers (hp.symm.subset (List.mem_of_find?_eq_some hfind)) hak

/-- At most one of the specs is for a key, places counted. -/
theorem length_filter_le_one (h : specs.Pairwise Apart) (key : String) :
    (specs.filter (·.matchesKey key)).length ≤ 1 := by
  have hmatches : ∀ a ∈ specs.filter (·.matchesKey key), a.matchesKey key := fun a ha => (List.mem_filter.mp ha).2
  have hpairwise : (specs.filter (·.matchesKey key)).Pairwise Apart := h.filter _
  generalize specs.filter (·.matchesKey key) = found at hmatches hpairwise
  cases found with
  | nil => exact Nat.zero_le 1
  | cons a found =>
    cases found with
    | nil => exact Nat.le_refl 1
    | cons b found =>
      obtain ⟨hapart, -⟩ := List.forall_mem_cons.mp (List.pairwise_cons.mp hpairwise).1
      exact absurd (hmatches b (by simp)) (hapart.not_both (hmatches a (by simp)))

end TagSpec.Apart

/-! ## What the check finds -/

namespace Standard

theorem checkSpecs_cons_eq_ok_iff {seen specs : List TagSpec} {spec : TagSpec} :
    checkSpecs seen (spec :: specs) = .ok () ↔
      spec.checkSpec = .ok () ∧ (∀ other ∈ seen, TagSpec.Apart other spec) ∧ checkSpecs (spec :: seen) specs = .ok () := by
  have hany : (seen.any fun other => other.matchesKey spec.key || spec.matchesKey other.key) = false ↔
      ∀ other ∈ seen, TagSpec.Apart other spec := by
    simp [TagSpec.Apart]
  constructor
  · intro h
    obtain ⟨⟨⟩, hspec, h⟩ := ok_of_do h
    split at h
    · contradiction
    · rename_i hseen
      exact ⟨hspec, hany.mp (eq_false_of_ne_true hseen), h⟩
  · rintro ⟨hspec, hseen, hspecs⟩
    unfold checkSpecs
    rw [hspec, hany.mpr hseen]
    exact hspecs

/-- What is passed makes sense spec by spec and is pairwise apart. -/
theorem checkSpecs_eq_ok_iff {seen specs : List TagSpec} : checkSpecs seen specs = .ok () ↔
    (∀ spec ∈ specs, spec.checkSpec = .ok ()) ∧ specs.Pairwise TagSpec.Apart ∧
      ∀ other ∈ seen, ∀ spec ∈ specs, TagSpec.Apart other spec := by
  induction specs generalizing seen with
  | nil => simp [checkSpecs]
  | cons spec specs ih =>
    rw [checkSpecs_cons_eq_ok_iff, ih]
    simp only [List.forall_mem_cons, List.pairwise_cons, forall_and]
    tauto

theorem pairwise_apart_of_check {s : Standard} (h : s.check = .ok ()) : s.specs.Pairwise TagSpec.Apart :=
  (checkSpecs_eq_ok_iff.mp (checkSpecs_of_check h)).2.1

/-- The other standard has the same specs, in any order and required or optional, and the same rules. -/
structure Rearranges (other s : Standard) : Prop where
  version : other.version = s.version
  specs : other.specs.Perm s.specs
  rules : other.resourceRules = s.resourceRules

namespace Rearranges

variable {s other : Standard} (h : other.Rearranges s)
include h

theorem findSpec?_eq (hs : s.specs.Pairwise TagSpec.Apart) (key : String) : other.findSpec? key = s.findSpec? key :=
  TagSpec.Apart.find?_perm hs h.specs key

theorem checkSpecs (hs : Standard.checkSpecs [] s.specs = .ok ()) : Standard.checkSpecs [] other.specs = .ok () := by
  obtain ⟨hspecs, hapart, -⟩ := checkSpecs_eq_ok_iff.mp hs
  refine checkSpecs_eq_ok_iff.mpr ⟨fun spec hspec => hspecs spec (h.specs.subset hspec), ?_, by simp⟩
  exact (h.specs.pairwise_iff TagSpec.Apart.symm).mpr hapart

/-- Rules are checked in the same way if the same specs are found. -/
theorem checkRules_eq (hs : s.specs.Pairwise TagSpec.Apart) (index : Nat) (rules : List ResourceRule) :
    other.checkRules index rules = s.checkRules index rules := by
  have hrule (index : Nat) (rule : ResourceRule) : other.checkRule index rule = s.checkRule index rule := by
    unfold checkRule
    rw [funext (h.findSpec?_eq hs)]
  induction rules generalizing index with
  | nil => rfl
  | cons rule rules ih => rw [checkRules, checkRules, hrule, ih]

theorem check (hs : s.check = .ok ()) : other.check = .ok () := by
  have hapart := pairwise_apart_of_check hs
  have hspecs := h.checkSpecs (checkSpecs_of_check hs)
  unfold Standard.check at hs ⊢
  rw [hspecs, h.checkRules_eq hapart, h.version, h.rules]
  split at hs
  · contradiction
  · rename_i hversion
    obtain ⟨⟨⟩, -, hs⟩ := ok_of_do hs
    rw [if_neg hversion]
    exact hs

end Rearranges

end Standard

/-! ## Validators for types without rules -/

theorem CompiledSpec.exists_ofSpecs {specs : List TagSpec} (h : ∀ spec ∈ specs, ∃ c, ofSpec spec = .ok c) :
    ∃ cs, ofSpecs specs = .ok cs := by
  induction specs with
  | nil => exact ⟨[], rfl⟩
  | cons spec specs ih =>
    obtain ⟨⟨c, hc⟩, hspecs⟩ := List.forall_mem_cons.mp h
    obtain ⟨cs, hcs⟩ := ih hspecs
    exact ⟨c :: cs, by rw [ofSpecs, hc, hcs]; rfl⟩

/-- Specs that are ready are found as the specs they were made from are. -/
theorem CompiledSpec.find?_matchesKey {cs : List CompiledSpec} (h : ∀ c ∈ cs, ofSpec c.spec = .ok c) (key : String) :
    cs.find? (·.matchesKey key) =
      ((cs.map (·.spec)).find? (·.matchesKey key)).bind fun spec => (ofSpec spec).toOption := by
  rw [List.find?_map, Option.bind_map]
  show cs.find? (·.matchesKey key) = (cs.find? (·.matchesKey key)).bind fun c => (ofSpec c.spec).toOption
  cases hfind : cs.find? (·.matchesKey key) with
  | none => rfl
  | some c =>
    rw [Option.bind_some, h c (List.mem_of_find?_eq_some hfind)]
    rfl

namespace Validator

variable {s : Standard} {options : ValidationOptions} {v : Validator} {type : String}

/-- Without rules for a type the specs in force are those declared. -/
theorem IsFor.requirements_eq_declared (h : v.IsFor s) (hrules : ∀ rule ∈ s.resourceRules, rule.appliesTo type = false) :
    v.requirements type = v.declared := by
  have hnone : v.rulesFor type = [] := by
    refine List.filter_eq_nil_iff.mpr fun rule hrule => ?_
    exact Bool.eq_false_iff.mp (hrules rule.rule (h.rules ▸ List.mem_map_of_mem hrule))
  rw [requirements_eq, hnone]
  rfl

/-- The spec that a validator has for a key is made from the one that the standard has. -/
theorem IsFor.map_specFor?_declared (h : v.IsFor s) (key : String) :
    (v.declared.specFor? key).map (·.spec) = s.findSpec? key := by
  unfold Requirements.specFor? declared Standard.findSpec? Standard.specs
  rw [← List.find?_append, ← h.required, ← h.optional, ← List.map_append, List.find?_map]
  rfl

section
variable (h : Validator.ofStandard s options = .ok v)
include h

theorem check_of_ofStandard : s.check = .ok () := by
  unfold ofStandard at h
  obtain ⟨⟨⟩, hcheck, -⟩ := ok_of_do h
  exact hcheck

theorem options_of_ofStandard : v.options = options := by
  unfold ofStandard at h
  obtain ⟨⟨⟩, -, h⟩ := ok_of_do h
  obtain ⟨_, -, h⟩ := ok_of_do h
  obtain ⟨_, -, h⟩ := ok_of_do h
  obtain ⟨_, -, h⟩ := ok_of_do h
  rw [← Except.ok.inj h]

theorem ready_of_declared : ∀ c ∈ v.required ++ v.optional, CompiledSpec.ofSpec c.spec = .ok c := by
  intro c hc
  have hmem : c ∈ v.specsFor "" := declared_subset hc
  exact ready_of_ofStandard h c hmem

/-- Its format is ready, which leaves no choice: validators with other specs around it have the same. -/
theorem specFor?_declared (key : String) :
    v.declared.specFor? key = (s.findSpec? key).bind fun spec => (CompiledSpec.ofSpec spec).toOption := by
  have hfor := isFor_of_ofStandard h
  unfold Requirements.specFor? declared Standard.findSpec? Standard.specs
  rw [← List.find?_append, CompiledSpec.find?_matchesKey (ready_of_declared h), List.map_append, hfor.required, hfor.optional]

theorem exists_ofStandard_of_rearranges {other : Standard} (hother : other.Rearranges s) :
    ∃ v', Validator.ofStandard other options = .ok v' := by
  have hfor := isFor_of_ofStandard h
  have hready : ∀ spec ∈ other.specs, ∃ c, CompiledSpec.ofSpec spec = .ok c := by
    intro spec hspec
    have hmem : spec ∈ (v.required ++ v.optional).map (·.spec) := by
      rw [List.map_append, hfor.required, hfor.optional]
      exact hother.specs.subset hspec
    obtain ⟨c, hc, rfl⟩ := List.mem_map.mp hmem
    exact ⟨c, ready_of_declared h c hc⟩
  obtain ⟨hrequired, hoptional⟩ := List.forall_mem_append.mp hready
  obtain ⟨required, hrequired⟩ := CompiledSpec.exists_ofSpecs hrequired
  obtain ⟨optional, hoptional⟩ := CompiledSpec.exists_ofSpecs hoptional
  have hcheck := hother.check (check_of_ofStandard h)
  unfold ofStandard at h ⊢
  obtain ⟨⟨⟩, -, h⟩ := ok_of_do h
  obtain ⟨_, -, h⟩ := ok_of_do h
  obtain ⟨_, -, h⟩ := ok_of_do h
  obtain ⟨rules, hrules, -⟩ := ok_of_do h
  rw [hcheck, hrequired, hoptional, hother.rules, hrules]
  exact ⟨_, rfl⟩

end

/-- What is found of a tag without rules: it is unknown, or checked against the spec for its key. -/
theorem finding_of_declared (h : v.requirements type = v.declared) (key : String) (value : Value) :
    v.finding type key value = (v.declared.specFor? key).elim .extra fun c =>
      if v.options.ignoreOptional && !v.required.any (·.matchesKey key) then .violations [] []
      else .violations (checkTag c key value) ((checkTag c key value).filterMap (suggestFix? c.spec)) := by
  unfold finding
  rw [h]
  cases hspec : v.declared.specFor? key with
  | none =>
    obtain ⟨hrequired, hoptional⟩ := Option.or_eq_none_iff.mp hspec
    refine findTag_unknown (List.forall_mem_append.mpr ⟨?_, List.find?_eq_none.mp hoptional⟩)
    exact List.find?_eq_none.mp hrequired
  | some c => exact findTag_checked (fun e he => absurd he List.not_mem_nil) hspec

end Validator

/-- At most one spec of a standard that makes sense is for a key. So the specs may change places, also
    between required and optional ones: the standard makes sense and can be used as before, and the
    same spec is found for the key, by the standard and by a validator for a type that no rule is for.
    What is found of a tag is the same, too, unless optional tags are ignored and the required specs
    are others. -/
theorem specs_unambiguous {s : Standard} (h : s.check = .ok ()) (key : String) :
    (s.specs.filter (·.matchesKey key)).length ≤ 1 ∧
      ∀ other : Standard, other.Rearranges s → other.check = .ok () ∧ other.findSpec? key = s.findSpec? key ∧
        ∀ options v, Validator.ofStandard s options = .ok v → ∃ v', Validator.ofStandard other options = .ok v' ∧
          ∀ type, (∀ rule ∈ s.resourceRules, rule.appliesTo type = false) →
            ((v.requirements type).specFor? key).map (·.spec) = s.findSpec? key ∧
            (v'.requirements type).specFor? key = (v.requirements type).specFor? key ∧
            (options.ignoreOptional = false ∨ other.requiredTags.Perm s.requiredTags →
              ∀ value, v'.finding type key value = v.finding type key value) := by
  have hapart := Standard.pairwise_apart_of_check h
  refine ⟨TagSpec.Apart.length_filter_le_one hapart key, fun other hother => ⟨hother.check h, ?_⟩⟩
  have hsame := hother.findSpec?_eq hapart key
  refine ⟨hsame, fun options v hv => ?_⟩
  obtain ⟨v', hv'⟩ := Validator.exists_ofStandard_of_rearranges hv hother
  refine ⟨v', hv', fun type hrules => ?_⟩
  have hfor := Validator.isFor_of_ofStandard hv
  have hfor' := Validator.isFor_of_ofStandard hv'
  have hdeclared := hfor.requirements_eq_declared hrules
  have hdeclared' := hfor'.requirements_eq_declared (hother.rules ▸ hrules)
  have hspec := Validator.specFor?_declared hv key
  have hspecs : v'.declared.specFor? key = v.declared.specFor? key := by
    rw [Validator.specFor?_declared hv', hsame, hspec]
  refine ⟨?_, by rw [hdeclared, hdeclared', hspecs], fun hequal value => ?_⟩
  · rw [hdeclared, hfor.map_specFor?_declared]
  · have hignored : (v'.options.ignoreOptional && !v'.required.any (·.matchesKey key)) =
        (v.options.ignoreOptional && !v.required.any (·.matchesKey key)) := by
      rw [Validator.options_of_ofStandard hv, Validator.options_of_ofStandard hv',
        CompiledSpec.any_matchesKey hfor.required, CompiledSpec.any_matchesKey hfor'.required]
      rcases hequal with hall | hrequired
      · rw [hall, Bool.false_and, Bool.false_and]
      · rw [hrequired.any_eq]
    rw [Validator.finding_of_declared hdeclared, Validator.finding_of_declared hdeclared', hspecs, hignored]

/-! ## Specs in other places -/

def casedSpec (key : String) : TagSpec := { plainSpec key with caseSensitive := true }

def casedStandard : Standard :=
  { bucketStandard with
    requiredTags := [casedSpec "Env", casedSpec "ENV"], optionalTags := [plainSpec "Team", plainSpec "Owner"] }

/-- Required and optional specs have changed places. -/
def swappedStandard : Standard :=
  { casedStandard with requiredTags := casedStandard.optionalTags, optionalTags := casedStandard.requiredTags }

def casedValidator (s : Standard) : Validator :=
  ⟨s, ⟨false, false⟩, s.requiredTags.map (⟨·, none⟩), s.optionalTags.map (⟨·, none⟩), bucketValidator.rules⟩

/-- Of the specs for `Env` and `ENV` the latter is the one for `ENV`, wherever it stands. -/
theorem specs_unambiguous_casedStandard :
    casedStandard.check = .ok () ∧ swappedStandard.Rearranges casedStandard ∧
      Validator.ofStandard casedStandard ⟨false, false⟩ = .ok (casedValidator casedStandard) ∧
      (∀ rule ∈ casedStandard.resourceRules, rule.appliesTo "aws_instance" = false) ∧
      (casedStandard.specs.filter (·.matchesKey "ENV")).length ≤ 1 ∧
      casedStandard.findSpec? "ENV" = some (casedSpec "ENV") ∧ swappedStandard.findSpec? "ENV" = some (casedSpec "ENV") ∧
      ∃ v', Validator.ofStandard swappedStandard ⟨false, false⟩ = .ok v' ∧
        (v'.requirements "aws_instance").specFor? "ENV" =
          ((casedValidator casedStandard).requirements "aws_instance").specFor? "ENV" ∧
        v'.finding "aws_instance" "ENV" (.text "prod") =
          (casedValidator casedStandard).finding "aws_instance" "ENV" (.text "prod") := by
  have hcheck : casedStandard.check = .ok () := rfl
  have hswapped : swappedStandard.Rearranges casedStandard := ⟨rfl, List.perm_append_comm, rfl⟩
  have hv : Validator.ofStandard casedStandard ⟨false, false⟩ = .ok (casedValidator casedStandard) := rfl
  have hrules : ∀ rule ∈ casedStandard.resourceRules, rule.appliesTo "aws_instance" = false := by decide +kernel
  have hfound : casedStandard.findSpec? "ENV" = some (casedSpec "ENV") := by decide +kernel
  obtain ⟨hone, hother⟩ := specs_unambiguous hcheck "ENV"
  obtain ⟨-, hspec, hvalidators⟩ := hother swappedStandard hswapped
  obtain ⟨v', hv', htypes⟩ := hvalidators _ _ hv
  obtain ⟨-, hsame, hfinding⟩ := htypes "aws_instance" hrules
  exact ⟨hcheck, hswapped, hv, hrules, hone, hfound, hspec.trans hfound, v', hv', hsame, hfinding (.inl rfl) _⟩

end TagAudit
