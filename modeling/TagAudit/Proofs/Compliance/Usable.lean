/-
  TagAudit.Proofs.Compliance.Usable — standards that make sense, and whether they can be used.

  A check of a standard reads each format as it is written, a validator reads it as an expression that
  has to match whole values. These agree on all formats but those that end in a comment
  (`TagSpec.LeavesOpen`): the mark that closes the expression falls into the comment. What the types
  of a rule are written as can always be read (`Regex.read?_written`).

  Proved: `usable_iff`: a standard that makes sense can be used just if none of its formats ends in a
  comment, whatever the options, and no other error is possible. `unusable_standard`: one that makes
  sense and cannot be used.
-/

import TagAudit.Proofs.Compliance.Globs
import TagAudit.Proofs.Compliance.InForce

namespace TagAudit

open Hcl (ok_of_do)

/-- The format of the spec ends in a comment: what is written after it is not read. -/
def TagSpec.LeavesOpen [Regex.Package] (s : TagSpec) : Prop := ∃ source, s.pattern = some source ∧ Regex.LeavesOpen source

/-- The format of the spec is within the limits of the reader where it is a part of an expression for
    whole values. -/
def TagSpec.Fits [Regex.Package] (s : TagSpec) : Prop :=
  ∀ source, s.pattern = some source → Regex.Package.admits ("^(?:" ++ source ++ ")$")

/-- All specs of the standard and of its rules. -/
def Standard.allSpecs (s : Standard) : List TagSpec := s.specs ++ s.resourceRules.flatMap (·.overrideTags)

/-! ## What is checked -/

theorem TagSpec.checkPattern_of_checkSpec [Regex.Package] {s : TagSpec} (h : s.checkSpec = .ok ()) : s.checkPattern = .ok () := by
  unfold checkSpec at h
  dsimp only at h
  split at h
  · contradiction
  · obtain ⟨⟨⟩, hpattern, -⟩ := ok_of_do h
    exact hpattern

namespace Standard

theorem checkSpec_of_checkSpecs [Regex.Package] {seen specs : List TagSpec} (h : checkSpecs seen specs = .ok ()) :
    ∀ spec ∈ specs, spec.checkSpec = .ok () := by
  induction specs generalizing seen with
  | nil => exact fun _ hspec => absurd hspec List.not_mem_nil
  | cons spec specs ih =>
    obtain ⟨⟨⟩, hspec, h⟩ := ok_of_do h
    split at h
    · contradiction
    · exact List.forall_mem_cons.mpr ⟨hspec, ih h⟩

theorem checkSpec_of_checkOverrides [Regex.Package] {specs : List TagSpec} (h : checkOverrides specs = .ok ()) :
    ∀ spec ∈ specs, spec.checkSpec = .ok () := by
  induction specs with
  | nil => exact fun _ hspec => absurd hspec List.not_mem_nil
  | cons spec specs ih =>
    obtain ⟨⟨⟩, hspec, h⟩ := ok_of_do h
    exact List.forall_mem_cons.mpr ⟨hspec, ih h⟩

theorem checkOverrides_of_checkRule [Regex.Package] {s : Standard} {index : Nat} {r : ResourceRule} (h : s.checkRule index r = .ok ()) :
    checkOverrides r.overrideTags = .ok () := by
  unfold checkRule at h
  split at h
  · contradiction
  · dsimp only at h
    split at h
    · contradiction
    · exact h

theorem checkSpecs_of_check [Regex.Package] {s : Standard} (h : s.check = .ok ()) : checkSpecs [] s.specs = .ok () := by
  unfold check at h
  split at h
  · contradiction
  · obtain ⟨⟨⟩, hspecs, -⟩ := ok_of_do h
    exact hspecs

theorem checkSpec_of_check [Regex.Package] {s : Standard} (h : s.check = .ok ()) : ∀ spec ∈ s.allSpecs, spec.checkSpec = .ok () := by
  intro spec hspec
  rcases List.mem_append.mp hspec with hspec | hspec
  · exact checkSpec_of_checkSpecs (checkSpecs_of_check h) spec hspec
  · obtain ⟨rule, hrule, hspec⟩ := List.mem_flatMap.mp hspec
    obtain ⟨index, hindex⟩ := checkRule_of_mem (checkRules_of_check h) rule hrule
    exact checkSpec_of_checkOverrides (checkOverrides_of_checkRule hindex) spec hspec

/-- In a standard that makes sense every format can be read. -/
theorem checkPattern_of_check [Regex.Package] {s : Standard} (h : s.check = .ok ()) :
    ∀ spec ∈ s.allSpecs, spec.checkPattern = .ok () :=
  fun spec hspec => TagSpec.checkPattern_of_checkSpec (checkSpec_of_check h spec hspec)

end Standard

/-! ## What is read once more -/

/-- Getting specs ready succeeds just if the format of none of them ends in a comment; otherwise one of
    these formats is refused. -/
def Readies [Regex.Package] {α : Type} (specs : List TagSpec) (x : Except StandardError α) : Prop :=
  (∀ spec ∈ specs, ¬spec.LeavesOpen) ∧ (∃ a, x = .ok a) ∨
    ∃ spec ∈ specs, spec.LeavesOpen ∧ x = .error (.invalidPattern spec.key)

namespace Readies

variable [Regex.Package] {α β : Type} {specs others : List TagSpec}

theorem ok (a : α) : Readies [] (.ok a : Except StandardError α) :=
  .inl ⟨fun _ h => absurd h List.not_mem_nil, a, rfl⟩

theorem bind {x : Except StandardError α} {f : α → Except StandardError β} (hx : Readies specs x)
    (hf : ∀ a, Readies others (f a)) : Readies (specs ++ others) (x >>= f) := by
  rcases hx with ⟨hspecs, a, rfl⟩ | ⟨spec, hspec, hopen, rfl⟩
  · rcases hf a with ⟨hothers, hok⟩ | ⟨spec, hspec, hopen, herror⟩
    · exact .inl ⟨List.forall_mem_append.mpr ⟨hspecs, hothers⟩, hok⟩
    · exact .inr ⟨spec, List.mem_append_right _ hspec, hopen, herror⟩
  · exact .inr ⟨spec, List.mem_append_left _ hspec, hopen, rfl⟩

theorem map {x : Except StandardError α} (hx : Readies specs x) (f : α → β) :
    Readies specs (x >>= fun a => .ok (f a)) := by
  have h := hx.bind fun a => ok (f a)
  rwa [List.append_nil] at h

end Readies

/-- A spec whose format can be read on its own. -/
def TagSpec.Sound [Regex.Package] (s : TagSpec) : Prop := s.checkPattern = .ok () ∧ s.Fits

theorem CompiledSpec.readies_ofSpec [Regex.Package] {s : TagSpec} (h : s.Sound) : Readies [s] (ofSpec s) := by
  obtain ⟨hpattern, hfits⟩ := h
  unfold TagSpec.checkPattern at hpattern
  unfold ofSpec
  cases hs : s.pattern with
  | none =>
    refine .inl ⟨fun spec hspec => ?_, _, rfl⟩
    rintro ⟨source, hsource, -⟩
    rw [List.mem_singleton.mp hspec, hs] at hsource
    contradiction
  | some source =>
    rw [hs] at hpattern
    dsimp only at hpattern
    split at hpattern
    · rename_i hread
      obtain ⟨r, hr⟩ := Option.isSome_iff_exists.mp hread
      dsimp only
      rcases Regex.readWhole?_cases hr with ⟨hclosed, hwhole⟩ | ⟨hopen, -, hwhole⟩
      · refine .inl ⟨fun spec hspec => ?_, ?_⟩
        · rintro ⟨source', hsource, hopen⟩
          rw [List.mem_singleton.mp hspec, hs] at hsource
          exact hclosed (Option.some.inj hsource ▸ hopen)
        · rw [hwhole (hfits source hs)]
          exact ⟨_, rfl⟩
      · refine .inr ⟨s, List.mem_singleton_self s, ⟨source, hs, hopen⟩, ?_⟩
        rw [hwhole]
    · contradiction

theorem CompiledSpec.readies_ofSpecs [Regex.Package] {specs : List TagSpec} (h : ∀ spec ∈ specs, spec.Sound) :
    Readies specs (ofSpecs specs) := by
  induction specs with
  | nil => exact .ok []
  | cons spec specs ih =>
    obtain ⟨hspec, hspecs⟩ := List.forall_mem_cons.mp h
    exact (readies_ofSpec hspec).bind fun c => (ih hspecs).map (c :: ·)

theorem CompiledRule.readies_ofRules [Regex.Package] {rules : List ResourceRule}
    (h : ∀ spec ∈ rules.flatMap (·.overrideTags), spec.Sound) :
    Readies (rules.flatMap (·.overrideTags)) (ofRules rules) := by
  induction rules with
  | nil => exact .ok []
  | cons rule rules ih =>
    rw [List.flatMap_cons] at h ⊢
    obtain ⟨hrule, hrules⟩ := List.forall_mem_append.mp h
    exact (CompiledSpec.readies_ofSpecs hrule).bind fun overrides => (ih hrules).map (⟨rule, overrides⟩ :: ·)

/-- Making a validator for a standard that makes sense. -/
theorem Validator.readies_ofStandard [Regex.Package] {s : Standard} (h : s.check = .ok ()) (hfits : ∀ spec ∈ s.allSpecs, spec.Fits)
    (options : ValidationOptions) : Readies s.allSpecs (ofStandard s options) := by
  have hsound (spec : TagSpec) (hspec : spec ∈ s.allSpecs) : spec.Sound :=
    ⟨Standard.checkPattern_of_check h spec hspec, hfits spec hspec⟩
  obtain ⟨hspecs, hrules⟩ := List.forall_mem_append.mp hsound
  obtain ⟨hrequired, hoptional⟩ := List.forall_mem_append.mp hspecs
  unfold ofStandard Standard.allSpecs Standard.specs
  rw [h, List.append_assoc]
  refine (CompiledSpec.readies_ofSpecs hrequired).bind fun required => ?_
  refine (CompiledSpec.readies_ofSpecs hoptional).bind fun optional => ?_
  exact (CompiledRule.readies_ofRules hrules).map (Validator.mk s options required optional)

/-- A standard that makes sense can be used just if no format of its specs ends in a comment, and the
    only error is that such a format cannot be read. A comment that is open starts with a number sign,
    and no line ends after it. Patterns for types of resources can be read in any case. -/
theorem usable_iff [Regex.Package] {s : Standard} (h : s.check = .ok ()) (hfits : ∀ spec ∈ s.allSpecs, spec.Fits)
    (options : ValidationOptions) :
    ((∃ v, Validator.ofStandard s options = .ok v) ↔ ∀ spec ∈ s.allSpecs, ¬spec.LeavesOpen) ∧
      (∀ e, Validator.ofStandard s options = .error e →
        ∃ spec ∈ s.allSpecs, spec.LeavesOpen ∧ e = .invalidPattern spec.key) ∧
      (∀ spec ∈ s.allSpecs, ∀ source, spec.pattern = some source → Regex.LeavesOpen source →
        Regex.CommentOpen source.toList) ∧
      ∀ rule ∈ s.resourceRules, ∀ type ∈ rule.resourceTypes, Regex.Package.admits (Glob.written type) →
        Regex.read? (Glob.written type) = some (Glob.regex type) := by
  have hreadies := Validator.readies_ofStandard h hfits options
  refine ⟨⟨?_, fun hclosed => ?_⟩, fun e he => ?_, fun spec hspec source hsource hopen => ?_,
    fun _ _ _ _ => Regex.read?_written⟩
  · rintro ⟨v, hv⟩
    rcases hreadies with ⟨hclosed, -⟩ | ⟨_, _, _, herror⟩
    · exact hclosed
    · rw [hv] at herror
      contradiction
  · rcases hreadies with ⟨-, hok⟩ | ⟨spec, hspec, hopen, -⟩
    · exact hok
    · exact absurd hopen (hclosed spec hspec)
  · rcases hreadies with ⟨-, v, hv⟩ | ⟨spec, hspec, hopen, herror⟩
    · rw [hv] at he
      contradiction
    · exact ⟨spec, hspec, hopen, Except.error.inj (he.symm.trans herror)⟩
  · have hpattern := Standard.checkPattern_of_check h spec hspec
    unfold TagSpec.checkPattern at hpattern
    rw [hsource] at hpattern
    dsimp only at hpattern
    split at hpattern
    · rename_i hread
      obtain ⟨r, hr⟩ := Option.isSome_iff_exists.mp hread
      exact ((Regex.readWhole?_cases hr).resolve_left fun hclosed => hclosed.1 hopen).2.1
    · contradiction

/-! ## A format that ends in a comment -/

def formatSpec (format : String) : TagSpec := ⟨"Env", "", [], some format, none, none, none, false, none, []⟩

def formatStandard (format : String) : Standard where
  version := 1
  metadata := ⟨"", "", "", none⟩
  provider := .aws
  requiredTags := [formatSpec format]
  optionalTags := []
  globalExcludes := []
  resourceRules := []

theorem check_formatStandard [Regex.Package] {format : String} (h : (Regex.read? format).isSome) :
    (formatStandard format).check = .ok () := by
  have hspec : (formatSpec format).checkSpec = .ok () := by
    have hblank : TagSpec.isBlank "Env" = false := by decide
    rw [formatSpec, TagSpec.checkSpec, TagSpec.checkPattern]
    simp only [hblank, h]
    rfl
  have hspecs : Standard.checkSpecs [] (formatStandard format).specs = .ok () := by
    show Standard.checkSpecs [] [formatSpec format] = .ok ()
    rw [Standard.checkSpecs, hspec]
    rfl
  have hversion : ¬(formatStandard format).version ≠ Standard.supportedVersion := fun h => h rfl
  unfold Standard.check
  rw [if_neg hversion, hspecs]
  rfl

/-- A comment that ends with its line, -/
def closedFormat : String := "(?x)a # c\n"

/-- and one that does not. -/
def openFormat : String := "(?x)a # c"

theorem toList_closedFormat : closedFormat.toList = ['(', '?', 'x', ')', 'a', ' ', '#', ' ', 'c', '\n'] := rfl

theorem toList_openFormat : openFormat.toList = ['(', '?', 'x', ')', 'a', ' ', '#', ' ', 'c'] := rfl

def extendedFlags : Regex.Flags := { Regex.Flags.start with extended := true }

theorem read?_closedFormat : Regex.read? closedFormat = some (.set (.single 'a')) := by
  refine Regex.read?_eq_some.mpr ⟨rfl, Regex.parse?_eq_some.mpr ⟨⟨[], extendedFlags, []⟩, ?_, rfl⟩⟩
  rw [toList_closedFormat]
  rfl

theorem read?_openFormat : Regex.read? openFormat = some (.set (.single 'a')) := by
  refine Regex.read?_eq_some.mpr ⟨rfl, Regex.parse?_eq_some.mpr ⟨⟨[], extendedFlags, []⟩, ?_, rfl⟩⟩
  rw [toList_openFormat]
  rfl

theorem leavesOpen_openFormat : Regex.LeavesOpen openFormat := by
  refine Option.isSome_iff_exists.mpr ⟨.set (.single 'a'), ?_⟩
  refine Regex.parse?_eq_some.mpr ⟨⟨[], extendedFlags, []⟩, ?_, rfl⟩
  rw [Regex.toList_closing, toList_openFormat]
  rfl

theorem not_leavesOpen_closedFormat : ¬Regex.LeavesOpen closedFormat := by
  intro hopen
  obtain ⟨r, hr⟩ := Option.isSome_iff_exists.mp hopen
  obtain ⟨s, hs, hnil⟩ := Regex.parse?_eq_some.mp hr
  have hread : Regex.readAlternatives 13 [] []
      (.initial (['(', '?', 'x', ')', 'a', ' ', '#', ' ', 'c', '\n'] ++ Regex.closingMark)) =
      some (.set (.single 'a'), ⟨Regex.closingMark, extendedFlags, []⟩) := rfl
  rw [Regex.toList_closing, toList_closedFormat] at hs
  obtain ⟨-, rfl⟩ := Prod.mk.inj (Option.some.inj (hs.symm.trans hread))
  exact List.cons_ne_nil _ _ hnil

theorem usable_iff_closedFormat : (formatStandard closedFormat).check = .ok () ∧
    (∀ spec ∈ (formatStandard closedFormat).allSpecs, spec.Fits) ∧
    ∃ v, Validator.ofStandard (formatStandard closedFormat) ⟨false, false⟩ = .ok v := by
  have hcheck := check_formatStandard (Option.isSome_iff_exists.mpr ⟨_, read?_closedFormat⟩)
  have hfits : ∀ spec ∈ (formatStandard closedFormat).allSpecs, spec.Fits := fun _ _ _ _ => rfl
  refine ⟨hcheck, hfits, (usable_iff hcheck hfits ⟨false, false⟩).1.mpr fun spec hspec => ?_⟩
  rintro ⟨source, hsource, hopen⟩
  obtain rfl : spec = formatSpec closedFormat := List.mem_singleton.mp hspec
  obtain rfl := Option.some.inj hsource
  exact not_leavesOpen_closedFormat hopen

/-- A format that makes sense on its own may end in a comment, but then no validator can be made. -/
theorem unusable_standard : (formatStandard openFormat).check = .ok () ∧
    Validator.ofStandard (formatStandard openFormat) ⟨false, false⟩ = .error (.invalidPattern "Env") := by
  have hcheck := check_formatStandard (Option.isSome_iff_exists.mpr ⟨_, read?_openFormat⟩)
  have hwhole : Regex.readWhole? openFormat = none := by
    rcases Regex.readWhole?_cases read?_openFormat with ⟨hclosed, -⟩ | ⟨-, -, hwhole⟩
    · exact absurd leavesOpen_openFormat hclosed
    · exact hwhole
  have hspec : CompiledSpec.ofSpec (formatSpec openFormat) = .error (.invalidPattern "Env") := by
    unfold CompiledSpec.ofSpec formatSpec
    dsimp only
    rw [hwhole]
  have hrequired : (formatStandard openFormat).requiredTags = [formatSpec openFormat] := rfl
  refine ⟨hcheck, ?_⟩
  rw [Validator.ofStandard, hcheck, hrequired, CompiledSpec.ofSpecs, hspec]
  rfl

end TagAudit
