/-
  TagAudit.Proofs.Compliance.Replacement — specs that rules put in the place of others.

  The last spec that a rule for the type has for a key stands in all places of this key when the
  rule has been applied. Rules after it that say nothing of the values leave it there, with one
  exception: where the key was optional, one that requires it drops the spec and goes back to the
  one that the standard declares (`required?_foldl_requires`).

  Proved: `override_unless_promoted`: a tag is checked against the last spec of the rules for its
  key, unless the key is required only by rules after that. `override_lost`: then what the rule
  says of its values is not checked.
-/

import TagAudit.Proofs.Compliance.Standing

namespace TagAudit

variable {v : Validator} {same : String → Bool}

def Change.requires (same : String → Bool) : Change → Bool
  | .require _ k => same k
  | _ => false

/-- Whether a key is required everywhere or by one of these rules. -/
def Validator.requires (v : Validator) (same : String → Bool) (rules : List CompiledRule) : Bool :=
  (v.required.any fun c => same c.spec.key) || rules.any fun rule => rule.rule.requiredTags.any same

/-- The rule that makes the change has no spec of its own for the key, and knows it as `known`. -/
def Change.Plain (v : Validator) (same : String → Bool) (known : Option CompiledSpec) : Change → Prop
  | .require rule k => same k → v.known? rule k = known
  | .allow rule k => same k → v.known? rule k = known
  | .exclude .. => True
  | .replace new => same new.spec.key = false

/-- Where the change requires a key, its rule knows it. -/
def Change.Knows (v : Validator) (same : String → Bool) : Change → Prop
  | .require rule k => same k → (v.known? rule k).isSome
  | _ => True

theorem Validator.requires_append (rules more : List CompiledRule) : v.requires same (rules ++ more) =
    (v.requires same rules || more.any fun rule => rule.rule.requiredTags.any same) := by
  rw [requires, requires, List.any_append, Bool.or_assoc]

theorem any_requires_changes (rule : CompiledRule) :
    rule.changes.any (Change.requires same) = rule.rule.requiredTags.any same := by
  rw [Bool.eq_iff_iff, List.any_eq_true, List.any_eq_true]
  constructor
  · rintro ⟨ch, hch, hrequires⟩
    obtain ⟨k, hk, rfl⟩ | ⟨k, -, rfl⟩ | ⟨k, -, rfl⟩ | ⟨new, -, rfl⟩ := mem_changes hch
    · exact ⟨k, hk, hrequires⟩
    · contradiction
    · contradiction
    · contradiction
  · exact fun ⟨k, hk, hsame⟩ => ⟨.require rule k, require_mem_changes hk, hsame⟩

namespace Standing

variable {s : Standing} {ch : Change} {changes : List Change} {known : Option CompiledSpec} {c : CompiledSpec}

/-! ## Keys with a spec in force -/

theorem isSome_required?_change (hch : ch.Knows v same) :
    (s.change v same ch).required?.isSome = (s.required?.isSome || ch.requires same) := by
  cases ch with
  | require rule k =>
    rw [change, Change.requires]
    split
    · rename_i hsame
      rw [require, Option.isSome_or, hch hsame, hsame]
    · rename_i hsame
      rw [Bool.eq_false_iff.mpr hsame, Bool.or_false]
  | allow rule k =>
    rw [change]
    split <;> exact (Bool.or_false _).symm
  | exclude rule k => exact (Bool.or_false _).symm
  | replace new =>
    rw [change]
    split
    · rw [replace, Option.isSome_map]
      exact (Bool.or_false _).symm
    · exact (Bool.or_false _).symm

/-- A key is required once and for all. -/
theorem isSome_required?_foldl (hchanges : ∀ ch ∈ changes, ch.Knows v same) :
    (changes.foldl (change v same) s).required?.isSome =
      (s.required?.isSome || changes.any (Change.requires same)) := by
  induction changes generalizing s with
  | nil => exact (Bool.or_false _).symm
  | cons ch changes ih =>
    obtain ⟨hch, hchanges⟩ := List.forall_mem_cons.mp hchanges
    rw [List.foldl_cons, ih hchanges, isSome_required?_change hch, List.any_cons, Bool.or_assoc]

theorem isSome_spec?_change (hch : ch.Knows v same) (hs : s.spec?.isSome) : (s.change v same ch).spec?.isSome := by
  cases ch with
  | require rule k =>
    rw [change]
    split
    · rename_i hsame
      rw [spec?, require, Option.isSome_or, Option.isSome_or, hch hsame, Bool.or_true, Bool.true_or]
    · exact hs
  | allow rule k =>
    rw [change]
    split
    · rw [spec?, Option.isSome_or] at hs ⊢
      cases hrequired : s.required? with
      | none =>
        rw [hrequired] at hs
        simpa [allow, hrequired] using .inl hs
      | some c => simp [allow, hrequired]
    · exact hs
  | exclude rule k => exact hs
  | replace new =>
    rw [change]
    split
    · simpa only [spec?, replace, Option.isSome_or, Option.isSome_map] using hs
    · exact hs

/-- A key that has a spec in force keeps one. -/
theorem isSome_spec?_foldl (hchanges : ∀ ch ∈ changes, ch.Knows v same) (hs : s.spec?.isSome) :
    (changes.foldl (change v same) s).spec?.isSome :=
  List.foldlRecOn (motive := fun s : Standing => s.spec?.isSome) changes _ hs fun _ hs _ hch =>
    isSome_spec?_change (hchanges _ hch) hs

/-! ## Changes without specs of their own for the key -/

theorem required?_change_plain (hch : ch.Plain v same known) (hs : s.required? = some c) :
    (s.change v same ch).required? = some c := by
  cases ch with
  | require rule k =>
    rw [change]
    split
    · rw [require, hs, Option.some_or]
    · exact hs
  | allow rule k =>
    rw [change]
    split <;> exact hs
  | exclude rule k => exact hs
  | replace new =>
    rw [change, hch, if_neg Bool.false_ne_true]
    exact hs

/-- A required spec stays where it is. -/
theorem required?_foldl_plain (hchanges : ∀ ch ∈ changes, ch.Plain v same known) (hs : s.required? = some c) :
    (changes.foldl (change v same) s).required? = some c :=
  List.foldlRecOn (motive := fun s : Standing => s.required? = some c) changes _ hs fun _ hs _ hch =>
    required?_change_plain (hchanges _ hch) hs

theorem change_plain (hch : ch.Plain v same known) (hnot : ch.requires same = false) (hrequired : s.required? = none)
    (hoptional : s.optional?.isSome ∨ known = none) : s.change v same ch = s := by
  obtain ⟨required?, optional?⟩ := s
  obtain rfl : required? = none := hrequired
  cases ch with
  | require rule k =>
    rw [Change.requires] at hnot
    rw [change, hnot, if_neg Bool.false_ne_true]
  | allow rule k =>
    rw [change]
    split
    · rename_i hsame
      rcases hoptional with hoptional | rfl
      · obtain ⟨c, rfl⟩ := Option.isSome_iff_exists.mp hoptional
        rfl
      · rw [allow, hch hsame]
        simp
    · rfl
  | exclude rule k => rfl
  | replace new => rw [change, hch, if_neg Bool.false_ne_true]

/-- An optional spec stays where it is if nothing requires the key. -/
theorem foldl_plain (hchanges : ∀ ch ∈ changes, ch.Plain v same known)
    (hnot : changes.any (Change.requires same) = false) (hrequired : s.required? = none)
    (hoptional : s.optional?.isSome ∨ known = none) :
    changes.foldl (change v same) s = s := by
  refine List.foldlRecOn (motive := (· = s)) changes _ rfl fun s' hs' ch hch => ?_
  obtain rfl := hs'
  exact change_plain (hchanges ch hch) (Bool.eq_false_iff.mpr (List.any_eq_false.mp hnot ch hch)) hrequired hoptional

theorem required?_change_requires (hch : ch.Plain v same known) (hrequires : ch.requires same)
    (hs : s.required? = none) : (s.change v same ch).required? = known := by
  cases ch with
  | require rule k =>
    rw [Change.requires] at hrequires
    rw [change, if_pos hrequires, require, hs, Option.none_or]
    exact hch hrequires
  | allow => contradiction
  | exclude => contradiction
  | replace => contradiction

theorem required?_change_none (hnot : ch.requires same = false) (hs : s.required? = none) :
    (s.change v same ch).required? = none := by
  cases ch with
  | require rule k =>
    rw [Change.requires] at hnot
    rw [change, hnot, if_neg Bool.false_ne_true]
    exact hs
  | allow rule k =>
    rw [change]
    split <;> exact hs
  | exclude rule k => exact hs
  | replace new =>
    rw [change]
    split
    · rw [replace, hs, Option.map_none]
    · exact hs

/-- An optional spec makes place for the one that the rules know where one of them requires the key. -/
theorem required?_foldl_requires (hchanges : ∀ ch ∈ changes, ch.Plain v same (some c))
    (hrequires : changes.any (Change.requires same)) (hs : s.required? = none) :
    (changes.foldl (change v same) s).required? = some c := by
  induction changes generalizing s with
  | nil => contradiction
  | cons ch changes ih =>
    obtain ⟨hch, hchanges⟩ := List.forall_mem_cons.mp hchanges
    rw [List.foldl_cons]
    cases hhead : ch.requires same with
    | true => exact required?_foldl_plain hchanges (required?_change_requires hch hhead hs)
    | false =>
      rw [List.any_cons, hhead, Bool.false_or] at hrequires
      exact ih hchanges hrequires (required?_change_none hhead hs)

theorem isSome_of_requires (hch : ch.Plain v same known) (hknows : ch.Knows v same) (hrequires : ch.requires same) :
    known.isSome := by
  cases ch with
  | require rule k => exact hch hrequires ▸ hknows hrequires
  | allow => contradiction
  | exclude => contradiction
  | replace => contradiction

/-- A spec that comes to stand in all places of a key is the one in force after later changes, too,
    unless only these make the key required. -/
theorem spec?_foldl_replace {before after : List Change} {o : CompiledSpec} (ho : same o.spec.key)
    (hbefore : ∀ ch ∈ before, ch.Knows v same) (hafter : ∀ ch ∈ after, ch.Knows v same)
    (hplain : ∀ ch ∈ after, ch.Plain v same s.spec?)
    (hforce : ((before ++ .replace o :: after).foldl (change v same) s).spec?.isSome) :
    ((before ++ .replace o :: after).foldl (change v same) s).spec? =
      if after.any (Change.requires same) && !(s.required?.isSome || before.any (Change.requires same)) then s.spec?
      else some o := by
  have hreplace : ∀ s', change v same s' (.replace o) = s'.replace o := fun s' => if_pos ho
  rw [List.foldl_append, List.foldl_cons, hreplace] at hforce ⊢
  rw [← isSome_required?_foldl hbefore]
  cases hrequired : (before.foldl (change v same) s).required? with
  | some c =>
    have hthen : ((before.foldl (change v same) s).replace o).required? = some o := by rw [replace, hrequired]; rfl
    rw [spec?, required?_foldl_plain hplain hthen]
    simp
  | none =>
    have hthen : ((before.foldl (change v same) s).replace o).required? = none := by rw [replace, hrequired]; rfl
    cases hany : after.any (Change.requires same) with
    | true =>
      obtain ⟨ch, hch, hrequires⟩ := List.any_eq_true.mp hany
      obtain ⟨c, hc⟩ := Option.isSome_iff_exists.mp (isSome_of_requires (hplain ch hch) (hafter ch hch) hrequires)
      rw [hc] at hplain ⊢
      rw [spec?, required?_foldl_requires hplain hany hthen]
      simp
    | false =>
      -- a declared key has been in force all along, so it is the spec `o` that stands there as optional
      have hoptional : ((before.foldl (change v same) s).replace o).optional?.isSome ∨ s.spec? = none := by
        refine (Option.eq_none_or_eq_some s.spec?).symm.imp_left fun ⟨c, hc⟩ => ?_
        have hsome := isSome_spec?_foldl hbefore (hc ▸ rfl : s.spec?.isSome)
        rw [spec?, hrequired, Option.none_or] at hsome
        rw [replace, Option.isSome_map]
        exact hsome
      rw [foldl_plain hplain hany hthen hoptional] at hforce ⊢
      rw [spec?, hthen, Option.none_or, replace] at hforce ⊢
      obtain ⟨c, hc⟩ := Option.isSome_iff_exists.mp (Option.isSome_map ▸ hforce)
      rw [hc]
      rfl

end Standing

/-! ## Changes of rules -/

namespace Validator

/-- The spec that the standard itself declares for a key. -/
def declared? (v : Validator) (key : String) : Option CompiledSpec :=
  (v.required ++ v.optional).find? (·.matchesKey key)

variable {type key : String} {rule : CompiledRule} {ch : Change}

theorem IsFor.knows {s : Standard} (h : v.IsFor s) (hrule : rule ∈ v.rulesFor type) (hch : ch ∈ rule.changes) :
    ch.Knows v same := by
  obtain ⟨k, hk, rfl⟩ | ⟨k, -, rfl⟩ | ⟨k, -, rfl⟩ | ⟨new, -, rfl⟩ := mem_changes hch
  · exact fun _ =>
      h.known rule (List.mem_filter.mp hrule).1 k (List.mem_append_left _ (List.mem_append_left _ hk))
  · trivial
  · trivial
  · trivial

/-- A rule without a spec of its own for a key knows the declared one. -/
theorem Spells.known?_eq (h : v.Spells type key same) (hrule : rule ∈ v.rulesFor type)
    (hnone : ∀ c ∈ rule.overrides, same c.spec.key = false) {k : String} (hk : k ∈ key :: v.keysFor type)
    (hsame : same k) : v.known? rule k = v.declared? key := by
  have hown : (rule.overrides.find? fun c => same c.spec.key) = none :=
    List.find?_eq_none.mpr fun c hc => Bool.eq_false_iff.mp (hnone c hc)
  have hsubset : rule.overrides ++ (v.required ++ v.optional) ⊆ v.specsFor type :=
    List.append_subset.mpr ⟨fun _ hc => mem_specsFor hrule hc, declared_subset⟩
  unfold known? declared?
  rw [List.append_assoc, h.find?_matchesKey hsubset hk hsame, List.find?_append, hown, Option.none_or,
    h.find?_key declared_subset]

theorem Spells.plain (h : v.Spells type key same) (hrule : rule ∈ v.rulesFor type)
    (hnone : ∀ c ∈ rule.overrides, same c.spec.key = false) (hch : ch ∈ rule.changes) :
    ch.Plain v same (v.declared? key) := by
  obtain ⟨k, hk, rfl⟩ | ⟨k, hk, rfl⟩ | ⟨k, -, rfl⟩ | ⟨new, hnew, rfl⟩ := mem_changes hch
  · exact h.known?_eq hrule hnone (List.mem_cons_of_mem _ (mem_keysFor hrule (List.mem_append_left _ hk)))
  · exact h.known?_eq hrule hnone (List.mem_cons_of_mem _ (mem_keysFor hrule (List.mem_append_right _ hk)))
  · trivial
  · exact hnone new hnew

theorem Spells.spec?_declared (h : v.Spells type key same) : (v.declared.standing same).spec? = v.declared? key := by
  unfold declared?
  rw [h.find?_key declared_subset, List.find?_append]
  rfl

theorem any_requires_flatMap (rules : List CompiledRule) :
    (rules.flatMap CompiledRule.changes).any (Change.requires same) =
      rules.any fun rule => rule.rule.requiredTags.any same := by
  rw [List.any_flatMap]
  exact List.any_congr rfl any_requires_changes

/-- The changes of the rules around the place where one of them puts a spec in the place of others. -/
theorem changes_around (same : String → Bool) {before after : List CompiledRule}
    (hrules : v.rulesFor type = before ++ rule :: after) {earlier later : List CompiledSpec} {o : CompiledSpec}
    (hown : rule.overrides = earlier ++ o :: later) :
    ∃ first, (v.rulesFor type).flatMap CompiledRule.changes =
        first ++ .replace o :: (later.map Change.replace ++ after.flatMap CompiledRule.changes) ∧
      first.any (Change.requires same) = (before ++ [rule]).any fun rule => rule.rule.requiredTags.any same := by
  obtain ⟨head, hhead⟩ : ∃ head, rule.changes = head ++ .replace o :: later.map Change.replace := by
    unfold CompiledRule.changes
    rw [hown, List.map_append, List.map_cons, ← List.append_assoc]
    exact ⟨_, rfl⟩
  refine ⟨before.flatMap CompiledRule.changes ++ head, ?_, ?_⟩
  · rw [hrules, List.flatMap_append, List.flatMap_cons, hhead]
    simp only [List.append_assoc, List.cons_append]
  · have hreplace : (later.map Change.replace).any (Change.requires same) = false := by simp [Change.requires]
    have hhead' : head.any (Change.requires same) = rule.rule.requiredTags.any same := by
      rw [← any_requires_changes, hhead, List.any_append, List.any_cons, hreplace]
      exact (Bool.or_false _).symm
    rw [List.any_append, any_requires_flatMap, hhead', List.any_append, List.any_cons, List.any_nil, Bool.or_false]

end Validator

/-- The last spec of the rules for a key is the one that a tag is checked against, unless only rules
    after it require the key: then it is the spec that the standard declares. -/
theorem override_unless_promoted {s : Standard} {options : ValidationOptions} {v : Validator}
    (hv : Validator.ofStandard s options = .ok v) {type key : String} {same : String → Bool}
    (hkey : v.Spells type key same) {before after : List CompiledRule} {rule : CompiledRule}
    (hrules : v.rulesFor type = before ++ rule :: after) {earlier later : List CompiledSpec} {o : CompiledSpec}
    (hown : rule.overrides = earlier ++ o :: later) (ho : same o.spec.key)
    (hlast : ∀ c ∈ later ++ after.flatMap (·.overrides), same c.spec.key = false)
    (hforce : ((v.requirements type).specFor? key).isSome) :
    (v.requirements type).specFor? key =
      if v.requires same (before ++ rule :: after) && !v.requires same (before ++ [rule]) then v.declared? key
      else some o := by
  have hfor := Validator.isFor_of_ofStandard hv
  obtain ⟨first, hchanges, hfirst⟩ := Validator.changes_around same hrules hown
  have hknows : ∀ ch ∈ (v.rulesFor type).flatMap CompiledRule.changes, ch.Knows v same := by
    intro ch hch
    obtain ⟨r, hr, hch⟩ := List.mem_flatMap.mp hch
    exact hfor.knows hr hch
  have hplain : ∀ ch ∈ later.map Change.replace ++ after.flatMap CompiledRule.changes,
      ch.Plain v same (v.declared? key) := by
    intro ch hch
    rcases List.mem_append.mp hch with hch | hch
    · obtain ⟨c, hc, rfl⟩ := List.mem_map.mp hch
      exact hlast c (List.mem_append_left _ hc)
    · obtain ⟨r, hr, hch⟩ := List.mem_flatMap.mp hch
      have hmem : r ∈ v.rulesFor type := hrules ▸ List.mem_append_right _ (List.mem_cons_of_mem _ hr)
      exact hkey.plain hmem (fun c hc => hlast c (List.mem_append_right _ (List.mem_flatMap.mpr ⟨r, hr, hc⟩))) hch
  rw [hkey.specFor?_requirements] at hforce ⊢
  rw [hchanges] at hforce hknows ⊢
  have hspec := hkey.spec?_declared
  rw [Standing.spec?_foldl_replace ho (fun ch hch => hknows ch (List.mem_append_left _ hch))
    (fun ch hch => hknows ch (List.mem_append_right _ (List.mem_cons_of_mem _ hch))) (hspec ▸ hplain) hforce, hspec]
  have hthen : ((v.declared.standing same).required?.isSome || first.any (Change.requires same)) =
      v.requires same (before ++ [rule]) := by
    rw [hfirst, Validator.requires]
    exact congrArg (· || _) List.isSome_find?
  have hafter : (later.map Change.replace ++ after.flatMap CompiledRule.changes).any (Change.requires same) =
      after.any fun rule => rule.rule.requiredTags.any same := by
    rw [List.any_append, Validator.any_requires_flatMap]
    simp [Change.requires]
  -- the key comes to be required after the rule just if later rules require it and none did before
  have honly : ∀ a b : Bool, (b && !a) = ((a || b) && !a) := by decide
  rw [hthen, hafter, honly, ← Validator.requires_append, ← List.append_cons]

/-! ## A rule that requires what another one has a spec for -/

def stageSpec : TagSpec := { plainSpec "Stage" with allowedValues := ["prod"] }

def stageRule : ResourceRule := ⟨["aws_s3_*"], [], [], [], [stageSpec]⟩

def everywhereRule : ResourceRule := ⟨["aws_*"], ["Stage"], [], [], []⟩

def stageStandard (rules : List ResourceRule) : Standard :=
  { version := 1
    metadata := ⟨"", "", "", none⟩
    provider := .aws
    requiredTags := []
    optionalTags := [plainSpec "Stage"]
    globalExcludes := []
    resourceRules := rules }

def compiledStageRule : CompiledRule := ⟨stageRule, [⟨stageSpec, none⟩]⟩

def compiledEverywhereRule : CompiledRule := ⟨everywhereRule, []⟩

def stageValidator (rules : List CompiledRule) : Validator :=
  ⟨stageStandard (rules.map (·.rule)), ⟨false, false⟩, [], [⟨plainSpec "Stage", none⟩], rules⟩

/-- After a rule that requires the stage, the spec for buckets stays in force. -/
theorem override_unless_promoted_stageRule :
    Validator.ofStandard (stageStandard [everywhereRule, stageRule]) ⟨false, false⟩ =
        .ok (stageValidator [compiledEverywhereRule, compiledStageRule]) ∧
      ((stageValidator [compiledEverywhereRule, compiledStageRule]).requirements "aws_s3_bucket").specFor? "Stage" =
        some ⟨stageSpec, none⟩ := by
  have hv : Validator.ofStandard (stageStandard [everywhereRule, stageRule]) ⟨false, false⟩ =
      .ok (stageValidator [compiledEverywhereRule, compiledStageRule]) := rfl
  have hkey : (stageValidator [compiledEverywhereRule, compiledStageRule]).Spells "aws_s3_bucket" "Stage" _ :=
    Validator.spells_sameLetters (by decide +kernel)
  have hrules : (stageValidator [compiledEverywhereRule, compiledStageRule]).rulesFor "aws_s3_bucket" =
      [compiledEverywhereRule] ++ compiledStageRule :: [] := List.filter_eq_self.mpr (by decide +kernel)
  have hown : compiledStageRule.overrides = [] ++ ⟨stageSpec, none⟩ :: [] := rfl
  refine ⟨hv, ?_⟩
  rw [override_unless_promoted hv hkey hrules hown (by decide +kernel) (by decide +kernel) (by decide +kernel)]
  exact if_neg (by decide +kernel)

/-- Before a rule that requires the stage, the spec for buckets is lost: a stage that it does not
    allow is no violation. -/
theorem override_lost :
    Validator.ofStandard (stageStandard [stageRule, everywhereRule]) ⟨false, false⟩ =
        .ok (stageValidator [compiledStageRule, compiledEverywhereRule]) ∧
      stageRule.appliesTo "aws_s3_bucket" ∧ stageRule.overrideTags = [stageSpec] ∧ everywhereRule.overrideTags = [] ∧
      ((stageValidator [compiledStageRule, compiledEverywhereRule]).requirements "aws_s3_bucket").specFor? "Stage" =
        some ⟨plainSpec "Stage", none⟩ ∧
      (Validator.checkTag ⟨stageSpec, none⟩ "Stage" (.text "test")).map (·.kind) = [.invalidValue] ∧
      ((stageValidator [compiledStageRule, compiledEverywhereRule]).validate logsBucket
        [("Stage", .text "test")]).violations = [] :=
  ⟨rfl, by decide +kernel, rfl, rfl, rfl, by decide +kernel, by decide +kernel⟩

end TagAudit
