/-
  TagAudit.Proofs.Compliance.Standing — the specs in force for one key.

  A tag is checked against the first required spec for its key, or else the first optional one.
  What a change makes of these two (`Standing`) does not depend on the specs for other keys
  (`standing_change`), so what all rules for a type make of them can be told without the others
  (`specFor?_requirements`). A key may be written in several ways. They are the ways of one key if
  no spec tells them apart (`Spells`); letter case tells them apart only where a spec says so.
-/

import Mathlib.Data.List.Find
import TagAudit.Proofs.Compliance.Required

namespace TagAudit

/-- The specs in force for one key: the first required and the first optional one. -/
structure Standing where
  required? : Option CompiledSpec
  optional? : Option CompiledSpec

namespace Standing

/-- The spec that a tag with the key is checked against. -/
def spec? (s : Standing) : Option CompiledSpec := s.required?.or s.optional?

def require (known : Option CompiledSpec) (s : Standing) : Standing := ⟨s.required?.or known, none⟩

def allow (known : Option CompiledSpec) (s : Standing) : Standing :=
  ⟨s.required?, if s.required?.isSome then s.optional? else s.optional?.or known⟩

def replace (new : CompiledSpec) (s : Standing) : Standing :=
  ⟨s.required?.map fun _ => new, s.optional?.map fun _ => new⟩

/-- What a change makes of the specs for a key, where `same` tells how the key is written. -/
def change (v : Validator) (same : String → Bool) (s : Standing) : Change → Standing
  | .require rule k => if same k then s.require (v.known? rule k) else s
  | .allow rule k => if same k then s.allow (v.known? rule k) else s
  | .exclude .. => s
  | .replace new => if same new.spec.key then s.replace new else s

end Standing

namespace Requirements

def standing (r : Requirements) (same : String → Bool) : Standing :=
  ⟨r.required.find? fun c => same c.spec.key, r.optional.find? fun c => same c.spec.key⟩

def Within (r : Requirements) (cs : List CompiledSpec) : Prop := r.required ⊆ cs ∧ r.optional ⊆ cs

end Requirements

namespace Validator

/-- The specs that can come into force for a type of resource. -/
def specsFor (v : Validator) (type : String) : List CompiledSpec :=
  v.required ++ v.optional ++ (v.rulesFor type).flatMap (·.overrides)

/-- The keys that specs and rules for a type of resource speak of. -/
def keysFor (v : Validator) (type : String) : List String :=
  (v.specsFor type).map (·.spec.key) ++
    (v.rulesFor type).flatMap fun rule => rule.rule.requiredTags ++ rule.rule.optionalTags

/-- `same` tells the ways in which a key is written: a spec for it matches all of them that are in
    use, and other specs match none. -/
structure Spells (v : Validator) (type key : String) (same : String → Bool) : Prop where
  own : same key
  matches_own : ∀ c ∈ v.specsFor type, ∀ k ∈ key :: v.keysFor type, same c.spec.key → same k → c.matchesKey k
  eq_of_matches : ∀ c ∈ v.specsFor type, ∀ k ∈ key :: v.keysFor type, c.matchesKey k → same c.spec.key = same k

end Validator

/-! ## One key among others -/

namespace Validator

variable {v : Validator} {type key : String} {same : String → Bool}

theorem declared_subset : v.required ++ v.optional ⊆ v.specsFor type := fun _ hc => List.mem_append_left _ hc

theorem mem_specsFor {rule : CompiledRule} (hrule : rule ∈ v.rulesFor type) {c : CompiledSpec}
    (hc : c ∈ rule.overrides) : c ∈ v.specsFor type :=
  List.mem_append_right _ (List.mem_flatMap.mpr ⟨rule, hrule, hc⟩)

theorem mem_specsFor_of_known {rule : CompiledRule} (hrule : rule ∈ v.rulesFor type) {k : String} {c : CompiledSpec}
    (hc : v.known? rule k = some c) : c ∈ v.specsFor type := by
  have hmem := List.mem_of_find?_eq_some hc
  rw [List.append_assoc] at hmem
  rcases List.mem_append.mp hmem with hmem | hmem
  · exact mem_specsFor hrule hmem
  · exact declared_subset hmem

theorem mem_keysFor {rule : CompiledRule} (hrule : rule ∈ v.rulesFor type) {k : String}
    (hk : k ∈ rule.rule.requiredTags ++ rule.rule.optionalTags) : k ∈ v.keysFor type :=
  List.mem_append_right _ (List.mem_flatMap.mpr ⟨rule, hrule, hk⟩)

/-- Where no spec for a key cares for letter case, the key is written with the same letters in any case. -/
theorem spells_sameLetters (h : ∀ c ∈ v.specsFor type, Text.sameLetters c.spec.key key → c.spec.caseSensitive = false) :
    v.Spells type key (Text.sameLetters · key) where
  own := Text.sameLetters_refl key
  matches_own c hc k _ hkey hk := by
    unfold CompiledSpec.matchesKey TagSpec.matchesKey
    rw [h c hc hkey, if_neg Bool.false_ne_true]
    exact Text.sameLetters_trans hkey (Text.sameLetters_symm hk)
  eq_of_matches c _ k _ hm := by
    have hsame : Text.sameLetters c.spec.key k := TagSpec.sameLetters_of_matchesKey hm
    rw [Bool.eq_iff_iff]
    exact ⟨Text.sameLetters_trans (Text.sameLetters_symm hsame), Text.sameLetters_trans hsame⟩

variable (h : v.Spells type key same)
include h

theorem Spells.matchesKey_eq {c : CompiledSpec} (hc : c ∈ v.specsFor type) {k : String}
    (hk : k ∈ key :: v.keysFor type) (hsame : same k = true) : c.matchesKey k = same c.spec.key := by
  rw [Bool.eq_iff_iff]
  exact ⟨fun hm => (h.eq_of_matches c hc k hk hm).trans hsame, fun hc' => h.matches_own c hc k hk hc' hsame⟩

theorem Spells.matchesKey_eq_false {c : CompiledSpec} (hc : c ∈ v.specsFor type) {k : String}
    (hk : k ∈ key :: v.keysFor type) (hsame : same k = false) (hkey : same c.spec.key = true) :
    c.matchesKey k = false := by
  refine Bool.eq_false_iff.mpr fun hm => ?_
  rw [h.eq_of_matches c hc k hk hm, hsame] at hkey
  contradiction

theorem Spells.find?_matchesKey {l : List CompiledSpec} (hl : l ⊆ v.specsFor type) {k : String}
    (hk : k ∈ key :: v.keysFor type) (hsame : same k = true) :
    l.find? (·.matchesKey k) = l.find? fun c => same c.spec.key :=
  List.find?_congr fun _ hc => h.matchesKey_eq (hl hc) hk hsame

theorem Spells.find?_key {l : List CompiledSpec} (hl : l ⊆ v.specsFor type) :
    l.find? (·.matchesKey key) = l.find? fun c => same c.spec.key :=
  h.find?_matchesKey hl List.mem_cons_self h.own

theorem Spells.any_matchesKey {l : List CompiledSpec} (hl : l ⊆ v.specsFor type) {k : String}
    (hk : k ∈ key :: v.keysFor type) (hsame : same k = true) :
    l.any (·.matchesKey k) = (l.find? fun c => same c.spec.key).isSome := by
  rw [← List.isSome_find?, h.find?_matchesKey hl hk hsame]

/-- Only what is added for the key itself can be found under it. -/
theorem Spells.find?_append_known {rule : CompiledRule} (hrule : rule ∈ v.rulesFor type) {k : String}
    (hk : k ∈ key :: v.keysFor type) (l : List CompiledSpec) (b : Bool) :
    ((l ++ if b then [] else (v.known? rule k).toList).find? fun c => same c.spec.key) =
      (l.find? fun c => same c.spec.key).or (if same k && !b then v.known? rule k else none) := by
  rw [List.find?_append]
  congr 1
  cases b with
  | true => simp
  | false =>
    cases hc : v.known? rule k with
    | none => simp
    | some c =>
      have hsame := h.eq_of_matches c (mem_specsFor_of_known hrule hc) k hk (v.matchesKey_of_known hc)
      simp [hsame]

theorem Spells.find?_map_replacedBy {l : List CompiledSpec} (hl : l ⊆ v.specsFor type) {new : CompiledSpec}
    (hnew : new ∈ v.specsFor type) : ((l.map new.replacedBy).find? fun c => same c.spec.key) =
      if same new.spec.key then (l.find? fun c => same c.spec.key).map fun _ => new
      else l.find? fun c => same c.spec.key := by
  have hk : new.spec.key ∈ key :: v.keysFor type :=
    List.mem_cons_of_mem _ (List.mem_append_left _ (List.mem_map_of_mem hnew))
  -- a spec in the place of another is for the same key, so the same place is found
  have hplace : l.find? ((fun c => same c.spec.key) ∘ new.replacedBy) = l.find? fun c => same c.spec.key := by
    refine List.find?_congr fun c hc => ?_
    dsimp only [Function.comp, CompiledSpec.replacedBy]
    split
    · rename_i hm
      exact (h.eq_of_matches c (hl hc) _ hk hm).symm
    · rfl
  rw [List.find?_map, hplace]
  cases hfind : l.find? fun c => same c.spec.key with
  | none => split <;> rfl
  | some c =>
    have hc : c ∈ v.specsFor type := hl (List.mem_of_find?_eq_some hfind)
    have hkey : same c.spec.key = true := List.find?_some (p := fun c : CompiledSpec => same c.spec.key) hfind
    unfold CompiledSpec.replacedBy
    cases hsame : same new.spec.key with
    | true => simp [h.matchesKey_eq hc hk hsame, hkey]
    | false => simp [h.matchesKey_eq_false hc hk hsame hkey]

variable {r : Requirements} (hr : r.Within (v.specsFor type))
include hr

theorem Spells.standing_require {rule : CompiledRule} (hrule : rule ∈ v.rulesFor type) {k : String}
    (hk : k ∈ key :: v.keysFor type) : (r.require (v.known? rule) k).standing same =
      if same k then (r.standing same).require (v.known? rule k) else r.standing same := by
  unfold Requirements.standing Standing.require
  rw [Requirements.required_require, Requirements.optional_require, h.find?_append_known hrule hk]
  cases hsame : same k with
  | true =>
    have hnone : ((r.optional.filter (!·.matchesKey k)).find? fun c => same c.spec.key) = none := by
      refine List.find?_eq_none.mpr fun c hc hkey => ?_
      obtain ⟨hc, hm⟩ := List.mem_filter.mp hc
      rw [h.matchesKey_eq (hr.2 hc) hk hsame, hkey] at hm
      contradiction
    rw [h.any_matchesKey hr.1 hk hsame, hnone]
    cases r.required.find? fun c => same c.spec.key with
    | none => rfl
    | some c => rfl
  | false =>
    have hkept : ((r.optional.filter (!·.matchesKey k)).find? fun c => same c.spec.key) =
        r.optional.find? fun c => same c.spec.key := by
      rw [List.find?_filter]
      refine List.find?_congr fun c hc => ?_
      have hm := h.matchesKey_eq_false (hr.2 hc) hk hsame
      rw [Bool.eq_iff_iff, decide_eq_true_iff]
      exact ⟨And.right, fun hkey => ⟨by rw [hm hkey]; rfl, hkey⟩⟩
    rw [hkept]
    exact congrArg (Standing.mk · _) (Option.or_none)

theorem Spells.standing_allow {rule : CompiledRule} (hrule : rule ∈ v.rulesFor type) {k : String}
    (hk : k ∈ key :: v.keysFor type) : (r.allow (v.known? rule) k).standing same =
      if same k then (r.standing same).allow (v.known? rule k) else r.standing same := by
  unfold Requirements.standing Standing.allow
  rw [Requirements.required_allow, Requirements.optional_allow, h.find?_append_known hrule hk]
  cases hsame : same k with
  | true =>
    rw [List.any_append, h.any_matchesKey hr.1 hk hsame, h.any_matchesKey hr.2 hk hsame]
    cases r.required.find? fun c => same c.spec.key with
    | none =>
      cases r.optional.find? fun c => same c.spec.key with
      | none => rfl
      | some c => rfl
    | some c => exact congrArg (Standing.mk _) Option.or_none
  | false => exact congrArg (Standing.mk _) Option.or_none

theorem Spells.standing_replace {new : CompiledSpec} (hnew : new ∈ v.specsFor type) : (r.replace new).standing same =
    if same new.spec.key then (r.standing same).replace new else r.standing same := by
  unfold Requirements.standing Standing.replace
  rw [Requirements.required_replace, Requirements.optional_replace, h.find?_map_replacedBy hr.1 hnew,
    h.find?_map_replacedBy hr.2 hnew]
  split <;> rfl

/-- What a change makes of the specs for a key depends on these specs alone. -/
theorem Spells.standing_change {rule : CompiledRule} (hrule : rule ∈ v.rulesFor type) {ch : Change}
    (hch : ch ∈ rule.changes) : (v.change r ch).standing same = (r.standing same).change v same ch := by
  obtain ⟨k, hk, rfl⟩ | ⟨k, hk, rfl⟩ | ⟨k, -, rfl⟩ | ⟨new, hnew, rfl⟩ := mem_changes hch
  · exact h.standing_require hr hrule (List.mem_cons_of_mem _ (mem_keysFor hrule (List.mem_append_left _ hk)))
  · exact h.standing_allow hr hrule (List.mem_cons_of_mem _ (mem_keysFor hrule (List.mem_append_right _ hk)))
  · rfl
  · exact h.standing_replace hr (mem_specsFor hrule hnew)

omit h in
theorem within_change {rule : CompiledRule} (hrule : rule ∈ v.rulesFor type) {ch : Change} (hch : ch ∈ rule.changes) :
    (v.change r ch).Within (v.specsFor type) := by
  have hknown : ∀ k (b : Bool), (if b then [] else (v.known? rule k).toList) ⊆ v.specsFor type := by
    intro k b c hc
    split at hc
    · contradiction
    · exact mem_specsFor_of_known hrule (Option.mem_toList.mp hc)
  obtain ⟨k, -, rfl⟩ | ⟨k, -, rfl⟩ | ⟨k, -, rfl⟩ | ⟨new, hnew, rfl⟩ := mem_changes hch
  · refine ⟨?_, ?_⟩
    · unfold change
      rw [Requirements.required_require]
      exact List.append_subset.mpr ⟨hr.1, hknown _ _⟩
    · unfold change
      rw [Requirements.optional_require]
      exact fun c hc => hr.2 (List.mem_filter.mp hc).1
  · refine ⟨?_, ?_⟩
    · unfold change
      rw [Requirements.required_allow]
      exact hr.1
    · unfold change
      rw [Requirements.optional_allow]
      exact List.append_subset.mpr ⟨hr.2, hknown _ _⟩
  · exact hr
  · have hmap : ∀ l ⊆ v.specsFor type, l.map new.replacedBy ⊆ v.specsFor type := by
      intro l hl c hc
      obtain ⟨old, hold, rfl⟩ := List.mem_map.mp hc
      unfold CompiledSpec.replacedBy
      split
      · exact mem_specsFor hrule hnew
      · exact hl hold
    exact ⟨hmap _ hr.1, hmap _ hr.2⟩

theorem Spells.standing_foldl {changes : List Change}
    (hchanges : changes ⊆ (v.rulesFor type).flatMap CompiledRule.changes) :
    (changes.foldl v.change r).Within (v.specsFor type) ∧
      (changes.foldl v.change r).standing same = changes.foldl (Standing.change v same) (r.standing same) := by
  induction changes generalizing r with
  | nil => exact ⟨hr, rfl⟩
  | cons ch changes ih =>
    obtain ⟨hhead, htail⟩ := List.cons_subset.mp hchanges
    obtain ⟨rule, hrule, hch⟩ := List.mem_flatMap.mp hhead
    rw [List.foldl_cons, List.foldl_cons, ← h.standing_change hr hrule hch]
    exact ih (within_change hr hrule hch) htail

theorem Spells.specFor?_eq : r.specFor? key = (r.standing same).spec? := by
  unfold Requirements.specFor? Requirements.standing Standing.spec?
  rw [h.find?_key hr.1, h.find?_key hr.2]

omit hr in
/-- The spec that a tag is checked against is what the rules make of the specs declared for its key. -/
theorem Spells.specFor?_requirements : (v.requirements type).specFor? key =
    (((v.rulesFor type).flatMap CompiledRule.changes).foldl (Standing.change v same)
      (v.declared.standing same)).spec? := by
  have hdeclared : v.declared.Within (v.specsFor type) := List.append_subset.mp declared_subset
  obtain ⟨hwithin, hstanding⟩ := h.standing_foldl hdeclared (List.Subset.refl _)
  rw [requirements_eq, h.specFor?_eq hwithin, hstanding]

end Validator
end TagAudit
