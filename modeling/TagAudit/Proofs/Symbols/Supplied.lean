/-
  TagAudit.Proofs.Symbols.Supplied — values supplied for variables that have none.

  `Supplements` says that overrides keep all that a table was given and add values only for
  variables without one, which are the declared ones without default and those that are not
  declared at all. A lenient table may change its mind then: an operand of `merge` that was passed
  over comes in, and its entries hide others. A strict table has made no such choice.

  Proved: `supplement_keeps_resolved`: what a strict table of some files resolves, it resolves to
  the same value when more is supplied.
-/

import TagAudit.Proofs.Symbols.Refinement

namespace TagAudit.Symbols

open Hcl Declarations

/-- Overrides that keep those of a table, and add values for variables that have none in it. -/
structure Table.Supplements (t : Table) (overrides : OrderedMap Value) : Prop where
  kept : ∀ name v, t.overrides.get? name = some v → overrides.get? name = some v
  added : ∀ name v, overrides.get? name = some v → t.overrides.get? name = some v ∨ ∃ r, t.variableValue name = .error r

/-- A variable that has a value keeps it. -/
theorem Table.Supplements.variableValue {t t' : Table} (h : t.Supplements t'.overrides) (hvars : t'.vars = t.vars)
    {name : String} {v : Value} (hv : t.variableValue name = .ok v) : t'.variableValue name = .ok v := by
  unfold Table.variableValue
  cases hnew : t'.overrides.get? name with
  | some w =>
    -- what stands in the new overrides stood in the old ones, or `hv` fails
    rcases h.added name w hnew with hold | ⟨r, hr⟩
    · unfold Table.variableValue at hv
      rw [hold] at hv
      exact hv
    · rw [hr] at hv
      contradiction
  | none =>
    have hold : t.overrides.get? name = none := by
      by_contra hsome
      obtain ⟨w, hw⟩ := Option.ne_none_iff_exists'.mp hsome
      rw [h.kept name w hw] at hnew
      contradiction
    unfold Table.variableValue at hv
    rw [hold] at hv
    rw [hvars]
    exact hv

theorem variableValue_below {files : List SourceFile} {overrides overrides' : OrderedMap Value} {strict : Bool}
    (h : (Table.ofFiles files overrides strict).Supplements overrides') (name : String) :
    Yields Below ((Table.ofFiles files overrides strict).variableValue name)
      ((Table.ofFiles files overrides' strict).variableValue name) := by
  intro v hv
  have hsupplied : (Table.ofFiles files overrides strict).Supplements (Table.ofFiles files overrides' strict).overrides := h
  exact ⟨v, hsupplied.variableValue rfl hv, .refl v⟩

/-- Where no local can reach itself, whatever a strict table of some files resolves completely
    stays resolved, to the same value, when values are supplied for variables that had none. -/
theorem supplement_keeps_resolved (files : List SourceFile) {overrides overrides' : OrderedMap Value}
    (hcycle : (Table.ofFiles files overrides true).Acyclic)
    (hsupplied : (Table.ofFiles files overrides true).Supplements overrides') :
    (∀ written e, ((Table.ofFiles files overrides true).resolveAs written e).resolved →
      (Table.ofFiles files overrides' true).resolveAs written e = (Table.ofFiles files overrides true).resolveAs written e) ∧
    ∀ text, ((Table.ofFiles files overrides true).resolveText text).resolved →
      (Table.ofFiles files overrides' true).resolveText text = (Table.ofFiles files overrides true).resolveText text := by
  have hresolve : ∀ written e, ((Table.ofFiles files overrides true).resolveAs written e).resolved →
      (Table.ofFiles files overrides' true).resolveAs written e =
        (Table.ofFiles files overrides true).resolveAs written e := by
    intro written e hr
    exact resolved_ofOutcome (outcome_mono hcycle (variableValue_below hsupplied) e) hr
  refine ⟨hresolve, ?_⟩
  intro text hr
  cases he : Table.parseReference? (Text.trimmed text) with
  | none => simp only [Table.resolveText, he]
  | some e =>
    simp only [Table.resolveText, he] at hr ⊢
    exact hresolve _ e hr

/-- An entry of the merged tags is resolved before `env` is supplied, beside one that is not. -/
theorem supplement_keeps_resolved_mergingFiles :
    ((Table.ofFiles mergingFiles [] true).resolveText "local.tags.team").resolved ∧
      (Table.ofFiles mergingFiles [("env", .text "prod")] true).resolveText "local.tags.team" =
        (Table.ofFiles mergingFiles [] true).resolveText "local.tags.team" := by
  have hcycle : (Table.ofFiles mergingFiles [] true).Acyclic :=
    acyclic_of_rank (fun x => if x = "tags" then 1 else 0) (by decide +kernel)
  have hsupplied : (Table.ofFiles mergingFiles [] true).Supplements [("env", .text "prod")] := by
    refine ⟨fun name v h => by contradiction, fun name v h => .inr ?_⟩
    obtain ⟨rfl, -⟩ : "env" = name ∧ Value.text "prod" = v := by simpa [OrderedMap.get?] using h
    exact ⟨.valuelessVariable "env", by decide +kernel⟩
  have hr : ((Table.ofFiles mergingFiles [] true).resolveText "local.tags.team").resolved := by decide +kernel
  exact ⟨hr, (supplement_keeps_resolved mergingFiles hcycle hsupplied).2 _ hr⟩

end TagAudit.Symbols
