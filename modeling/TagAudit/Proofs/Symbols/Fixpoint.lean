/-
  TagAudit.Proofs.Symbols.Fixpoint — the outcomes in a table are a solution of its equations.

  Every local has an equation: its outcome is the value of its expression, given the outcomes of
  the locals that it refers to (`Table.Solves`). Building evaluates locals in the order in which
  they are declared, some at the top and some inside others, and each once.

  Proved, where no local can reach itself:
  - `stored_solves`, `stored_unique`: the outcomes in a table solve the equations of what the
    files declare, and nothing else does.
  - `build_fixpoint`: each local's outcome is that of its expression in the finished table, and
    it is the same in whichever order the declarations stand.
-/

import TagAudit.Proofs.Symbols.Declared

namespace TagAudit.Symbols

open Hcl Declarations

section
variable {files : List SourceFile} {overrides : OrderedMap Value} {strict : Bool} {ρ : Valuation}

theorem refers_ofFiles : (Table.ofFiles files overrides strict).Refers =
    (Table.unevaluatedOf files overrides strict).Refers := by
  unfold Table.Refers
  simp only [expression?_ofFiles]

theorem acyclic_iff_unevaluated : (Table.ofFiles files overrides strict).Acyclic ↔
    ∀ x, ¬ Relation.TransGen (Table.unevaluatedOf files overrides strict).Refers x x := by
  rw [Table.acyclic_iff_refers listed_ofFiles, refers_ofFiles]

theorem stored_solves (h : (Table.ofFiles files overrides strict).Acyclic) :
    (Table.unevaluatedOf files overrides strict).Solves (Table.ofFiles files overrides strict).stored := by
  obtain ⟨memo, hhist, hmemo⟩ := ofFiles_history files overrides strict
  have hfits : (Table.unevaluatedOf files overrides strict).Fits (Table.ofFiles files overrides strict).stored
      ⟨memo, []⟩ := by
    refine (Table.fits_iff fresh_unevaluatedOf).mpr ⟨fun x hx => stored_undeclared hx, fun x e o hx hm => ?_⟩
    exact Option.some.inj ((hmemo x e hx).symm.trans hm)
  refine ⟨fun x hx => stored_undeclared hx, fun x e hx => ?_⟩
  exact (hhist.fixpoint (acyclic_iff_unevaluated.mp h) hfits hx (hmemo x e hx)).symm

theorem stored_unique (h : (Table.ofFiles files overrides strict).Acyclic)
    (hρ : (Table.unevaluatedOf files overrides strict).Solves ρ) : ρ = (Table.ofFiles files overrides strict).stored := by
  obtain ⟨memo, hhist, hmemo⟩ := ofFiles_history files overrides strict
  obtain ⟨-, hfits⟩ := (Table.fits_iff fresh_unevaluatedOf).mp (hhist.fits (acyclic_iff_unevaluated.mp h) fresh_unevaluatedOf hρ)
  funext x
  cases hx : (Table.unevaluatedOf files overrides strict).expression? x with
  | none => rw [hρ.undeclared x hx, stored_undeclared hx]
  | some e => exact hfits x e _ hx (hmemo x e hx)

theorem outcome_eq_stored (x : String) : ((Table.ofFiles files overrides strict).locals.get? x).map (·.outcome) =
    ((Table.unevaluatedOf files overrides strict).expression? x).map fun _ =>
      some ((Table.ofFiles files overrides strict).stored x) := by
  rw [← expression?_ofFiles, Table.expression?, Table.stored]
  cases hl : (Table.ofFiles files overrides strict).locals.get? x with
  | none => rfl
  | some l =>
    obtain ⟨o, ho⟩ := Option.isSome_iff_exists.mp (finished_ofFiles x l hl)
    simp [ho]

end

/-- Solutions are the same for files that declare the same. -/
theorem Rearranged.solves {files files' : List SourceFile} (h : Rearranged files files') (hu : Unambiguous files)
    {overrides : OrderedMap Value} {strict : Bool} {ρ : Valuation}
    (hρ : (Table.unevaluatedOf files' overrides strict).Solves ρ) :
    (Table.unevaluatedOf files overrides strict).Solves ρ := by
  have he := h.expression?_eq hu overrides strict
  refine ⟨fun x hx => hρ.undeclared x (he ▸ hx), fun x e hx => ?_⟩
  rw [hρ.declared x e (he ▸ hx)]
  exact Table.valueIn_congr rfl (fun r _ _ => (h.variableValue_eq hu overrides strict r.name).symm) fun _ _ _ => rfl

theorem Rearranged.acyclic {files files' : List SourceFile} (h : Rearranged files files') (hu : Unambiguous files)
    {overrides : OrderedMap Value} {strict : Bool} (hcycle : (Table.ofFiles files overrides strict).Acyclic) :
    (Table.ofFiles files' overrides strict).Acyclic := by
  rw [acyclic_iff_unevaluated] at hcycle ⊢
  have hrefers : (Table.unevaluatedOf files' overrides strict).Refers =
      (Table.unevaluatedOf files overrides strict).Refers := by
    unfold Table.Refers
    rw [h.expression?_eq hu]
  rw [hrefers]
  exact hcycle

/-- Where no local can reach itself, each local has the outcome of its own expression in the
    finished table, and files that declare the same in another order give it the same. -/
theorem build_fixpoint {files : List SourceFile} (hu : Unambiguous files) (overrides : OrderedMap Value) (strict : Bool)
    (hcycle : (Table.ofFiles files overrides strict).Acyclic) :
    (∀ l ∈ (Table.ofFiles files overrides strict).locals.values,
      l.outcome = some ((Table.ofFiles files overrides strict).outcome l.expression)) ∧
    ∀ files', Rearranged files files' → ∀ x,
      ((Table.ofFiles files' overrides strict).locals.get? x).map (·.outcome) =
        ((Table.ofFiles files overrides strict).locals.get? x).map (·.outcome) := by
  refine ⟨fun l hl => ?_, fun files' h x => ?_⟩
  · obtain ⟨hx, ho⟩ := outcome_of_mem hl
    rw [ho, (stored_solves hcycle).declared l.name _ hx, outcome_ofFiles]
  · have hsolves := h.solves hu (stored_solves (h.acyclic hu hcycle))
    rw [outcome_eq_stored, outcome_eq_stored, h.expression?_eq hu, stored_unique hcycle hsolves]

/-- A local that refers to a local of a later file, and to a variable. -/
def forwardFiles : List SourceFile :=
  [⟨"tags.tf", "locals \x7b\n  tags = \x7b team = local.team, env = var.env \x7d\n\x7d\n"⟩,
    ⟨"team.tf", "variable \"env\" \x7b\n  default = \"dev\"\n\x7d\nlocals \x7b\n  team = \"core\"\n\x7d\n"⟩]

theorem build_fixpoint_forwardFiles :
    (Table.ofFiles forwardFiles [] true).locals.keys = ["tags", "team"] ∧
    ((Table.ofFiles forwardFiles [] true).locals.get? "tags").map (·.outcome) =
      some (some (.ok (.map [("team", .text "core"), ("env", .text "dev")]))) ∧
    (∀ l ∈ (Table.ofFiles forwardFiles [] true).locals.values,
      l.outcome = some ((Table.ofFiles forwardFiles [] true).outcome l.expression)) ∧
    ∀ x, ((Table.ofFiles forwardFiles.reverse [] true).locals.get? x).map (·.outcome) =
      ((Table.ofFiles forwardFiles [] true).locals.get? x).map (·.outcome) := by
  have hu : Unambiguous forwardFiles := ⟨by decide +kernel, by decide +kernel⟩
  have hcycle : (Table.ofFiles forwardFiles [] true).Acyclic :=
    acyclic_of_rank (fun x => if x = "tags" then 1 else 0) (by decide +kernel)
  obtain ⟨hfix, hsame⟩ := build_fixpoint hu [] true hcycle
  exact ⟨by decide +kernel, by decide +kernel, hfix, hsame _ (.of_perm forwardFiles.reverse_perm.symm)⟩

end TagAudit.Symbols
