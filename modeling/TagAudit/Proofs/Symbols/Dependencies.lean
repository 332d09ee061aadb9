/-
  TagAudit.Proofs.Symbols.Dependencies — the graph of locals, and values of expressions in it.

  A local depends on another one if its list of dependencies names it, and refers to it if its
  expression does; in a table that was collected from files the two are the same
  (`refers_iff_dependsOn`). Given outcomes of all locals, `Table.valueIn` is the value of an
  expression; it looks at nothing but the references of the expression (`valueIn_congr`).
-/

import Mathlib.Logic.Relation
import TagAudit.Proofs.Symbols.Correspondence

namespace TagAudit.Symbols

open Hcl

/-! ## Dependencies of an expression -/

theorem mem_distinct {s : String} {ss : List String} : s ∈ distinct ss ↔ s ∈ ss := by
  have foldl_mem (seen : List String) :
      s ∈ ss.foldl (fun seen s => if seen.contains s then seen else seen ++ [s]) seen ↔ s ∈ seen ∨ s ∈ ss := by
    induction ss generalizing seen with
    | nil => simp
    | cons t ts ih =>
      rw [List.foldl_cons, ih, List.mem_cons, ← or_assoc]
      refine or_congr_left ?_
      split
      · rename_i ht
        rw [List.contains_iff_mem] at ht
        exact ⟨.inl, fun h => h.elim id fun h => h ▸ ht⟩
      · simp
  exact (foldl_mem []).trans (by simp)

theorem distinct_spec (ss : List String) : (distinct ss).Sublist ss ∧ (distinct ss).Nodup := by
  have foldl_spec (seen : List String) (hseen : seen.Nodup) : ∃ kept, kept.Sublist ss ∧
      ss.foldl (fun seen s => if seen.contains s then seen else seen ++ [s]) seen = seen ++ kept ∧
      (seen ++ kept).Nodup := by
    induction ss generalizing seen with
    | nil => exact ⟨[], List.Sublist.refl _, by simp, by simpa using hseen⟩
    | cons t ts ih =>
      rw [List.foldl_cons]
      split
      · obtain ⟨kept, hkept, hfold, hnodup⟩ := ih seen hseen
        exact ⟨kept, hkept.cons t, hfold, hnodup⟩
      · rename_i ht
        rw [List.contains_iff_mem] at ht
        have hpush : (seen ++ [t]).Nodup := by
          rw [List.nodup_append]
          refine ⟨hseen, List.nodup_cons.mpr ⟨by simp, List.nodup_nil⟩, ?_⟩
          intro a ha b hb hab
          rw [List.mem_singleton.mp hb] at hab
          exact ht (hab ▸ ha)
        obtain ⟨kept, hkept, hfold, hnodup⟩ := ih (seen ++ [t]) hpush
        rw [List.append_assoc] at hfold hnodup
        exact ⟨t :: kept, hkept.cons_cons t, hfold, hnodup⟩
  obtain ⟨kept, hkept, hfold, hnodup⟩ := foldl_spec [] List.nodup_nil
  have hdistinct : distinct ss = kept := hfold
  rw [hdistinct]
  exact ⟨hkept, hnodup⟩

theorem symbol_eq_local {r : Reference} {name : String} :
    r.symbol = "local." ++ name ↔ r.scope = .local ∧ r.name = name := by
  obtain ⟨scope, x, path⟩ := r
  cases scope <;> simp [Reference.symbol, Namespace.word, ← String.toList_inj]

theorem mem_dependencies {e : Expr} {name : String} : "local." ++ name ∈ dependencies e ↔
    ∃ r ∈ references e, r.scope = .local ∧ r.name = name := by
  simp only [dependencies, mem_distinct, List.mem_map, symbol_eq_local]

/-! ## The graph of locals -/

namespace Table

/-- `local.y` is among the dependencies of `x`. -/
def DependsOn (t : Table) (x y : String) : Prop :=
  ∃ l, t.locals.get? x = some l ∧ "local." ++ y ∈ l.dependencies

def Acyclic (t : Table) : Prop := ∀ x, ¬ Relation.TransGen t.DependsOn x x

def expression? (t : Table) (x : String) : Option Expr := (t.locals.get? x).map (·.expression)

theorem expression?_of_get? {t : Table} {x : String} {l : Local} (h : t.locals.get? x = some l) :
    t.expression? x = some l.expression := by
  rw [expression?, h]
  rfl

/-- The expression of `x` has a reference to `local.y`. -/
def Refers (t : Table) (x y : String) : Prop :=
  ∃ e, t.expression? x = some e ∧ ∃ r ∈ references e, r.scope = .local ∧ r.name = y

/-- Each local lists the dependencies of its expression. -/
def Listed (t : Table) : Prop := ∀ x l, t.locals.get? x = some l → l.dependencies = dependencies l.expression

theorem refers_iff_dependsOn {t : Table} (h : t.Listed) (x y : String) : t.Refers x y ↔ t.DependsOn x y := by
  constructor
  · rintro ⟨e, he, hr⟩
    obtain ⟨l, hl, rfl⟩ := Option.map_eq_some_iff.mp he
    exact ⟨l, hl, h x l hl ▸ mem_dependencies.mpr hr⟩
  · rintro ⟨l, hl, hy⟩
    exact ⟨l.expression, expression?_of_get? hl, mem_dependencies.mp (h x l hl ▸ hy)⟩

theorem acyclic_iff_refers {t : Table} (h : t.Listed) : t.Acyclic ↔ ∀ x, ¬ Relation.TransGen t.Refers x x := by
  have hrel : t.Refers = t.DependsOn := funext fun x => funext fun y => propext (refers_iff_dependsOn h x y)
  rw [hrel, Acyclic]

end Table

/-! ## Values of expressions -/

abbrev Valuation := String → Outcome

/-- Locals that have given outcomes. -/
def told (ρ : Valuation) (name : String) : Evaluating Id Value := settled (ρ name)

/-- The value of an expression where locals have given outcomes. -/
def Table.valueIn (t : Table) (ρ : Valuation) (e : Expr) : Outcome := (eval t (told ρ) e).run

/-- Computations without effects, with related results. -/
def pointwise : Simulation Id Id where
  Rel P x y := P x y
  pure h := h
  bind h hf := hf _ _ h

theorem Table.valueIn_congr {t t' : Table} {ρ ρ' : Valuation} {e : Expr} (hs : t.strict = t'.strict)
    (hv : ∀ r ∈ references e, r.scope = .variable → t.variableValue r.name = t'.variableValue r.name)
    (hl : ∀ r ∈ references e, r.scope = .local → ρ r.name = ρ' r.name) : t.valueIn ρ e = t'.valueIn ρ' e := by
  let R : Correspondence Id Id t t' := pointwise.exact hs
  have hsame (r : Reference) (hr : r ∈ references e) (hsc : r.scope = .local) :
      SameOutcome (· = ·) (ρ r.name) (ρ' r.name) := hl r hr hsc ▸ .refl _
  exact SameOutcome.eq (R.eval e (R.agree hv hsame))

end TagAudit.Symbols
