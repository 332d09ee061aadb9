/-
  TagAudit.Proofs.Symbols.Footprint — an expression reads no symbols but its dependencies.

  `dependencies` walks an expression without evaluating it: into the keys of objects, indices,
  templates and their directives, and into expressions that have no value at all. Whatever
  evaluation reads has to be among what it lists.

  Proved: `outcome_of_dependencies`: two tables that say the same of the dependencies of an
  expression give it the same value, or the same reason for having none.
-/

import TagAudit.Proofs.Symbols.Memo
import TagAudit.Symbols.Resolution

namespace TagAudit.Symbols

open Hcl

theorem symbol_mem_dependencies {e : Expr} {r : Reference} (h : r ∈ references e) : r.symbol ∈ dependencies e := by
  unfold dependencies
  rw [mem_distinct]
  exact List.mem_map_of_mem h

/-- Two tables say the same of symbols: the value of a variable, and what is stored of a local,
    or that there is none. -/
structure Table.AgreeOn (t t' : Table) (symbols : List String) : Prop where
  vars : ∀ x, "var." ++ x ∈ symbols → t.variableValue x = t'.variableValue x
  locals : ∀ x, "local." ++ x ∈ symbols → (t.locals.get? x).map (·.outcome) = (t'.locals.get? x).map (·.outcome)

namespace Table.AgreeOn

variable {t t' : Table} {e : Expr} {r : Reference}

theorem variable_eq (h : t.AgreeOn t' (dependencies e)) (hr : r ∈ references e) (hs : r.scope = .variable) :
    t.variableValue r.name = t'.variableValue r.name := by
  have hsymbol : r.symbol = "var." ++ r.name := by
    unfold Reference.symbol
    rw [hs]
    rfl
  refine h.vars r.name ?_
  rw [← hsymbol]
  exact symbol_mem_dependencies hr

theorem stored_eq (h : t.AgreeOn t' (dependencies e)) (hr : r ∈ references e) (hs : r.scope = .local) :
    t.stored r.name = t'.stored r.name := by
  have hlisted : "local." ++ r.name ∈ dependencies e := mem_dependencies.mpr ⟨r, hr, hs, rfl⟩
  have hsame := h.locals r.name hlisted
  unfold Table.stored
  cases hl : t.locals.get? r.name with
  | none =>
    cases hl' : t'.locals.get? r.name with
    | none => rfl
    | some l' => simp [hl, hl'] at hsame
  | some l =>
    cases hl' : t'.locals.get? r.name with
    | none => simp [hl, hl'] at hsame
    | some l' =>
      have houtcome : l.outcome = l'.outcome := by simpa [hl, hl'] using hsame
      simp only [houtcome]

/-- With what is stored in them, tables that merge alike agree on the expression itself. -/
theorem valueIn_eq (h : t.AgreeOn t' (dependencies e)) (hstrict : t.strict = t'.strict) :
    t.valueIn t.stored e = t'.valueIn t'.stored e := by
  refine Table.valueIn_congr hstrict ?_ ?_
  · intro r hr hs
    exact h.variable_eq hr hs
  · intro r hr hs
    exact h.stored_eq hr hs

end Table.AgreeOn

/-- The dependencies of an expression are all that evaluating it reads: built tables that merge
    alike and agree on them give it the same outcome, whatever else they hold. -/
theorem outcome_of_dependencies (d d' : Declarations) (overrides overrides' : OrderedMap Value) (strict : Bool)
    (e : Expr) (h : (d.build overrides strict).AgreeOn (d'.build overrides' strict) (dependencies e)) :
    (d.build overrides strict).outcome e = (d'.build overrides' strict).outcome e ∧
      ∀ written, (d.build overrides strict).resolveAs written e = (d'.build overrides' strict).resolveAs written e := by
  have houtcome : (d.build overrides strict).outcome e = (d'.build overrides' strict).outcome e := by
    rw [Table.outcome_eq_valueIn (Declarations.build_finished d overrides strict),
      Table.outcome_eq_valueIn (Declarations.build_finished d' overrides' strict)]
    exact h.valueIn_eq rfl
  refine ⟨houtcome, ?_⟩
  intro written
  unfold Table.resolveAs
  rw [houtcome]

def namesByDefault : List SourceFile :=
  [⟨"names.tf", "variable \"env\" \x7b\n  default = \"dev\"\n\x7d\nlocals \x7b\n  names = \x7b dev = \"d\" \x7d\n\x7d\n"⟩]

def namesByMerge : List SourceFile :=
  [⟨"names.tf", "locals \x7b\n  names = merge(local.base, \x7b\x7d)\n  base = \x7b dev = \"d\" \x7d\n\x7d\n"⟩]

def nameOfEnv : Expr :=
  .access (.variable "local") [.attribute "names", .index (.access (.variable "var") [.attribute "env"])]

theorem outcome_of_dependencies_names :
    (Table.ofFiles namesByDefault [] true).AgreeOn (Table.ofFiles namesByMerge [("env", .text "dev")] true)
        (dependencies nameOfEnv) ∧
      (Table.ofFiles namesByDefault [] true).outcome nameOfEnv =
        (Table.ofFiles namesByMerge [("env", .text "dev")] true).outcome nameOfEnv := by
  have hsymbols : dependencies nameOfEnv = ["local.names", "var.env"] := by decide +kernel
  have hagree : (Table.ofFiles namesByDefault [] true).AgreeOn
      (Table.ofFiles namesByMerge [("env", .text "dev")] true) (dependencies nameOfEnv) := by
    rw [hsymbols]
    constructor
    · intro x hx
      obtain rfl : x = "env" := by simpa [← String.toList_inj] using hx
      decide +kernel
    · intro x hx
      obtain rfl : x = "names" := by simpa [← String.toList_inj] using hx
      decide +kernel
  exact ⟨hagree, (outcome_of_dependencies _ _ _ _ true nameOfEnv hagree).1⟩

end TagAudit.Symbols
