/-
  TagAudit.Proofs.Symbols.Templates — templates with one interpolation.

  A template comes to the whole texts of its literals, with the text of its interpolation between
  them (`evalTemplate_interpolation`). The marks of an interpolation that ask
  for the white space beside it to be dropped make no difference: a mark takes nothing off the
  literal that it stands next to (`marked_not_stripped`).

  Proved: `template_of_interpolation`: what a template with one interpolation evaluates to, between
  literals and alone, and that no template with several or with a directive has a value.
-/

import TagAudit.Proofs.Symbols.Literals
import TagAudit.Proofs.Symbols.Needs

namespace TagAudit.Symbols

open Hcl

section
variable {m : Type → Type} [Monad m] [LawfulMonad m] (t : Table) (lv : String → Evaluating m Value)

theorem evalParts_append (ps qs : List Part) : evalParts t lv (ps ++ qs) = do
    let s ← evalParts t lv ps
    return s ++ (← evalParts t lv qs) := by
  induction ps with
  | nil => simp only [List.nil_append, evalParts, pure_bind, String.empty_append, bind_pure]
  | cons p ps ih => simp only [List.cons_append, evalParts, ih, bind_assoc, pure_bind, String.append_assoc]

/-- Between literals the text of an interpolation takes its place as it is. -/
theorem evalParts_interpolation {before after : List Part} {b a : String} (hb : Value.literalText? before = some b)
    (ha : Value.literalText? after = some a) (e : Expr) (stripBefore stripAfter : Bool) :
    evalParts t lv (before ++ .interpolation e stripBefore stripAfter :: after) = do
      let s ← scalarText .notScalar (← eval t lv e)
      return b ++ s ++ a := by
  simp only [evalParts_append, evalParts, evalPart, evalParts_literals t lv hb, evalParts_literals t lv ha, bind_assoc,
    pure_bind, String.append_assoc]

theorem evalTemplate_interpolation {before after : List Part} {b a : String} (hb : Value.literalText? before = some b)
    (ha : Value.literalText? after = some a) (hne : before ++ after ≠ []) (e : Expr) (stripBefore stripAfter : Bool) :
    evalTemplate t lv (some (before ++ .interpolation e stripBefore stripAfter :: after)) = do
      let s ← scalarText .notScalar (← eval t lv e)
      return .text (b ++ s ++ a) := by
  have hcount : interpolationCount (before ++ .interpolation e stripBefore stripAfter :: after) = 1 := by
    have hbefore := interpolationCount_literals hb
    have hafter := interpolationCount_literals ha
    unfold interpolationCount at *
    rw [List.countP_append, List.countP_cons, hbefore, hafter]
    rfl
  have halone : ∀ e' x y, before ++ .interpolation e stripBefore stripAfter :: after ≠ [.interpolation e' x y] := by
    intro e' x y h
    cases before <;> simp_all
  rw [evalTemplate_of_ne t lv halone, if_neg (by omega), evalParts_interpolation t lv hb ha]
  simp only [bind_assoc, pure_bind]

end

section
variable (d : Declarations) (overrides : OrderedMap Value) (strict : Bool)

/-- With an interpolation between literals a template has a value if that is a scalar. -/
theorem outcome_interpolation {before after : List Part} {b a : String} (hb : Value.literalText? before = some b)
    (ha : Value.literalText? after = some a) (hne : before ++ after ≠ []) (form : TemplateForm) (raw : String) (e : Expr)
    (stripBefore stripAfter : Bool) :
    (d.build overrides strict).outcome
        (.template form raw (some (before ++ .interpolation e stripBefore stripAfter :: after))) =
      match (d.build overrides strict).outcome e with
      | .ok v =>
        match v.scalar? with
        | some s => .ok (.text (b ++ s ++ a))
        | none => .error (.notScalar v)
      | .error r => .error r := by
  have hfinished := Declarations.build_finished d overrides strict
  rw [Table.outcome_eq_valueIn hfinished, Table.outcome_eq_valueIn hfinished, Table.valueIn, eval,
    evalTemplate_interpolation _ _ hb ha hne, run_bind]
  unfold Table.valueIn
  cases (eval (d.build overrides strict) (told (d.build overrides strict).stored) e).run with
  | error r => rfl
  | ok v =>
    simp only [run_bind, scalarText]
    cases v.scalar? <;> rfl

/-- A lone interpolation stands for its expression. -/
theorem outcome_alone (form : TemplateForm) (raw : String) (e : Expr) (stripBefore stripAfter : Bool) :
    (d.build overrides strict).outcome (.template form raw (some [.interpolation e stripBefore stripAfter])) =
      (d.build overrides strict).outcome e := by
  have hfinished := Declarations.build_finished d overrides strict
  rw [Table.outcome_eq_valueIn hfinished, Table.outcome_eq_valueIn hfinished, Table.valueIn, eval, evalTemplate]
  rfl

/-- A template with one interpolation, of a scalar, comes to the whole texts of its literals with the
    text of the scalar in its place, whichever marks the interpolation carries. If there are no literals
    it comes to the value of the interpolation, whatever that is. Templates with several interpolations
    or with a directive have no value. -/
theorem template_of_interpolation (form : TemplateForm) (raw : String) :
    (∀ before after e stripBefore stripAfter v b s a, Value.literalText? before = some b →
      Value.literalText? after = some a → before ++ after ≠ [] → (d.build overrides strict).outcome e = .ok v →
      v.scalar? = some s → (d.build overrides strict).outcome
        (.template form raw (some (before ++ .interpolation e stripBefore stripAfter :: after))) =
          .ok (.text (b ++ s ++ a))) ∧
    (∀ e stripBefore stripAfter, (d.build overrides strict).outcome
      (.template form raw (some [.interpolation e stripBefore stripAfter])) = (d.build overrides strict).outcome e) ∧
    ∀ ps, (1 < interpolationCount ps ∨ ∃ p ∈ ps, isDirective p) →
      ∀ v, (d.build overrides strict).outcome (.template form raw (some ps)) ≠ .ok v := by
  refine ⟨?_, outcome_alone d overrides strict form raw, ?_⟩
  · intro before after e stripBefore stripAfter v b s a hb ha hne hv hs
    rw [outcome_interpolation d overrides strict hb ha hne, hv]
    simp only [hs]
  · intro ps hps v
    have hvalueless : Valueless (.template form raw (some ps)) := by
      rcases hps with hcount | ⟨p, hp, hdirective⟩
      · exact .interpolations hcount
      · exact .directive hdirective hp
    rw [Table.outcome_eq_valueIn (Declarations.build_finished d overrides strict)]
    exact hvalueless.ne_ok v

end

/-- The expression `local.z[0]`. -/
def firstZone : Expr := .access (.variable "local") [.attribute "z", .index (.number (.integer 0))]

theorem template_of_interpolation_zoneFile :
    (Table.ofFiles [zoneFile] [] true).outcome
        (.template .quoted "" (some [.literal "zone ", .interpolation firstZone false true, .literal " of a"])) =
      .ok (.text "zone 1 of a") ∧
    (Table.ofFiles [zoneFile] [] true).outcome (.template .quoted "" (some [.interpolation firstZone false false])) =
      .ok (.number (.integer 1)) ∧
    (Table.ofFiles [zoneFile] [] true).outcome (.template .quoted "" (some
        [.interpolation firstZone false false, .interpolation firstZone false false])) ≠ .ok (.text "11") ∧
    (Table.ofFiles [zoneFile] [] true).outcome (.template .quoted "" (some
        [.conditional firstZone [.literal "a"] none])) ≠ .ok (.text "a") := by
  obtain ⟨hbetween, halone, hvalueless⟩ :=
    template_of_interpolation (Declarations.empty.addAll [zoneFile]) [] true .quoted ""
  have hzone : (Table.ofFiles [zoneFile] [] true).outcome firstZone = .ok (.number (.integer 1)) := by decide +kernel
  have htext : Value.scalar? (.number (.integer 1)) = some "1" := by decide +kernel
  refine ⟨?_, (halone firstZone false false).trans hzone, ?_, ?_⟩
  · exact hbetween [.literal "zone "] [.literal " of a"] firstZone false true _ _ _ _ rfl rfl (by simp) hzone htext
  · exact hvalueless _ (.inl (by decide)) _
  · exact hvalueless _ (.inr ⟨_, List.mem_singleton_self _, rfl⟩) _

/-! ## Marks -/

/-- The text before an interpolation without the white space that its mark asks to drop. -/
def strippedBefore (mark : Bool) (text : String) : String :=
  if mark then String.ofList (Text.trimEnd text.toList) else text

/-- The text after an interpolation without the white space that its mark asks to drop. -/
def strippedAfter (mark : Bool) (text : String) : String :=
  if mark then String.ofList (Text.trimStart text.toList) else text

/-- The parts of `"a ${~ "x" ~} b"`. -/
def markedParts : List Part := [.literal "a ", .interpolation (.text "x") true true, .literal " b"]

/-- Literals are not stripped where the marks ask for it: the text `"a ${~ "x" ~} b"` does not come to
    `axb`. -/
theorem marked_not_stripped :
    (∃ raw, Expr.read? "\"a $\x7b~ \"x\" ~\x7d b\"" = some (.template .quoted raw (some markedParts))) ∧
    ¬ ∀ (d : Declarations) overrides strict form raw before e stripBefore stripAfter after v s,
      (d.build overrides strict).outcome e = .ok v → v.scalar? = some s → (d.build overrides strict).outcome
        (.template form raw (some [.literal before, .interpolation e stripBefore stripAfter, .literal after])) =
          .ok (.text (strippedBefore stripBefore before ++ s ++ strippedAfter stripAfter after)) := by
  refine ⟨⟨_, rfl⟩, fun h => ?_⟩
  have hclaimed : (Declarations.empty.build [] false).outcome (.template .quoted "" (some markedParts)) =
      .ok (.text "axb") :=
    h Declarations.empty [] false .quoted "" "a " (.text "x") true true " b" (.text "x") "x" rfl rfl
  have hwhole : (Declarations.empty.build [] false).outcome (.template .quoted "" (some markedParts)) =
      .ok (.text "a x b") := by
    decide +kernel
  rw [hwhole] at hclaimed
  simp at hclaimed

end TagAudit.Symbols
