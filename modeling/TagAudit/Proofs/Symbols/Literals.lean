/-
  TagAudit.Proofs.Symbols.Literals — literals evaluate to the values that they are.

  `Value.ofLiteral?` finds the value of a literal without a table; it is what defaults of variables
  and files of values are read with. Evaluation goes its own way through lists, the keys and entries
  of objects, and templates. Where the one finds a value the other comes to the same, whatever is
  known of locals, and without asking for any (`eval_ofLiteral?`).

  Proved: `literal_evaluates`: a literal has its value in every table and in the midst of every
  evaluation, and the same value as a tag, as a local, as the default of a variable and in a file of
  values. `default_unless_null`: a literal with null inside it is no default, though null inside a list
  or object is to be kept as unresolved text; `["a", null]` is the smallest list that is lost in this
  way (`list_lost_with_null`).
-/

import Mathlib.Data.List.Induction
import TagAudit.Overrides
import TagAudit.Proofs.Hcl.Nulls
import TagAudit.Proofs.Symbols.Declared
import TagAudit.Symbols.Resolution

namespace TagAudit.Symbols

open Hcl

/-! ## Evaluating literals -/

theorem scalarText_of_scalar {m : Type → Type} [Monad m] {v : Value} {s : String} (h : v.scalar? = some s)
    (reason : Value → Reason) : (scalarText reason v : Evaluating m String) = pure s := by
  rw [scalarText, h]

theorem interpolationCount_literals {ps : List Part} {s : String} (h : Value.literalText? ps = some s) :
    interpolationCount ps = 0 := by
  induction ps generalizing s with
  | nil => rfl
  | cons p ps ih =>
    cases p with
    | literal text =>
      obtain ⟨rest, hrest, -⟩ := Option.map_eq_some_iff.mp h
      simpa [interpolationCount] using ih hrest
    | _ => contradiction

section
variable {m : Type → Type} [Monad m] [LawfulMonad m] (t : Table) (lv : String → Evaluating m Value)

theorem outcomeOf_pure (v : Value) : outcomeOf (pure v : Evaluating m Value) = pure (.ok v) := by
  apply ExceptT.ext
  simp [outcomeOf, ExceptT.run_mk]

theorem evalParts_literals {ps : List Part} {s : String} (h : Value.literalText? ps = some s) :
    evalParts t lv ps = pure s := by
  induction ps generalizing s with
  | nil =>
    obtain rfl := Option.some.inj h
    simp only [evalParts]
  | cons p ps ih =>
    cases p with
    | literal text =>
      obtain ⟨rest, hrest, rfl⟩ := Option.map_eq_some_iff.mp h
      simp only [evalParts, evalPart, ih hrest, pure_bind]
    | _ => contradiction

theorem evalTemplate_literals {ps : List Part} {s : String} (h : Value.literalText? ps = some s) :
    evalTemplate t lv (some ps) = pure (.text s) := by
  have hcount := interpolationCount_literals h
  have hplain : ∀ e before after, ps ≠ [.interpolation e before after] := by
    rintro e before after rfl
    contradiction
  rw [evalTemplate_of_ne t lv hplain, if_neg (by omega), evalParts_literals t lv h, pure_bind]

-- The induction is on the expression, one case for each of its forms that is a literal.
mutual
/-- A literal evaluates to its value, whatever evaluates the locals. -/
theorem eval_ofLiteral? : ∀ {e : Expr} {v : Value}, Value.ofLiteral? e = some v → eval t lv e = pure v
  | .text s, v, h => by
    obtain rfl := Option.some.inj h
    simp only [eval]
  | .number n, v, h => by
    obtain rfl := Option.some.inj h
    simp only [eval]
  | .bool b, v, h => by
    obtain rfl := Option.some.inj h
    simp only [eval]
  | .list items, v, h => by
    rw [Value.ofLiteral?] at h
    obtain ⟨vs, hvs, rfl⟩ := Option.map_eq_some_iff.mp h
    simp only [eval, evalItems_ofLiterals? hvs, pure_bind]
  | .object entries, v, h => by
    rw [Value.ofLiteral?] at h
    obtain ⟨es, hes, rfl⟩ := Option.map_eq_some_iff.mp h
    simp only [eval, evalEntries_ofLiteralEntries? hes, pure_bind]
  | .template _ _ (some parts), v, h => by
    rw [Value.ofLiteral?] at h
    obtain ⟨s, hs, rfl⟩ := Option.map_eq_some_iff.mp h
    rw [eval, evalTemplate_literals t lv hs]
  | .paren e, v, h => by
    rw [Value.ofLiteral?] at h
    rw [eval, eval_ofLiteral? h]
theorem evalItems_ofLiterals? : ∀ {es : List Expr} {vs : List Value}, Value.ofLiterals? es = some vs →
    evalItems t lv es = pure vs
  | [], vs, h => by
    rw [Value.ofLiterals?] at h
    obtain rfl := Option.some.inj h
    simp only [evalItems]
  | e :: es, vs, h => by
    simp only [Value.ofLiterals?, Option.bind_eq_bind, Option.bind_eq_some_iff] at h
    obtain ⟨v, hv, vs', hvs, h⟩ := h
    obtain rfl := Option.some.inj h
    simp only [evalItems, eval_ofLiteral? hv, outcomeOf_pure, evalItems_ofLiterals? hvs, pure_bind, orRaw]
theorem evalEntries_ofLiteralEntries? : ∀ {es : List (Key × Expr)} {done entries : OrderedMap Value},
    Value.ofLiteralEntries? es done = some entries → evalEntries t lv es done = pure entries
  | [], done, entries, h => by
    rw [Value.ofLiteralEntries?] at h
    obtain rfl := Option.some.inj h
    simp only [evalEntries]
  | (k, e) :: es, done, entries, h => by
    simp only [Value.ofLiteralEntries?, Option.bind_eq_bind, Option.bind_eq_some_iff] at h
    obtain ⟨key, hkey, v, hv, h⟩ := h
    simp only [evalEntries, evalKey_literalKey? hkey, eval_ofLiteral? hv, outcomeOf_pure, pure_bind, orRaw,
      evalEntries_ofLiteralEntries? h]
theorem evalKey_literalKey? : ∀ {k : Key} {s : String}, Value.literalKey? k = some s → evalKey t lv k = pure s
  | .ident name, s, h => by
    rw [Value.literalKey?] at h
    obtain rfl := Option.some.inj h
    simp only [evalKey]
  | .expr e, s, h => by
    rw [Value.literalKey?] at h
    obtain ⟨v, hv, hs⟩ := Option.bind_eq_some_iff.mp h
    -- a lone name is read as text by evaluation, and is no literal
    have hname : ∀ name, e ≠ .variable name := by
      rintro name rfl
      contradiction
    rw [evalKey_expr_of_ne t lv hname, eval_ofLiteral? hv, pure_bind, scalarText_of_scalar hs]
end

end

/-! ## Tables -/

namespace Table

/-- In the midst of an evaluation a literal has its value, and nothing comes to be known by it. -/
theorem run_literal (t : Table) {e : Expr} {v : Value} (h : Value.ofLiteral? e = some v) (s : Evaluation) :
    (t.evaluating e : Evaluating (StateM Evaluation) Value).run.run s = (.ok v, s) := by
  rw [evaluating, eval_ofLiteral? t t.localValue h]
  rfl

theorem outcome_literal (t : Table) {e : Expr} {v : Value} (h : Value.ofLiteral? e = some v) :
    t.outcome e = .ok v := by
  rw [outcome, t.run_literal h]

theorem value_resolve (t : Table) (e : Expr) : (t.resolve e).value = orRaw e (t.outcome e) := by
  rw [resolve, resolveAs]
  cases t.outcome e <;> rfl

theorem valueIn_literal (t : Table) (ρ : Valuation) {e : Expr} {v : Value} (h : Value.ofLiteral? e = some v) :
    t.valueIn ρ e = .ok v := by
  rw [valueIn, eval_ofLiteral? t (told ρ) h]
  rfl

end Table

/-- A local whose expression is a literal has its value. -/
theorem outcome_of_literal {files : List SourceFile} {overrides : OrderedMap Value} {strict : Bool} {l : Local}
    (hl : l ∈ (Table.ofFiles files overrides strict).locals.values) {v : Value}
    (h : Value.ofLiteral? l.expression = some v) : l.outcome = some (.ok v) := by
  obtain ⟨hexpr, houtcome⟩ := outcome_of_mem hl
  have hstored : (Table.ofFiles files overrides strict).stored l.name = .ok v := by
    refine stored_of_step (P := fun x o =>
      (Table.unevaluatedOf files overrides strict).expression? x = some l.expression → o = .ok v) ?_ hexpr hexpr
    intro x e ρ hx _ hx'
    obtain rfl : e = l.expression := Option.some.inj (hx.symm.trans hx')
    exact Table.valueIn_literal _ ρ h
  rw [houtcome, hstored]

namespace Declarations

def defaultExpr? (b : Block) : Option Expr :=
  ((b.body.attributes.filter (·.name == "default")).getLast?).map (·.value)

theorem default_describe (var : Variable) (a : Attribute) :
    (describe var a).default = if a.name == "default" then Value.ofLiteral? a.value else var.default := by
  unfold describe
  split <;> simp_all

/-- A variable has the default that its block gives, if that is a literal. -/
theorem default_variableOf (file : SourceFile) (name : String) (b : Block) :
    (variableOf file name b).default = (defaultExpr? b).bind Value.ofLiteral? := by
  have hfold (as : List Attribute) (var : Variable) : (as.foldl describe var).default =
      match (as.filter (·.name == "default")).getLast? with
      | some a => Value.ofLiteral? a.value
      | none => var.default := by
    induction as using List.reverseRecOn with
    | nil => rfl
    | append_singleton as a ih =>
      rw [List.foldl_append, List.foldl_cons, List.foldl_nil, default_describe, List.filter_append]
      by_cases ha : a.name == "default" <;> simp [ha, ih]
  unfold variableOf defaultExpr?
  rw [hfold]
  cases (b.body.attributes.filter (·.name == "default")).getLast? <;> rfl

end Declarations

/-- A literal has its value wherever it is evaluated: in any table, in the midst of any evaluation, as a
    tag, as the expression of a local; and it is read to the same value as the default of a variable and
    in a file of values. -/
theorem literal_evaluates {e : Expr} {v : Value} (h : Value.ofLiteral? e = some v) :
    (∀ (t : Table) (s : Evaluation),
      (t.evaluating e : Evaluating (StateM Evaluation) Value).run.run s = (.ok v, s)) ∧
    (∀ t : Table, t.outcome e = .ok v ∧ (t.resolve e).value = v) ∧
    (∀ files overrides strict, ∀ l ∈ (Table.ofFiles files overrides strict).locals.values,
      l.expression = e → l.outcome = some (.ok v)) ∧
    (∀ file name b, Declarations.defaultExpr? b = some e → (Declarations.variableOf file name b).default = some v) ∧
    ∀ body : Body, ∀ a ∈ body.attributes, a.value = e → (a.name, v) ∈ Overrides.ofBody body := by
  refine ⟨fun t s => t.run_literal h s, fun t => ?_, ?_, ?_, ?_⟩
  · have houtcome : t.outcome e = .ok v := t.outcome_literal h
    refine ⟨houtcome, ?_⟩
    rw [Table.value_resolve, houtcome]
    rfl
  · rintro files overrides strict l hl rfl
    exact outcome_of_literal hl h
  · intro file name b hb
    rw [Declarations.default_variableOf, hb]
    exact h
  · rintro body a ha rfl
    exact List.mem_filterMap.mpr ⟨a, ha, by rw [h]; rfl⟩

def zoneFile : SourceFile :=
  ⟨"zones.tf", "variable \"z\" \x7b\n  default = [1, \"a\"]\n\x7d\nlocals \x7b\n  z = [1, \"a\"]\n\x7d\n"⟩

def zoneList : Expr := .list [.number (.integer 1), .text "a"]

def zoneValue : Value := .list [.number (.integer 1), .text "a"]

def zoneAttribute : Attribute := ⟨"z", zoneList, ⟨0, 12⟩⟩

set_option maxRecDepth 2000 in
theorem literal_evaluates_zoneFile :
    (∀ t : Table, t.outcome zoneList = .ok zoneValue) ∧
    (∃ l ∈ (Table.ofFiles [zoneFile] [] true).locals.values, l.name = "z" ∧ l.outcome = some (.ok zoneValue)) ∧
    (∃ b ∈ Declarations.blocksOf zoneFile, b.labels = ["z"] ∧
      (Declarations.variableOf zoneFile "z" b).default = some zoneValue) ∧
    ("z", zoneValue) ∈ Overrides.ofBody [.attribute zoneAttribute] := by
  have hliteral : Value.ofLiteral? zoneList = some zoneValue := by rfl
  obtain ⟨-, houtcome, hlocals, hdefault, hvalues⟩ := literal_evaluates hliteral
  have hlocal : ∃ l ∈ (Table.ofFiles [zoneFile] [] true).locals.values, l.name = "z" ∧ l.expression = zoneList :=
    ⟨_, List.mem_cons_self, rfl, rfl⟩
  obtain ⟨l, hl, hname, hexpr⟩ := hlocal
  have hblock : ∃ b ∈ Declarations.blocksOf zoneFile,
      b.labels = ["z"] ∧ Declarations.defaultExpr? b = some zoneList := ⟨_, List.mem_cons_self, rfl, rfl⟩
  obtain ⟨b, hb, hlabels, hgiven⟩ := hblock
  have hattribute : zoneAttribute ∈ Body.attributes [.attribute zoneAttribute] := List.mem_cons_self
  refine ⟨fun t => (houtcome t).1, ⟨l, hl, hname, hlocals _ _ _ l hl hexpr⟩, ⟨b, hb, hlabels, ?_⟩, ?_⟩
  · exact hdefault zoneFile "z" b hgiven
  · exact hvalues _ zoneAttribute hattribute rfl

/-! ## Null in defaults -/

/-- A literal is read to the value that it is written as, and is the default of its variable, if there
    is no null in it; with a null at any depth it has no value, and the variable no default. -/
theorem default_unless_null {e : Expr} {v : Value} (h : Value.written? e = some v) :
    Value.ofLiteral? e = (if e.hasNull then none else some v) ∧
    ∀ file name b, Declarations.defaultExpr? b = some e →
      (Declarations.variableOf file name b).default = if e.hasNull then none else some v := by
  have hvalue : Value.ofLiteral? e = if e.hasNull then none else some v := by rw [Value.ofLiteral?_eq, h]
  refine ⟨hvalue, fun file name b hb => ?_⟩
  rw [Declarations.default_variableOf, hb]
  exact hvalue

/-- The expression `["a", null]`. -/
def gappedList : Expr := .list [.text "a", .null]

def gappedVariable : Block :=
  { kind := "variable", labels := ["z"], body := [.attribute ⟨"default", gappedList, ⟨15, 36⟩⟩], span := ⟨0, 38⟩ }

theorem default_unless_null_gappedList :
    Value.ofLiteral? gappedList = none ∧ (Declarations.variableOf zoneFile "z" gappedVariable).default = none := by
  have hwritten : Value.written? gappedList = some (.list [.text "a", .unresolved "null"]) := by rfl
  obtain ⟨hvalue, hdefault⟩ := default_unless_null hwritten
  exact ⟨hvalue, hdefault zoneFile "z" gappedVariable rfl⟩

/-- A null in a list is not kept as unresolved text, though the list itself is not null, and a variable
    with such a list as default has none. -/
theorem list_lost_with_null :
    (¬ ∀ e v, Value.written? e = some v → e.isNull = false → Value.ofLiteral? e = some v) ∧
    ¬ ∀ e v, Value.written? e = some v → e.isNull = false → ∀ file name b, Declarations.defaultExpr? b = some e →
      (Declarations.variableOf file name b).default.isSome := by
  have hwritten : Value.written? gappedList = some (.list [.text "a", .unresolved "null"]) := by rfl
  constructor
  · intro h
    have hnone : Value.ofLiteral? gappedList = none := by rfl
    rw [h gappedList _ hwritten rfl] at hnone
    contradiction
  · intro h
    have hsome := h gappedList _ hwritten rfl zoneFile "z" gappedVariable rfl
    rw [Declarations.default_variableOf] at hsome
    contradiction

end TagAudit.Symbols
