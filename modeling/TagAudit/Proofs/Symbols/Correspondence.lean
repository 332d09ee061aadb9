/-
  TagAudit.Proofs.Symbols.Correspondence — evaluations that go hand in hand.

  `eval` looks at its monad only through sequencing, and at locals only through the function
  it is given. So whatever relates two such functions on the references of an expression
  relates the two evaluations of it, if evaluation's own steps keep the relation. A
  `Correspondence` says that they do, step by step, and `Correspondence.eval` is the one
  induction over expressions that all comparisons of evaluations use.

  Where related values are equal values, a `Simulation` of one monad by another is enough
  (`Simulation.exact`).
-/

import Mathlib.Data.List.Forall2
import TagAudit.Symbols.Declarations

namespace TagAudit.Symbols

open Hcl

variable {m n : Type → Type} [Monad m] [Monad n]

/-- Entries with the same key and related values. -/
inductive EntryRel (V : Value → Value → Prop) : String × Value → String × Value → Prop
  | mk {key : String} {v w : Value} (h : V v w) : EntryRel V (key, v) (key, w)

abbrev EntriesRel (V : Value → Value → Prop) : OrderedMap Value → OrderedMap Value → Prop := List.Forall₂ (EntryRel V)

theorem EntriesRel.insert {V : Value → Value → Prop} {es fs : OrderedMap Value} {v w : Value} (h : EntriesRel V es fs)
    (key : String) (hv : V v w) : EntriesRel V (OrderedMap.insert es key v) (OrderedMap.insert fs key w) := by
  induction h with
  | nil => exact .cons (.mk hv) .nil
  | @cons e f es fs he ht ih =>
    obtain ⟨hw⟩ := he
    simp only [OrderedMap.insert]
    split
    · exact .cons (.mk hv) ht
    · exact .cons (.mk hw) ih

/-- The cycle that a reason tells of, on its own or as the reason for an operand. -/
def Reason.cycle? : Reason → Option (List String)
  | .cycle names => some names
  | .operandUnresolved r => r.cycle?
  | _ => none

/-- Relations between the values, outcomes and computations of two evaluations that each step
    of evaluation keeps. Evaluation itself finds no cycles, it only hears of them from locals. -/
structure Correspondence (m n : Type → Type) [Monad m] [Monad n] (t t' : Table) where
  V : Value → Value → Prop
  O : Outcome → Outcome → Prop
  Operand : Option (OrderedMap Value) → Option (OrderedMap Value) → Prop
  /-- Computations with results that a relation holds of. -/
  Rel {α β : Type} : (α → β → Prop) → Evaluating m α → Evaluating n β → Prop
  pure {α β : Type} {P : α → β → Prop} {a : α} {b : β} : P a b → Rel P (pure a) (pure b)
  bind {α β γ δ : Type} {P : α → β → Prop} {Q : γ → δ → Prop} {x : Evaluating m α} {y : Evaluating n β}
    {f : α → Evaluating m γ} {g : β → Evaluating n δ} :
    Rel P x y → (∀ a b, P a b → Rel Q (f a) (g b)) → Rel Q (x >>= f) (y >>= g)
  throw {α β : Type} {P : α → β → Prop} {r : Reason} :
    r.cycle? = none → Rel P (throw r : Evaluating m α) (throw r : Evaluating n β)
  settled {o o' : Outcome} : O o o' → Rel V (settled o) (settled o')
  outcomeOf {x : Evaluating m Value} {y : Evaluating n Value} : Rel V x y → Rel O (outcomeOf x) (outcomeOf y)
  scalarText {v w : Value} {reason : Value → Reason} : (∀ v, (reason v).cycle? = none) →
    V v w → Rel (· = ·) (scalarText reason v) (scalarText reason w)
  scalar {v : Value} : v.scalar?.isSome → V v v
  list {vs ws : List Value} : List.Forall₂ V vs ws → V (.list vs) (.list ws)
  map {es fs : OrderedMap Value} : EntriesRel V es fs → V (.map es) (.map fs)
  orRaw {o o' : Outcome} (e : Expr) : O o o' → V (orRaw e o) (orRaw e o')
  lookupKey {v w : Value} (key : String) : V v w → O (lookupKey key v) (lookupKey key w)
  lookupPosition {v w : Value} (i : Nat) : V v w → O (lookupPosition i v) (lookupPosition i w)
  lookupIndex {i j v w : Value} : V i j → V v w → O (lookupIndex i v) (lookupIndex j w)
  operand {o o' : Outcome} : O o o' →
    Rel Operand (Symbols.settled (operandMap t.strict o)) (Symbols.settled (operandMap t'.strict o'))
  merge {os os' : List (Option (OrderedMap Value))} : List.Forall₂ Operand os os' → O (mergeMaps os) (mergeMaps os')

/-! ## Expressions -/

namespace Correspondence

variable {t t' : Table} (R : Correspondence m n t t') {lv : String → Evaluating m Value}
  {lv' : String → Evaluating n Value}

/-- The symbols of references have related values. -/
def Agree (lv : String → Evaluating m Value) (lv' : String → Evaluating n Value) (rs : List Reference) : Prop :=
  ∀ r ∈ rs, R.Rel R.V (symbolValue t lv r) (symbolValue t' lv' r)

theorem agree_append {rs rs' : List Reference} (h : R.Agree lv lv' (rs ++ rs')) :
    R.Agree lv lv' rs ∧ R.Agree lv lv' rs' :=
  ⟨fun r hr => h r (List.mem_append_left _ hr), fun r hr => h r (List.mem_append_right _ hr)⟩

/-- A template with parts other than one interpolation alone. -/
theorem template {ps : List Part} (hp : ∀ e before after, ps ≠ [.interpolation e before after])
    (h : R.Rel (· = ·) (Symbols.evalParts t lv ps) (Symbols.evalParts t' lv' ps)) :
    R.Rel R.V (Symbols.evalTemplate t lv (some ps)) (Symbols.evalTemplate t' lv' (some ps)) := by
  rw [evalTemplate_of_ne _ _ hp, evalTemplate_of_ne _ _ hp]
  split
  · exact R.throw rfl
  · exact R.bind h fun _ _ hs => R.pure (hs ▸ R.scalar rfl)

mutual
/-- Where the symbols of its references correspond, the evaluations of an expression do. -/
theorem eval : ∀ e, R.Agree lv lv' (references e) → R.Rel R.V (eval t lv e) (eval t' lv' e)
  | .text _, _ => by simp only [Symbols.eval]; exact R.pure (R.scalar rfl)
  | .number _, _ => by simp only [Symbols.eval]; exact R.pure (R.scalar rfl)
  | .bool _, _ => by simp only [Symbols.eval]; exact R.pure (R.scalar rfl)
  | .null, _ => by simp only [Symbols.eval]; exact R.throw rfl
  | .list items, h => by
    simp only [Symbols.eval]
    exact R.bind (evalItems items h) fun _ _ hv => R.pure (R.list hv)
  | .object entries, h => by
    simp only [Symbols.eval]
    exact R.bind (evalEntries entries .nil h) fun _ _ hv => R.pure (R.map hv)
  | .template _ _ parts, h => by simp only [Symbols.eval]; exact evalTemplate parts h
  | .access _ [], _ => by simp only [Symbols.eval]; exact R.throw rfl
  | .access root (a :: path), h => by
    simp only [Symbols.eval]
    obtain ⟨hr, hp⟩ := R.agree_append h
    cases ha : Reference.ofAccess? root (a :: path) with
    | none => exact R.throw rfl
    | some r =>
      have hs := (R.agree_append hr).1 r (by simp [ha])
      exact R.bind hs fun _ _ hv => evalPath _ path hv (R.agree_append hp).2
  | .variable _, _ => by simp only [Symbols.eval]; exact R.throw rfl
  | .call name args x, h => by
    by_cases hn : name = "merge"
    · subst hn
      cases x
      · rw [eval_merge, eval_merge]
        exact R.bind (evalOperands args h) fun _ _ hv => R.settled (R.merge hv)
      · rw [eval_expandedMerge, eval_expandedMerge]
        exact R.throw rfl
    · rw [eval_call_of_ne _ _ hn, eval_call_of_ne _ _ hn]
      exact R.throw rfl
  | .paren e, h => by simp only [Symbols.eval]; exact eval e h
  | .conditional .., _ => by simp only [Symbols.eval]; exact R.throw rfl
  | .unary .., _ => by simp only [Symbols.eval]; exact R.throw rfl
  | .binary .., _ => by simp only [Symbols.eval]; exact R.throw rfl
  | .listFor .., _ => by simp only [Symbols.eval]; exact R.throw rfl
  | .objectFor .., _ => by simp only [Symbols.eval]; exact R.throw rfl
theorem evalItems : ∀ es, R.Agree lv lv' (referencesInAll es) →
    R.Rel (List.Forall₂ R.V) (evalItems t lv es) (evalItems t' lv' es)
  | [], _ => by simp only [Symbols.evalItems]; exact R.pure .nil
  | e :: es, h => by
    obtain ⟨he, hes⟩ := R.agree_append h
    simp only [Symbols.evalItems]
    refine R.bind (R.outcomeOf (eval e he)) fun _ _ ho => ?_
    exact R.bind (evalItems es hes) fun _ _ hv => R.pure (.cons (R.orRaw e ho) hv)
theorem evalEntries : ∀ es {done done' : OrderedMap Value}, EntriesRel R.V done done' →
    R.Agree lv lv' (referencesInEntries es) →
    R.Rel (EntriesRel R.V) (evalEntries t lv es done) (evalEntries t' lv' es done')
  | [], _, _, hd, _ => by simp only [Symbols.evalEntries]; exact R.pure hd
  | (k, e) :: es, _, _, hd, h => by
    obtain ⟨hke, hes⟩ := R.agree_append h
    obtain ⟨hk, he⟩ := R.agree_append hke
    simp only [Symbols.evalEntries]
    refine R.bind (evalKey k hk) fun key _ hkey => ?_
    subst hkey
    refine R.bind (R.outcomeOf (eval e he)) fun _ _ ho => ?_
    exact evalEntries es (hd.insert key (R.orRaw e ho)) hes
theorem evalKey : ∀ k, R.Agree lv lv' (referencesInKey k) →
    R.Rel (· = ·) (evalKey t lv k) (evalKey t' lv' k)
  | .ident _, _ => by simp only [Symbols.evalKey]; exact R.pure rfl
  | .expr e, h => by
    by_cases hv : ∃ name, e = .variable name
    · obtain ⟨name, rfl⟩ := hv
      exact R.pure rfl
    · rw [evalKey_expr_of_ne _ _ (not_exists.mp hv), evalKey_expr_of_ne _ _ (not_exists.mp hv)]
      exact R.bind (eval e h) fun _ _ hv => R.scalarText (fun _ => rfl) hv
theorem evalPath (reference : String) : ∀ as {v w : Value}, R.V v w → R.Agree lv lv' (referencesInPath as) →
    R.Rel R.V (evalPath t lv reference v as) (evalPath t' lv' reference w as)
  | [], _, _, hv, _ => by simp only [Symbols.evalPath]; exact R.pure hv
  | a :: as, _, _, hv, h => by
    obtain ⟨ha, has⟩ := R.agree_append h
    simp only [Symbols.evalPath]
    exact R.bind (evalStep reference a hv ha) fun _ _ hv => evalPath reference as hv has
theorem evalStep (reference : String) : ∀ a {v w : Value}, R.V v w → R.Agree lv lv' (referencesInStep a) →
    R.Rel R.V (evalStep t lv reference v a) (evalStep t' lv' reference w a)
  | .attribute _, _, _, hv, _ => by simp only [Symbols.evalStep]; exact R.settled (R.lookupKey _ hv)
  | .position _, _, _, hv, _ => by simp only [Symbols.evalStep]; exact R.settled (R.lookupPosition _ hv)
  | .index e, _, _, hv, h => by
    simp only [Symbols.evalStep]
    exact R.bind (eval e h) fun _ _ hi => R.settled (R.lookupIndex hi hv)
  | .attributeSplat, _, _, _, _ => by simp only [Symbols.evalStep]; exact R.throw rfl
  | .splat, _, _, _, _ => by simp only [Symbols.evalStep]; exact R.throw rfl
-- The cases tell a lone interpolation, where evaluation goes on in its expression, from any
-- other list of parts.
theorem evalTemplate : ∀ ps, R.Agree lv lv' (referencesInOptionalParts ps) →
    R.Rel R.V (evalTemplate t lv ps) (evalTemplate t' lv' ps)
  | none, _ => by simp only [Symbols.evalTemplate]; exact R.throw rfl
  | some [.interpolation e _ _], h => by
    simp only [Symbols.evalTemplate]
    exact eval e (R.agree_append h).1
  | some [], h => R.template (by simp) (evalParts [] h)
  | some [.literal s], h => R.template (by simp) (evalParts [.literal s] h)
  | some [.conditional c t f], h => R.template (by simp) (evalParts [.conditional c t f] h)
  | some [.loop k v c body], h => R.template (by simp) (evalParts [.loop k v c body] h)
  | some (p :: q :: ps), h => R.template (by simp) (evalParts (p :: q :: ps) h)
theorem evalParts : ∀ ps, R.Agree lv lv' (referencesInParts ps) →
    R.Rel (· = ·) (evalParts t lv ps) (evalParts t' lv' ps)
  | [], _ => by simp only [Symbols.evalParts]; exact R.pure rfl
  | p :: ps, h => by
    obtain ⟨hp, hps⟩ := R.agree_append h
    simp only [Symbols.evalParts]
    refine R.bind (evalPart p hp) fun _ _ hs => ?_
    exact R.bind (evalParts ps hps) fun _ _ hss => R.pure (by rw [hs, hss])
theorem evalPart : ∀ p, R.Agree lv lv' (referencesInPart p) →
    R.Rel (· = ·) (evalPart t lv p) (evalPart t' lv' p)
  | .literal _, _ => by simp only [Symbols.evalPart]; exact R.pure rfl
  | .interpolation e _ _, h => by
    simp only [Symbols.evalPart]
    exact R.bind (eval e h) fun _ _ hv => R.scalarText (fun _ => rfl) hv
  | .conditional .., _ => by simp only [Symbols.evalPart]; exact R.throw rfl
  | .loop .., _ => by simp only [Symbols.evalPart]; exact R.throw rfl
theorem evalOperands : ∀ es, R.Agree lv lv' (referencesInAll es) →
    R.Rel (List.Forall₂ R.Operand) (evalOperands t lv es) (evalOperands t' lv' es)
  | [], _ => by simp only [Symbols.evalOperands]; exact R.pure .nil
  | e :: es, h => by
    obtain ⟨he, hes⟩ := R.agree_append h
    simp only [Symbols.evalOperands]
    refine R.bind (R.outcomeOf (eval e he)) fun _ _ ho => R.bind (R.operand ho) fun _ _ hm => ?_
    exact R.bind (evalOperands es hes) fun _ _ hv => R.pure (.cons hm hv)
end

/-- Symbols agree where variables and locals do. -/
theorem agree {rs : List Reference}
    (hv : ∀ r ∈ rs, r.scope = .variable → R.O (t.variableValue r.name) (t'.variableValue r.name))
    (hl : ∀ r ∈ rs, r.scope = .local → R.Rel R.V (lv r.name) (lv' r.name)) : R.Agree lv lv' rs := by
  intro r hr
  unfold symbolValue
  split
  · rename_i hs
    exact R.settled (hv r hr hs)
  · rename_i hs
    exact hl r hr hs

end Correspondence

/-! ## The same values in two monads -/

/-- Outcomes with results that a relation holds of, or the same reason. -/
inductive SameOutcome {α β : Type} (P : α → β → Prop) : Except Reason α → Except Reason β → Prop
  | ok {a : α} {b : β} (h : P a b) : SameOutcome P (.ok a) (.ok b)
  | error (r : Reason) : SameOutcome P (.error r) (.error r)

theorem SameOutcome.eq {α : Type} {o o' : Except Reason α} (h : SameOutcome (· = ·) o o') : o = o' := by
  cases h with
  | ok h => rw [h]
  | error r => rfl

theorem SameOutcome.refl {α : Type} (o : Except Reason α) : SameOutcome (· = ·) o o := by
  cases o with
  | ok a => exact .ok rfl
  | error r => exact .error r

/-- A relation between the computations of two monads that sequencing keeps. -/
structure Simulation (m n : Type → Type) [Monad m] [Monad n] where
  Rel {α β : Type} : (α → β → Prop) → m α → n β → Prop
  pure {α β : Type} {P : α → β → Prop} {a : α} {b : β} : P a b → Rel P (pure a) (pure b)
  bind {α β γ δ : Type} {P : α → β → Prop} {Q : γ → δ → Prop} {x : m α} {y : n β} {f : α → m γ} {g : β → n δ} :
    Rel P x y → (∀ a b, P a b → Rel Q (f a) (g b)) → Rel Q (x >>= f) (y >>= g)

namespace Simulation

variable (S : Simulation m n) {t t' : Table}

theorem settled {α β : Type} {P : α → β → Prop} {o : Except Reason α} {o' : Except Reason β}
    (h : SameOutcome P o o') :
    S.Rel (SameOutcome P) (Symbols.settled o : Evaluating m α).run (Symbols.settled o' : Evaluating n β).run :=
  S.pure h

/-- Evaluations of the same values, of tables that merge alike. -/
def exact (hs : t.strict = t'.strict) : Correspondence m n t t' where
  V := (· = ·)
  O := (· = ·)
  Operand := (· = ·)
  Rel P x y := S.Rel (SameOutcome P) x.run y.run
  pure h := S.pure (.ok h)
  bind h hf := S.bind h fun _ _ ho => by
    cases ho with
    | ok h => exact hf _ _ h
    | error r => exact S.pure (.error r)
  throw _ := S.pure (.error _)
  settled h := S.settled (h ▸ .refl _)
  outcomeOf h := S.bind h fun _ _ ho => S.pure (.ok ho.eq)
  scalarText _ h := by
    subst h
    unfold Symbols.scalarText
    split
    · exact S.pure (.ok rfl)
    · exact S.pure (.error _)
  scalar _ := rfl
  list h := by rw [List.forall₂_eq_eq_eq] at h; rw [h]
  map h := by
    have h : List.Forall₂ (· = ·) _ _ := h.imp fun _ _ h => by
      obtain ⟨h⟩ := h
      exact congrArg _ h
    rw [List.forall₂_eq_eq_eq] at h
    rw [h]
  orRaw _ h := h ▸ rfl
  lookupKey _ h := h ▸ rfl
  lookupPosition _ h := h ▸ rfl
  lookupIndex hi hv := hi ▸ hv ▸ rfl
  operand h := by rw [h, hs]; exact S.settled (.refl _)
  merge h := by rw [List.forall₂_eq_eq_eq] at h; rw [h]

/-- What locals come to one after the other, if a relation of their outcomes carries over to lists
    of them. -/
theorem outcomes_of {lv : String → Evaluating m Value} {lv' : String → Evaluating n Value} {P : Outcome → Outcome → Prop}
    {Q : List (String × Outcome) → List (String × Outcome) → Prop} (hnil : Q [] [])
    (hcons : ∀ {name o o' os os'}, P o o' → Q os os' → Q ((name, o) :: os) ((name, o') :: os')) :
    ∀ {names : List String}, (∀ name ∈ names, S.Rel P (lv name).run (lv' name).run) →
      S.Rel Q (Declarations.outcomes lv names) (Declarations.outcomes lv' names)
  | [], _ => by simp only [Declarations.outcomes]; exact S.pure hnil
  | name :: names, h => by
    simp only [Declarations.outcomes]
    refine S.bind (h name List.mem_cons_self) fun _ _ ho => ?_
    refine S.bind (outcomes_of hnil hcons fun name hn => h name (List.mem_cons_of_mem _ hn)) fun _ _ hos => ?_
    exact S.pure (hcons ho hos)

theorem outcomes {lv : String → Evaluating m Value} {lv' : String → Evaluating n Value} {names : List String}
    (h : ∀ name ∈ names, S.Rel (SameOutcome (· = ·)) (lv name).run (lv' name).run) :
    S.Rel (· = ·) (Declarations.outcomes lv names) (Declarations.outcomes lv' names) :=
  S.outcomes_of rfl (fun ho hos => by rw [ho.eq, hos]) h

end Simulation

end TagAudit.Symbols
