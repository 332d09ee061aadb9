/-
  TagAudit.Proofs.Symbols.Values — what the value of an expression is made of.

  Given outcomes of all locals, evaluation is a function (`Table.valueIn`). A list has a value
  always, with an item for each expression. An object has one if its keys are scalars
  (`valueIn_object_eq_ok`), a reference if its symbol has one that its steps lead into
  (`valueIn_access_eq_ok`), a template if its interpolation is a scalar
  (`valueIn_template_eq_ok`), and a merge has the maps among its operands
  (`valueIn_merge_eq_ok`).
-/

import TagAudit.Proofs.Symbols.Dependencies

namespace TagAudit.Symbols

open Hcl

/-! ## Sequencing -/

theorem run_bind {α β : Type} (x : Evaluating Id α) (f : α → Evaluating Id β) : (x >>= f).run =
    match x.run with
    | .ok a => (f a).run
    | .error r => .error r := by
  rw [ExceptT.run_bind]
  cases x.run <;> rfl

theorem ok_of_bind {α β : Type} {x : Evaluating Id α} {f : α → Evaluating Id β} {b : β} (h : (x >>= f).run = .ok b) :
    ∃ a, x.run = .ok a ∧ (f a).run = .ok b := by
  rw [run_bind] at h
  split at h
  · rename_i a ha
    exact ⟨a, ha, h⟩
  · contradiction

theorem ok_of_scalarText {reason : Value → Reason} {v : Value} {s : String}
    (h : (scalarText reason v : Evaluating Id String).run = .ok s) : v.scalar? = some s := by
  unfold scalarText at h
  split at h
  · rename_i s' hs
    rw [hs, Except.ok.inj (h : Except.ok s' = _)]
  · contradiction

theorem resolved_of_scalar {v : Value} {s : String} (h : v.scalar? = some s) : v.isResolved := by
  cases v with
  | list => simp [Value.scalar?] at h
  | map => simp [Value.scalar?] at h
  | unresolved => simp [Value.scalar?] at h
  | _ => rfl

section
variable (t : Table) (ρ : Valuation)

/-- The item that stands for an expression in a list or object. -/
def Table.itemIn (e : Expr) : Value := orRaw e (t.valueIn ρ e)

/-! ## Lists and objects -/

theorem run_evalItems : ∀ es, (evalItems t (told ρ) es).run = .ok (es.map (t.itemIn ρ))
  | [] => by simp only [evalItems]; rfl
  | e :: es => by
    have h := run_evalItems es
    simp only [evalItems, run_bind, h]
    rfl

theorem valueIn_list (items : List Expr) : t.valueIn ρ (.list items) = .ok (.list (items.map (t.itemIn ρ))) := by
  simp only [Table.valueIn, eval, run_bind, run_evalItems]
  rfl

def Table.keyIn (k : Key) : Except Reason String := (evalKey t (told ρ) k).run

/-- The entries of an object with the texts of its keys. -/
def Keyed (es : List (Key × Expr)) (kvs : List (String × Value)) : Prop :=
  List.Forall₂ (fun e kv => t.keyIn ρ e.1 = .ok kv.1 ∧ kv.2 = t.itemIn ρ e.2) es kvs

theorem evalEntries_eq_ok {es : List (Key × Expr)} {done m : OrderedMap Value} :
    (evalEntries t (told ρ) es done).run = .ok m ↔ ∃ kvs, Keyed t ρ es kvs ∧ m = OrderedMap.insertAll done kvs := by
  constructor
  · intro h
    induction es generalizing done with
    | nil =>
      simp only [evalEntries] at h
      exact ⟨[], .nil, (Except.ok.inj h).symm⟩
    | cons e es ih =>
      simp only [evalEntries] at h
      obtain ⟨key, hkey, h⟩ := ok_of_bind h
      obtain ⟨o, ho, h⟩ := ok_of_bind h
      obtain rfl : t.valueIn ρ e.2 = o := Except.ok.inj ho
      obtain ⟨kvs, hkvs, rfl⟩ := ih h
      exact ⟨(key, t.itemIn ρ e.2) :: kvs, .cons ⟨hkey, rfl⟩ hkvs, rfl⟩
  · rintro ⟨kvs, hkvs, rfl⟩
    induction hkvs generalizing done with
    | nil => simp only [evalEntries]; rfl
    | @cons e kv es kvs hk _ ih =>
      obtain ⟨key, item⟩ := kv
      obtain ⟨hkey, rfl : item = t.itemIn ρ e.2⟩ := hk
      have hout : (outcomeOf (eval t (told ρ) e.2)).run = .ok (t.valueIn ρ e.2) := rfl
      rw [Table.keyIn] at hkey
      simp only [evalEntries, run_bind, hkey, hout]
      exact ih

theorem valueIn_object_eq_ok {es : List (Key × Expr)} {v : Value} : t.valueIn ρ (.object es) = .ok v ↔
    ∃ kvs, Keyed t ρ es kvs ∧ v = .map (OrderedMap.ofEntries kvs) := by
  simp only [Table.valueIn, eval, run_bind]
  constructor
  · intro h
    split at h
    · rename_i m hm
      obtain ⟨kvs, hkvs, rfl⟩ := (evalEntries_eq_ok t ρ).mp hm
      exact ⟨kvs, hkvs, (Except.ok.inj h).symm⟩
    · contradiction
  · rintro ⟨kvs, hkvs, rfl⟩
    rw [(evalEntries_eq_ok t ρ).mpr ⟨kvs, hkvs, rfl⟩]
    rfl

variable {t ρ}

/-! ## Steps into values -/

theorem valueIn_access_eq_ok {root : Expr} {a : Access} {path : List Access} {v : Value}
    (h : t.valueIn ρ (.access root (a :: path)) = .ok v) : ∃ r u, Reference.ofAccess? root (a :: path) = some r ∧
      (symbolValue t (told ρ) r).run = .ok u ∧ (evalPath t (told ρ) r.display u path).run = .ok v := by
  simp only [Table.valueIn, eval] at h
  split at h
  · contradiction
  · rename_i r hr
    obtain ⟨u, hu, hv⟩ := ok_of_bind h
    exact ⟨r, u, hr, hu, hv⟩

theorem symbolValue_local {r : Reference} (h : r.scope = .local) : (symbolValue t (told ρ) r).run = ρ r.name := by
  rw [symbolValue, h]
  rfl

/-- A reference to a local alone has its outcome. -/
theorem valueIn_local (x : String) : t.valueIn ρ (.access (.variable "local") [.attribute x]) = ρ x := by
  have hr : Reference.ofAccess? (.variable "local") [.attribute x] = some ⟨.local, x, []⟩ := rfl
  have hsymbol : (symbolValue t (told ρ) ⟨.local, x, []⟩).run = ρ x := symbolValue_local rfl
  simp only [Table.valueIn, eval, hr, run_bind, hsymbol, evalPath]
  cases ρ x <;> rfl

theorem evalStep_index_eq_ok {reference : String} {v w : Value} {e : Expr}
    (h : (evalStep t (told ρ) reference v (.index e)).run = .ok w) :
    ∃ i, t.valueIn ρ e = .ok i ∧ lookupIndex i v = .ok w := by
  simp only [evalStep] at h
  exact ok_of_bind h

theorem scalar_of_lookupIndex {i v w : Value} (h : lookupIndex i v = .ok w) : ∃ s, i.scalar? = some s := by
  cases i with
  | text s => exact ⟨_, rfl⟩
  | number n => exact ⟨_, rfl⟩
  | bool b => exact ⟨_, rfl⟩
  | list => cases v <;> contradiction
  | map => cases v <;> contradiction
  | unresolved => cases v <;> contradiction

/-! ## Templates -/

theorem evalParts_eq_ok {ps : List Part} {s : String} (h : (evalParts t (told ρ) ps).run = .ok s) :
    ∀ p ∈ ps, ∃ s, (evalPart t (told ρ) p).run = .ok s := by
  induction ps generalizing s with
  | nil => simp
  | cons p ps ih =>
    simp only [evalParts] at h
    obtain ⟨s', hp, h⟩ := ok_of_bind h
    obtain ⟨s'', hps, -⟩ := ok_of_bind h
    intro p' hp'
    rcases List.mem_cons.mp hp' with rfl | hp'
    · exact ⟨s', hp⟩
    · exact ih hps p' hp'

theorem valueIn_template_eq_ok {form : TemplateForm} {raw : String} {ps : List Part} {v : Value}
    (hp : ∀ e before after, ps ≠ [.interpolation e before after])
    (h : t.valueIn ρ (.template form raw (some ps)) = .ok v) : interpolationCount ps ≤ 1 ∧
      ∀ p ∈ ps, ∃ s, (evalPart t (told ρ) p).run = .ok s := by
  rw [Table.valueIn, eval, evalTemplate_of_ne _ _ hp] at h
  split at h
  · contradiction
  · obtain ⟨s, hs, -⟩ := ok_of_bind h
    exact ⟨by omega, evalParts_eq_ok hs⟩

theorem evalPart_interpolation_eq_ok {e : Expr} {before after : Bool} {s : String}
    (h : (evalPart t (told ρ) (.interpolation e before after)).run = .ok s) :
    ∃ v, t.valueIn ρ e = .ok v ∧ v.scalar? = some s := by
  simp only [evalPart] at h
  obtain ⟨v, hv, hs⟩ := ok_of_bind h
  exact ⟨v, hv, ok_of_scalarText hs⟩

/-! ## Merging -/

theorem evalOperands_eq_ok {es : List Expr} {os : List (Option (OrderedMap Value))}
    (h : (evalOperands t (told ρ) es).run = .ok os) :
    List.Forall₂ (fun e o => operandMap t.strict (t.valueIn ρ e) = .ok o) es os := by
  induction es generalizing os with
  | nil =>
    simp only [evalOperands] at h
    rw [← Except.ok.inj h]
    exact .nil
  | cons e es ih =>
    simp only [evalOperands] at h
    obtain ⟨o, ho, h⟩ := ok_of_bind h
    obtain rfl : t.valueIn ρ e = o := Except.ok.inj ho
    obtain ⟨operand, hoperand, h⟩ := ok_of_bind h
    obtain ⟨os', hos, h⟩ := ok_of_bind h
    rw [← Except.ok.inj h]
    exact .cons hoperand (ih hos)

theorem valueIn_merge_eq_ok {args : List Expr} {v : Value} (h : t.valueIn ρ (.call "merge" args false) = .ok v) :
    ∃ os, List.Forall₂ (fun e o => operandMap t.strict (t.valueIn ρ e) = .ok o) args os ∧ mergeMaps os = .ok v := by
  rw [Table.valueIn, eval_merge] at h
  obtain ⟨os, hos, h⟩ := ok_of_bind h
  exact ⟨os, evalOperands_eq_ok hos, h⟩

end
end TagAudit.Symbols
